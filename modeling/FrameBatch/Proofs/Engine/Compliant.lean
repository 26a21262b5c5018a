import FrameBatch.Proofs.Engine.Any

namespace FrameBatch

class Backend.Compliant (ε : Type) [Backend ε] : Prop where
  eq_of_read {name : TensorName} {e e' : ε} {r : Except Fault Tensor}
    (ends : (Backend.tensor name).Ends e r e') : e' = e
  write_ok {name : TensorName} {t : Tensor} {e e' : ε} {r : Except Fault Unit}
    (loaded : Backend.isLoaded e = true) (ends : (Backend.setTensor name t).Ends e r e') :
    r = .ok ()
  over_of_wait {e e' : ε} {ended : Bool} (ends : (Backend.wait .null).Ends e (.ok ended) e') :
    ended = true
  close_ok {e e' : ε} {r : Except Fault Unit} (ends : Backend.close.Ends e r e') : r = .ok ()

instance : Backend.Compliant Rehearsal where
  eq_of_read := by
    intro name e e' r ends
    cases found : e.request with
    | none => exact (Rehearsal.ends_theRequest_bind_of_none found ends).2
    | some request => exact (Rehearsal.tensor_cases found ends).1
  write_ok := by
    intro name t e e' r loaded ends
    obtain ⟨request, found⟩ := Option.isSome_iff_exists.1 loaded
    exact (Rehearsal.setTensor_cases found ends).1
  over_of_wait := by
    intro e e' ended ends
    rcases Act.ends_bind.1 ends with ⟨request, middle, _, waits⟩ | ⟨_, same, _⟩
    · split at waits
      · exact Except.ok.inj (Act.ends_pure.1 waits).1
      · rename_i plan _
        -- no limit is not the limit zero, so a held run is waited for as well
        have unlimited : Value.sameScalar .null (.int 0) = false := rfl
        rw [unlimited, Bool.and_false, if_neg (by simp)] at waits
        rcases Act.ends_bind.1 waits with ⟨_, _, _, answers⟩ | ⟨_, same, _⟩
        · exact Except.ok.inj (Act.ends_pure.1 answers).1
        · cases same
    · cases same
  close_ok ends := (Act.ends_modify.1 (Act.ends_note_bind.1 ends)).1

instance : Backend.Compliant Onnx.Engine where
  eq_of_read := by
    intro name e e' r ends
    cases found : e.request with
    | none => exact (Onnx.ends_theRequest_bind_of_none found ends).2
    | some request => exact (Onnx.tensor_cases found ends).1
  write_ok := by
    intro name t e e' r loaded ends
    obtain ⟨request, found⟩ := Option.isSome_iff_exists.1 loaded
    exact (Onnx.setTensor_cases found ends).1
  over_of_wait := by
    intro e e' ended ends
    cases found : e.request with
    | none =>
      obtain ⟨⟨_, same⟩, _⟩ := Onnx.ends_theRequest_bind_of_none found ends
      cases same
    | some request =>
      generalize answer : (Except.ok ended : Except Fault Bool) = r at ends
      cases Onnx.wait_cases found ends with
      | early _ limited _ _ => cases limited
      | idle _ => exact Except.ok.inj answer
      | collected _ => exact Except.ok.inj answer
      | failed _ => cases answer
  close_ok ends := (Act.ends_modify.1 (Act.ends_note_bind.1 ends)).1

instance : Backend.Compliant OpenVino.Engine where
  eq_of_read := by
    intro name e e' r ends
    cases found : e.request with
    | none => exact (OpenVino.ends_theRequest_bind_of_none found ends).2
    | some request => exact (OpenVino.tensor_cases found ends).1
  write_ok := by
    intro name t e e' r loaded ends
    obtain ⟨request, found⟩ := Option.isSome_iff_exists.1 loaded
    exact (OpenVino.setTensor_cases found ends).1
  over_of_wait := by
    intro e e' ended ends
    rcases Act.ends_bind.1 ends with ⟨request, middle, _, waits⟩ | ⟨_, same, _⟩
    · have forever : Value.isNull .null = true := rfl
      rw [if_pos forever, Act.ends_bind_of_ok (Act.ends_call.2 ⟨rfl, rfl⟩)] at waits
      rcases Act.ends_bind.1 waits with ⟨_, _, _, answers⟩ | ⟨_, same, _⟩
      · exact Except.ok.inj (Act.ends_pure.1 answers).1
      · cases same
    · cases same
  close_ok ends := (Act.ends_modify.1 (Act.ends_note_bind.1 ends)).1

namespace Engine

open Backend (Compliant)

namespace Wraps

variable {κ : Type} [Backend κ] {wrap : κ → Engine} [Compliant κ] (wraps : Wraps wrap)

include wraps

theorem eq_of_read {name : TensorName} {e : κ} {e' : Engine} {r : Except Fault Tensor}
    (ends : (Backend.tensor name).Ends (wrap e) r e') : e' = wrap e := by
  obtain ⟨e₀, reads, rfl⟩ := wraps.ends_dispatch ends
  rw [Compliant.eq_of_read reads]

theorem write_ok {name : TensorName} {t : Tensor} {e : κ} {e' : Engine} {r : Except Fault Unit}
    (loaded : Backend.isLoaded (wrap e) = true)
    (ends : (Backend.setTensor name t).Ends (wrap e) r e') : r = .ok () := by
  obtain ⟨e₀, writes, rfl⟩ := wraps.ends_dispatch ends
  rw [wraps.isLoaded] at loaded
  exact Compliant.write_ok loaded writes

theorem over_of_wait {e : κ} {e' : Engine} {ended : Bool}
    (ends : (Backend.wait .null).Ends (wrap e) (.ok ended) e') : ended = true := by
  obtain ⟨e₀, waits, rfl⟩ := wraps.ends_dispatch ends
  exact Compliant.over_of_wait waits

theorem close_ok {e : κ} {e' : Engine} {r : Except Fault Unit}
    (ends : Backend.close.Ends (wrap e) r e') : r = .ok () := by
  obtain ⟨e₀, closes, rfl⟩ := wraps.ends_dispatch ends
  exact Compliant.close_ok closes

end Wraps

instance : Compliant Engine where
  eq_of_read := by
    rintro name (e | e | e) e' r ends
    · exact wraps_rehearsal.eq_of_read ends
    · exact wraps_onnx.eq_of_read ends
    · exact wraps_openvino.eq_of_read ends
  write_ok := by
    rintro name t (e | e | e) e' r loaded ends
    · exact wraps_rehearsal.write_ok loaded ends
    · exact wraps_onnx.write_ok loaded ends
    · exact wraps_openvino.write_ok loaded ends
  over_of_wait := by
    rintro (e | e | e) e' ended ends
    · exact wraps_rehearsal.over_of_wait ends
    · exact wraps_onnx.over_of_wait ends
    · exact wraps_openvino.over_of_wait ends
  close_ok := by
    rintro (e | e | e) e' r ends
    · exact wraps_rehearsal.close_ok ends
    · exact wraps_onnx.close_ok ends
    · exact wraps_openvino.close_ok ends

end Engine

end FrameBatch
