import FrameBatch.Proofs.Engine.Compliant

namespace FrameBatch

open Backend (contents)

class Backend.Retentive (ε : Type) [Backend ε] : Prop where
  held_of_write {name : TensorName} {t : Tensor} {e e' : ε}
    (loaded : Backend.isLoaded e = true) (ends : (Backend.setTensor name t).Ends e (.ok ()) e') :
    contents name e' = .ok t

instance : Backend.Retentive Rehearsal where
  held_of_write := by
    intro name t e e' loaded ends
    obtain ⟨r, found⟩ := Option.isSome_iff_exists.1 loaded
    obtain ⟨_, ⟨_, rfl⟩ | ⟨absent, rfl⟩⟩ := Rehearsal.setTensor_cases found ends
    · rw [Rehearsal.contents_eq rfl, Rehearsal.Request.tensor?]
      simp only [Entries.get?_put_self, Option.some_or]
    · rw [Rehearsal.contents_eq rfl, Rehearsal.Request.tensor?]
      simp only [absent, Entries.get?_put_self, Option.none_or]

instance : Backend.Retentive Onnx.Engine where
  held_of_write := by
    intro name t e e' loaded ends
    obtain ⟨r, found⟩ := Option.isSome_iff_exists.1 loaded
    obtain ⟨_, ⟨_, rfl⟩ | ⟨absent, rfl⟩⟩ := Onnx.setTensor_cases found ends
    · refine (Onnx.tensor_of_found rfl ?_).result
      simp only [Onnx.Request.tensor?, Entries.get?_put_self, Option.some_or]
    · refine (Onnx.tensor_of_found rfl ?_).result
      simp only [Onnx.Request.tensor?, absent, Entries.get?_put_self, Option.none_or]

instance : Backend.Retentive OpenVino.Engine where
  held_of_write := by
    intro name t e e' loaded ends
    obtain ⟨r, found⟩ := Option.isSome_iff_exists.1 loaded
    obtain ⟨_, rfl⟩ := OpenVino.setTensor_cases found ends
    refine (OpenVino.tensor_cases rfl ((OpenVino.tensor name).ends_self _)).2.trans ?_
    simp only [Entries.get?_put_self]

namespace Engine

open Backend (Retentive)

theorem Wraps.held_of_write {κ : Type} [Backend κ] [Retentive κ] {wrap : κ → Engine}
    (wraps : Wraps wrap) {name : TensorName} {t : Tensor} {e : κ} {e' : Engine}
    (loaded : Backend.isLoaded (wrap e) = true)
    (ends : (Backend.setTensor name t).Ends (wrap e) (.ok ()) e') : contents name e' = .ok t := by
  obtain ⟨e₀, writes, rfl⟩ := wraps.ends_dispatch ends
  rw [wraps.isLoaded] at loaded
  have held : contents name e₀ = .ok t := Retentive.held_of_write loaded writes
  show (Engine.dispatch (fun _ _ => Backend.tensor name) (wrap e₀)).result = .ok t
  rw [wraps.dispatch]
  exact held

instance : Retentive Engine where
  held_of_write := by
    rintro name t (e | e | e) e' loaded ends
    · exact wraps_rehearsal.held_of_write loaded ends
    · exact wraps_onnx.held_of_write loaded ends
    · exact wraps_openvino.held_of_write loaded ends

end Engine

namespace Backend

variable {ε : Type} [Backend ε] [Lawful ε] [Compliant ε] [Retentive ε]

theorem replaced_of_write {name : TensorName} {t old : Tensor} {e e' : ε}
    (loaded : isLoaded e = true) (held : contents name e = .ok old) (shape : t.shape = old.shape)
    (writes : (setTensor name t).Ends e (.ok ()) e') :
    isLoaded e' = true ∧ contents name e' = .ok t := by
  have reads := (tensor name).ends_self e
  rw [contents] at held
  rw [held, Compliant.eq_of_read reads] at reads
  exact ⟨Lawful.loaded_of_use loaded (.writes reads writes shape),
    Retentive.held_of_write loaded writes⟩

end Backend

end FrameBatch
