import FrameBatch.Engine.Basic
import FrameBatch.Proofs.Engine.Onnx
import FrameBatch.Proofs.Engine.OpenVino
import FrameBatch.Proofs.Engine.Rehearsal

namespace FrameBatch.Engine

open Backend (Use Uses Watch Lawful KeepsShape)

variable {κ : Type} [Backend κ] {wrap : κ → Engine}

/-- A kind of engines among all engines. -/
structure Wraps (wrap : κ → Engine) : Prop where
  isLoaded : ∀ e, Backend.isLoaded (wrap e) = Backend.isLoaded e
  release : ∀ e, Backend.release (wrap e) = wrap (Backend.release e)
  dispatch : ∀ {α : Type} (x : (ε : Type) → [Backend ε] → Act ε α) (e : κ),
    Engine.dispatch x (wrap e) = ⟨(x κ e).result, wrap (x κ e).state, (x κ e).trail⟩
  load : ∀ (fit : Act Descriptor.Fitting Unit) (d : Descriptor) (n : Network) (e : κ),
    Engine.load fit ⟨d, n, wrap e⟩ =
      let o := Backend.load fit ⟨d, n, e⟩
      ⟨o.result, ⟨o.state.descriptor, o.state.network, wrap o.state.engine⟩, o.trail⟩

namespace Wraps

theorem ends_dispatch (wraps : Wraps wrap) {α : Type} {x : (ε : Type) → [Backend ε] → Act ε α}
    {e : κ} {e' : Engine} {r : Except Fault α} (h : (Engine.dispatch x).Ends (wrap e) r e') :
    ∃ e₀, (x κ).Ends e r e₀ ∧ e' = wrap e₀ := by
  rw [Act.Ends, wraps.dispatch] at h
  exact ⟨(x κ e).state, ⟨h.1, rfl⟩, h.2.symm⟩

theorem ends_load (wraps : Wraps wrap) {fit : Act Descriptor.Fitting Unit} {d : Descriptor}
    {n : Network} {e : κ} {l' : Loading Engine} {r : Except Fault Unit}
    (h : (Engine.load fit).Ends ⟨d, n, wrap e⟩ r l') :
    ∃ l₀, (Backend.load fit).Ends ⟨d, n, e⟩ r l₀ ∧
      l' = ⟨l₀.descriptor, l₀.network, wrap l₀.engine⟩ := by
  rw [Act.Ends, wraps.load] at h
  exact ⟨_, ⟨h.1, rfl⟩, h.2.symm⟩

theorem watch_cases (wraps : Wraps wrap) {e : κ} {e' : Engine} (watch : Watch (wrap e) e') :
    ∃ e₀, Watch e e₀ ∧ e' = wrap e₀ := by
  cases watch with
  | reads ends =>
    obtain ⟨e₀, reads, rfl⟩ := wraps.ends_dispatch ends
    exact ⟨e₀, .reads reads, rfl⟩
  | waits ends =>
    obtain ⟨e₀, waits, rfl⟩ := wraps.ends_dispatch ends
    exact ⟨e₀, .waits waits, rfl⟩
  | released => exact ⟨_, .released e, wraps.release e⟩

theorem use_cases (wraps : Wraps wrap) {e : κ} {e' : Engine} (use : Use (wrap e) e') :
    ∃ e₀, Use e e₀ ∧ e' = wrap e₀ := by
  have watched (watch : Watch (wrap e) e') : ∃ e₀, Use e e₀ ∧ e' = wrap e₀ := by
    obtain ⟨e₀, watch', rfl⟩ := wraps.watch_cases watch
    exact ⟨e₀, watch'.use, rfl⟩
  cases use with
  | reads ends => exact watched (.reads ends)
  | writes reads ends same =>
    obtain ⟨e₁, reads', rfl⟩ := wraps.ends_dispatch reads
    obtain ⟨e₂, writes, rfl⟩ := wraps.ends_dispatch ends
    exact ⟨e₂, .writes reads' writes same, rfl⟩
  | starts ends =>
    obtain ⟨e₀, starts, rfl⟩ := wraps.ends_dispatch ends
    exact ⟨e₀, .starts starts, rfl⟩
  | waits ends => exact watched (.waits ends)
  | infers ends =>
    obtain ⟨e₀, infers, rfl⟩ := wraps.ends_dispatch ends
    exact ⟨e₀, .infers infers, rfl⟩
  | released => exact watched (.released _)

theorem uses_cases (wraps : Wraps wrap) {e : κ} {e' : Engine} (uses : Uses (wrap e) e') :
    ∃ e₀, Uses e e₀ ∧ e' = wrap e₀ := by
  induction uses with
  | refl => exact ⟨e, .refl, rfl⟩
  | tail _ use ih =>
    obtain ⟨e₁, uses, rfl⟩ := ih
    obtain ⟨e₀, use', rfl⟩ := wraps.use_cases use
    exact ⟨e₀, uses.tail use', rfl⟩

theorem keepsShape (wraps : Wraps wrap) {name : TensorName} {shape : List Nat} {e : κ}
    (keeps : KeepsShape name shape e) : KeepsShape name shape (wrap e) := by
  intro e' uses
  obtain ⟨e₀, used, rfl⟩ := wraps.uses_cases uses
  obtain ⟨t, e₁, reads, same⟩ := keeps e₀ used
  have asks : (Backend.tensor name : Act Engine Tensor).Ends (wrap e₀) (.ok t) (wrap e₁) := by
    have answer := wraps.dispatch (fun _ _ => Backend.tensor name) e₀
    rw [reads.result, reads.state] at answer
    exact ⟨congrArg Outcome.result answer, congrArg Outcome.state answer⟩
  exact ⟨t, wrap e₁, asks, same⟩

section

variable [Lawful κ] (wraps : Wraps wrap)

include wraps

theorem loaded_of_load {fit : Act Descriptor.Fitting Unit} {d : Descriptor} {n : Network} {e : κ}
    {l' : Loading Engine} (ends : (Engine.load fit).Ends ⟨d, n, wrap e⟩ (.ok ()) l') :
    Backend.isLoaded l'.engine = true := by
  obtain ⟨l₀, loads, rfl⟩ := wraps.ends_load ends
  exact (wraps.isLoaded _).trans (Lawful.loaded_of_load loads)

theorem load_fits {fit : Act Descriptor.Fitting Unit} {d : Descriptor} {n : Network} {e : κ}
    {l' : Loading Engine} {r : Except Fault Unit}
    (ends : (Engine.load fit).Ends ⟨d, n, wrap e⟩ r l') :
    ∃ r' network, fit.Ends (d, n) r' (l'.descriptor, network) ∧ (r = .ok () → r' = .ok ()) := by
  obtain ⟨l₀, loads, rfl⟩ := wraps.ends_load ends
  exact Lawful.load_fits loads

theorem loaded_of_use {e : κ} {e' : Engine} (loaded : Backend.isLoaded (wrap e) = true)
    (use : Use (wrap e) e') : Backend.isLoaded e' = true := by
  obtain ⟨e₀, used, rfl⟩ := wraps.use_cases use
  rw [wraps.isLoaded] at loaded ⊢
  exact Lawful.loaded_of_use loaded used

theorem write_fault {name : TensorName} {t : Tensor} {e : κ} {e' : Engine} {f : Fault}
    (ends : (Backend.setTensor name t).Ends (wrap e) (.error f) e') : ¬ f.Misfit := by
  obtain ⟨e₀, writes, rfl⟩ := wraps.ends_dispatch ends
  exact Lawful.write_fault writes

end

end Wraps

theorem wraps_rehearsal : Wraps Engine.rehearsal :=
  ⟨fun _ => rfl, fun _ => rfl, fun _ _ => rfl, fun _ _ _ _ => rfl⟩

theorem wraps_onnx : Wraps Engine.onnx :=
  ⟨fun _ => rfl, fun _ => rfl, fun _ _ => rfl, fun _ _ _ _ => rfl⟩

theorem wraps_openvino : Wraps Engine.openvino :=
  ⟨fun _ => rfl, fun _ => rfl, fun _ _ => rfl, fun _ _ _ _ => rfl⟩

instance : Lawful Engine where
  loaded_of_load := by
    rintro fit ⟨d, n, e | e | e⟩ l' ends
    · exact wraps_rehearsal.loaded_of_load ends
    · exact wraps_onnx.loaded_of_load ends
    · exact wraps_openvino.loaded_of_load ends
  load_fits := by
    rintro fit ⟨d, n, e | e | e⟩ l' r ends
    · exact wraps_rehearsal.load_fits ends
    · exact wraps_onnx.load_fits ends
    · exact wraps_openvino.load_fits ends
  loaded_of_use := by
    rintro (e | e | e) e' loaded use
    · exact wraps_rehearsal.loaded_of_use loaded use
    · exact wraps_onnx.loaded_of_use loaded use
    · exact wraps_openvino.loaded_of_use loaded use
  write_fault := by
    rintro name t (e | e | e) e' f ends
    · exact wraps_rehearsal.write_fault ends
    · exact wraps_onnx.write_fault ends
    · exact wraps_openvino.write_fault ends

def bufferShape? (e : Engine) (name : TensorName) : Option (List Nat) :=
  match e, name with
  | .onnx e, some name => (e.request.bind fun r => r.buffers.get? name).map (·.shape)
  | _, _ => none

theorem keepsShape_of_bufferShape? {e : Engine} {name : TensorName} {shape : List Nat}
    (known : e.bufferShape? name = some shape) : KeepsShape name shape e := by
  unfold bufferShape? at known
  split at known
  · obtain ⟨t, buffered, rfl⟩ := Option.map_eq_some_iff.1 known
    obtain ⟨r, found, buffered⟩ := Option.bind_eq_some_iff.1 buffered
    exact wraps_onnx.keepsShape (Onnx.keepsShape_of_buffer found buffered)
  · cases known

end FrameBatch.Engine
