import FrameBatch.Proofs.Recognition.Opening
import Mathlib.Data.List.Forall2

namespace FrameBatch.Recognition

variable {mode : Bool} {s s' : State} {path : String} {deeds : List Deed} {t t' : Tally}

/-- What may have been done on the visit of a path: a picture is enqueued again if it found the
batch full, and accepted then if the engine took the batch over. -/
inductive Tried (files : Files) (size : Int) (path : String) : List Deed → Prop
  | unreadable (none : files.pixels? path = none) : Tried files size path []
  | accepted {img : Image} (read : files.pixels? path = some img) :
    Tried files size path [.enqueued path (place img) true]
  | retried {img : Image} {full : List Rect} {taken : Bool} {handled : List Result}
    (read : files.pixels? path = some img) (many : (full.length : Int) = size) :
    Tried files size path [.enqueued path (place img) false, .ran full taken handled,
      .enqueued path (place img) taken]

theorem Going.visit [Resizer] {opened : State} {d : Descriptor} {e₀ : Engine} {seen : Nat}
    (going : Going opened d e₀ seen s) (visit : Visit mode path t s deeds t' s') :
    (∃ now, Going opened d e₀ now s') ∧
      Tried opened.journal.files opened.site.pipeline.maxBatch path deeds := by
  have room := going.sound.room
  rw [going.sound.capacity_eq] at room
  cases visit with
  | unreadable none => exact ⟨⟨seen, going⟩, .unreadable (going.journal ▸ none)⟩
  | enqueued read enqueues =>
    exact ⟨⟨seen, (going.enqueue enqueues).1⟩, .accepted (going.journal ▸ read)⟩
  | retried read full runs retries =>
    rename_i img taken fetched accepted handled s₁ s₂
    obtain ⟨going₁, ⟨answer, _, _⟩ | ⟨_, many, kept⟩⟩ := going.enqueue full
    · cases answer
    · have many₁ : ((batch s₁).length : Int) = opened.site.pipeline.maxBatch := kept ▸ many
      have frames : batch s₁ ≠ [] := List.ne_nil_of_length_pos (by omega)
      obtain ⟨going₂, ran⟩ := going₁.runs frames runs
      obtain ⟨going', answer⟩ := going₂.enqueue retries
      have accepts (empty : batch s₂ = []) : accepted = true := by
        rcases answer with ⟨accepts, _, _⟩ | ⟨_, many₂, _⟩
        · exact accepts
        · rw [empty, List.length_nil] at many₂
          omega
      -- the batch is as full as before, or empty
      have same : accepted = taken := by
        cases ran with
        | refused kept =>
          rcases answer with ⟨_, room₂, _⟩ | ⟨rejected, _, _⟩
          · exact absurd (kept ▸ many₁) room₂
          · exact rejected
        | lost empty => exact accepts empty
        | given _ empty => exact accepts empty
      subst same
      exact ⟨⟨_, going'⟩, .retried (going.journal ▸ read) many₁⟩

theorem Going.visits [Resizer] {opened : State} {d : Descriptor} {e₀ : Engine} {seen : Nat}
    {paths : List String} {visits : List (List Deed)} (going : Going opened d e₀ seen s)
    (visited : Visits mode t s paths visits t' s') :
    (∃ now, Going opened d e₀ now s') ∧
      List.Forall₂ (Tried opened.journal.files opened.site.pipeline.maxBatch) paths visits := by
  induction visited generalizing seen with
  | done => exact ⟨⟨seen, going⟩, .nil⟩
  | next visit _ ih =>
    obtain ⟨⟨now, going₁⟩, tried⟩ := going.visit visit
    obtain ⟨going', rest⟩ := ih going₁
    exact ⟨going', .cons tried rest⟩

def acceptances (deeds : List Deed) : Nat :=
  deeds.countP fun
    | .enqueued _ _ accepted => accepted
    | .ran .. => false

def Refused (deeds : List Deed) : Prop := ∃ full handled, .ran full false handled ∈ deeds

theorem Tried.accepted_iff {files : Files} {size : Int} (tried : Tried files size path deeds) :
    ((files.pixels? path).isSome → acceptances deeds = 1) ↔ ¬ Refused deeds := by
  cases tried with
  | unreadable none => simp [none, Refused]
  | accepted read => simp [read, Refused, acceptances]
  | @retried _ _ taken _ read _ => cases taken <;> simp [read, Refused, acceptances]

/-- If a recognition returns zero, every picture that can be read was accepted exactly once, except
for those that found the batch full and refused by the engine. -/
theorem skipped_iff_refused [Resizer] {around : Surroundings} {words : List String}
    {start last : State} (returns : (run around words).Ends start (.ok 0) last) :
    ∃ settings begun paths opened visits closing t₁ s₁ t s,
      Begun around words start settings begun paths opened ∧
      Visits (asynchronous settings) {} opened paths visits t₁ s₁ ∧
      Closes (asynchronous settings) t₁ s₁ closing t s ∧
      List.Forall₂ (Tried opened.journal.files opened.site.pipeline.maxBatch) paths visits ∧
      List.Forall₂ (fun path deeds =>
        ((opened.journal.files.pixels? path).isSome → acceptances deeds = 1) ↔ ¬ Refused deeds)
        paths visits := by
  obtain ⟨settings, begun, paths, opened, began, finishes⟩ := run_iff.1 returns
  obtain ⟨d, e, size, starts⟩ := began.opened
  obtain ⟨t, s, processes, _⟩ := Act.ends_bind_ok.1 finishes
  obtain ⟨r, s', ends, ⟨_, returned⟩ | ⟨_, _, fault⟩⟩ := Act.ends_andFinally.1 processes
  · cases returned
    obtain ⟨visits, t₁, s₁, closing, visited, closes⟩ := course_iff.1 ends
    obtain ⟨_, tried⟩ := starts.going.visits visited
    exact ⟨settings, begun, paths, opened, visits, closing, t₁, s₁, t, s', began, visited, closes,
      tried, tried.imp fun _ _ tried => tried.accepted_iff⟩
  · cases fault

/-- Two pictures, batches of one frame, and an engine that refuses the first batch. -/
def refusedOnce : List RunPlan := [{ fail := some "device lost" }, Pipeline.yielding 1 (.ofInt 1)]

def refusedOnceStart : State :=
  plateStart 1 [("a.png", smallPicture 1), ("b.png", smallPicture 2)] refusedOnce

def bothPaths : List String := ["plates/a.png", "plates/b.png"]

set_option maxRecDepth 100000 in
theorem begun_refusedOnce : ∃ settings time opened,
    Begun (plateSurroundings 1 refusedOnce) plateWords refusedOnceStart settings time bothPaths
      opened ∧
    (finishing settings time bothPaths opened).result = .ok 0 ∧
    (∀ path ∈ bothPaths, (opened.journal.files.pixels? path).isSome) ∧
    (processAll (asynchronous settings) bothPaths opened).result.map (·.frames) = .ok 1 :=
  begun_of_any "plates" ["a.png", "b.png"] ["a.png", "b.png"] (by decide +kernel)
    (by decide +kernel)

theorem skips_when_refused : ∃ settings begun paths opened visits closing t₁ s₁ t s,
      Begun (plateSurroundings 1 refusedOnce) plateWords refusedOnceStart settings begun paths
        opened ∧
      Visits (asynchronous settings) {} opened paths visits t₁ s₁ ∧
      Closes (asynchronous settings) t₁ s₁ closing t s ∧
      List.Forall₂ (Tried opened.journal.files opened.site.pipeline.maxBatch) paths visits ∧
      List.Forall₂ (fun path deeds =>
        ((opened.journal.files.pixels? path).isSome → acceptances deeds = 1) ↔ ¬ Refused deeds)
        paths visits := by
  obtain ⟨settings, time, opened, begun, returns, _⟩ := begun_refusedOnce
  exact skipped_iff_refused (run_iff.2 ⟨settings, time, bothPaths, opened, begun, returns, rfl⟩)

/-- The run returns zero, though it accepted one of two pictures that can be read. -/
theorem one_of_two_accepted :
    (run (plateSurroundings 1 refusedOnce) plateWords refusedOnceStart).result = .ok 0 ∧
      ∃ settings time opened,
        Begun (plateSurroundings 1 refusedOnce) plateWords refusedOnceStart settings time bothPaths
          opened ∧
        (∀ path ∈ bothPaths, (opened.journal.files.pixels? path).isSome) ∧
        (processAll (asynchronous settings) bothPaths opened).result.map (·.frames) = .ok 1 := by
  obtain ⟨settings, time, opened, begun, returns, readable, frames⟩ := begun_refusedOnce
  exact ⟨(run_iff.2 ⟨settings, time, bothPaths, opened, begun, returns, rfl⟩).result, settings,
    time, opened, begun, readable, frames⟩

end FrameBatch.Recognition
