import FrameBatch.Output
import FrameBatch.Proofs.Act.Ends

namespace FrameBatch.Output

def entry (label : String) (level : Level) (r : Result) : Event :=
  .log ⟨level, logger, line label r⟩

theorem handle_log (label : String) (level : Level) (seen : Nat) (waiting : List Result) :
    handle (.log label level seen waiting) =
      ⟨.ok (), .log label level seen [], waiting.map (entry label level)⟩ := by
  have written (results : List Result) (o : Output) :
      (results.forM fun r => Act.log level logger (line label r)) o =
        ⟨.ok (), o, results.map (entry label level)⟩ := by
    induction results with
    | nil => rfl
    | cons r rest ih =>
      have first : (Act.log level logger (line label r) : Act Output Unit) o =
          ⟨.ok (), o, [entry label level r]⟩ := rfl
      refine (Act.bind_of_ok first fun _ => rest.forM _).trans ?_
      rw [ih]
      rfl
  rw [handle, Act.bind_of_ok (Act.get_apply _)]
  simp only [Act.bind_of_ok (written waiting _), Act.set_apply, List.append_nil, List.nil_append]

theorem result_handle (o : Output) : (handle o).result = .ok () := by
  cases o with
  | log label level seen waiting => rw [handle_log]
  | sink label kind batches => rfl

/-- The output goes from one state to another by receiving these lists, in this order, and by
passing on what waits, now and then, which leaves these events behind. -/
inductive Receives (o : Output) : List (List Result) → List Event → Output → Prop
  | start : Receives o [] [] o
  | accept {lists : List (List Result)} {events : List Event} {results : List Result}
    {middle last : Output} (earlier : Receives o lists events middle)
    (accepts : (Output.accept results).Ends middle (.ok ()) last) :
    Receives o (lists ++ [results]) events last
  | handle {lists : List (List Result)} {events : List Event} {middle : Output}
    (earlier : Receives o lists events middle) :
    Receives o lists (events ++ (Output.handle middle).trail) (Output.handle middle).state

namespace Receives

variable {o middle last : Output} {lists more : List (List Result)} {events later : List Event}

theorem append (first : o.Receives lists events middle) (rest : middle.Receives more later last) :
    o.Receives (lists ++ more) (events ++ later) last := by
  induction rest with
  | start =>
    rw [List.append_nil, List.append_nil]
    exact first
  | accept _ accepts ih =>
    rw [← List.append_assoc]
    exact ih.accept accepts
  | handle _ ih =>
    rw [← List.append_assoc]
    exact ih.handle

theorem sink {label : String} {kind : TrialSink} {batches : List (List Result)}
    (receives : (Output.sink label kind batches).Receives lists events last) :
    last = .sink label kind (batches ++ lists) := by
  induction receives with
  | start => rw [List.append_nil]
  | accept _ accepts ih =>
    subst ih
    rw [← List.append_assoc]
    cases kind with
    | collect => exact accepts.state.symm
    | greedy => exact accepts.state.symm
    | raising => cases accepts.result
  | handle _ ih =>
    subst ih
    rfl

theorem log {label : String} {level : Level} {seen : Nat} {waiting : List Result}
    (receives : (Output.log label level seen waiting).Receives lists events last) :
    ∃ written rest, last = .log label level (seen + lists.flatten.length) rest ∧
      events = written.map (entry label level) ∧
      written ++ rest = waiting ++ lists.flatten := by
  induction receives with
  | start => exact ⟨[], waiting, rfl, rfl, by simp⟩
  | @accept lists events results middle last _ accepts ih =>
    obtain ⟨written, rest, rfl, rfl, whole⟩ := ih
    refine ⟨written, rest ++ results, accepts.state.symm.trans ?_, rfl, ?_⟩
    · simp [Output.accept, bind, Act.bind, Nat.add_assoc]
    · simp [← List.append_assoc, whole]
  | handle _ ih =>
    obtain ⟨written, rest, rfl, rfl, whole⟩ := ih
    rw [handle_log]
    exact ⟨written ++ rest, [], rfl, by simp, by rw [List.append_nil, whole]⟩

end Receives

end FrameBatch.Output
