import FrameBatch.Proofs.Engine.Freeing
import FrameBatch.Proofs.Pipeline.Bench

namespace FrameBatch

open Act (FreesNothing Tame)

namespace Descriptor

@[grind ←]
theorem freesNothing_setBindings (bindings : List (Role × String)) :
    FreesNothing (setBindings bindings) := by
  unfold setBindings
  grind

theorem freesNothing_acceptPlate : FreesNothing acceptPlate := by
  refine .bind .get fun s => .bind (.log _ _ _) fun _ => ?_
  dsimp only
  split
  · exact .fail_bind _ _
  · split
    · exact .fail _
    · grind

theorem freesNothing_acceptSingle : FreesNothing acceptSingle := by
  unfold acceptSingle
  grind

theorem freesNothing_acceptUnchecked : FreesNothing acceptUnchecked := by
  unfold acceptUnchecked
  grind

@[grind ←]
theorem freesNothing_accept : FreesNothing accept := by
  unfold accept
  grind [freesNothing_acceptPlate, freesNothing_acceptSingle, freesNothing_acceptUnchecked]

end Descriptor

namespace Plate

theorem freesNothing_readOne (output : Tensor) (size i : Nat) (r : Result) :
    FreesNothing (readOne output size i r) := by
  unfold readOne
  grind

theorem freesNothing_readFrom (output : Tensor) (size i : Nat) (rs : List Result) :
    FreesNothing (readFrom output size i rs) := by
  induction rs generalizing i with
  | nil => exact .set_any []
  | cons r rest ih =>
    have first := freesNothing_readOne output size i r
    refine ⟨fun _ => trivial, fun {s} _ event member => ?_, fun _ _ _ => trivial⟩
    unfold readFrom at member
    dsimp only at member
    split at member
    · exact first.trail trivial event member
    · rcases List.mem_append.1 member with here | there
      · exact first.trail trivial event here
      · exact (ih (i + 1)).trail trivial event there

@[grind ←]
theorem freesNothing_readAll (name : String) (output : Tensor) (size : Nat) :
    FreesNothing (readAll name output size) := by
  unfold readAll
  grind [freesNothing_readFrom]

end Plate

@[grind ←]
theorem Output.freesNothing_accept (results : List Result) : FreesNothing (accept results) := by
  unfold accept
  grind

@[grind ←]
theorem Output.freesNothing_handle : FreesNothing handle := by
  unfold handle
  grind

variable {ε α : Type} {name : String} {there : Bool}

namespace Bench

def Places (name : String) (there : Bool) (b : Bench ε) : Prop :=
  (b.engines.get? name).isSome = there

theorem places_adjust {b b' : Bench ε} {other : String} {f : NetworkKey × ε → NetworkKey × ε}
    (places : b.Places name there) (same : b'.engines = b.engines.adjust other f) :
    b'.Places name there := by
  unfold Places at places ⊢
  rw [same]
  by_cases here : name = other
  · subst here
    rw [Entries.get?_adjust_self, Option.isSome_map, places]
  · rw [Entries.get?_adjust_of_ne here, places]

theorem tame_onEngine (other : String) {x : Act ε α} (using' : FreesNothing x) :
    Tame (Places name there) (onEngine other x) := by
  refine ⟨fun {b} before => ?_, fun {b} _ event member => ?_, fun _ _ _ => trivial⟩
  · unfold onEngine
    split
    · exact before
    · exact places_adjust before rfl
  · unfold onEngine at member
    split at member
    · cases member
    · exact using'.trail trivial event member

theorem tame_onLoading (other descriptor : String) {x : Act (Loading ε) α}
    (loading : FreesNothing x) : Tame (Places name there) (onLoading other descriptor x) := by
  refine ⟨fun {b} before => ?_, fun {b} _ event member => ?_, fun _ _ _ => trivial⟩
  · unfold onLoading
    split
    · exact before
    · exact before
    · exact places_adjust before rfl
  · unfold onLoading at member
    split at member
    · cases member
    · cases member
    · exact loading.trail trivial event member

theorem tame_onOutput (output : String) {x : Act Output α} (passing : FreesNothing x) :
    Tame (Places name there) (onOutput output x : Act (Bench ε) α) := by
  refine ⟨fun {b} before => ?_, fun {b} _ event member => ?_, fun _ _ _ => trivial⟩
  · unfold onOutput
    split <;> exact before
  · unfold onOutput at member
    split at member
    · cases member
    · exact passing.trail trivial event member

end Bench

namespace Site

def Places (name : String) (there : Bool) (s : Site ε) : Prop := s.bench.Places name there

theorem tame_onBench {x : Act (Bench ε) α} (tame : Tame (Bench.Places name there) x) :
    Tame (Places name there) (onBench x) :=
  tame.on (fun _ before => before) fun _ _ _ after => after

@[grind ←]
theorem tame_onEngine (other : String) {x : Act ε α} (using' : FreesNothing x) :
    Tame (Places name there) (onEngine other x) :=
  tame_onBench (Bench.tame_onEngine other using')

@[grind ←]
theorem tame_onLoading (other descriptor : String) {x : Act (Loading ε) α}
    (loading : FreesNothing x) :
    Tame (Places name there) (onBench (Bench.onLoading other descriptor x)) :=
  tame_onBench (Bench.tame_onLoading other descriptor loading)

@[grind ←]
theorem tame_onOutput (output : String) {x : Act Output α} (passing : FreesNothing x) :
    Tame (Places name there) (onBench (Bench.onOutput output x) : Act (Site ε) α) :=
  tame_onBench (Bench.tame_onOutput output passing)

@[grind ←]
theorem tame_update (f : Pipeline → Pipeline) :
    Tame (Places name there) (update f : Act (Site ε) Unit) :=
  .modify fun _ before => before

@[grind ←]
theorem tame_descriptor : Tame (Places name there) (descriptor : Act (Site ε) Descriptor) := by
  unfold descriptor
  grind [missing]

end Site

namespace Decoder

variable [Backend ε] [Backend.Freeing ε]

@[grind ←]
theorem freesNothing_plateField {σ : Type} (d : Descriptor) (field : String) {x : Act σ α}
    (rest : FreesNothing x) : FreesNothing (plateField d field x) := by
  unfold plateField
  grind

@[grind ←]
theorem freesNothing_prepare (decoder : Decoder) (d : Descriptor) :
    FreesNothing (decoder.prepare d : Act ε Unit) := by
  unfold prepare
  grind

theorem freesNothing_decode (decoder : Decoder) (d : Descriptor) :
    FreesNothing (decoder.decode d : Act (ε × List Result) (List Result)) := by
  have reads : FreesNothing (Act.on Prod.fst (fun e s => (e, s.2)) (Backend.tensor d.output) :
      Act (ε × List Result) Tensor) :=
    (Backend.Freeing.tensor d.output).on_any
  have writes (output : Tensor) : FreesNothing (Act.on Prod.snd (fun rs s => (s.1, rs))
      (Plate.readAll (TensorName.text d.output) output Plate.maxSequence) :
      Act (ε × List Result) Unit) :=
    (Plate.freesNothing_readAll _ _ _).on_any
  unfold decode
  grind

end Decoder

namespace Pipeline

@[grind ←]
theorem tame_report (level : Level) (message : String) :
    Tame (Site.Places name there) (report level message : Act (Site ε) Unit) :=
  .log level logger message

@[grind ←]
theorem tame_canSubmit (category : String) :
    Tame (Site.Places name there) (canSubmit category : Act (Site ε) Bool) := by
  unfold canSubmit
  grind

@[grind ←]
theorem tame_deliver (results : List Result) (outputs : List String) :
    Tame (Site.Places name there) (deliver results outputs : Act (Site ε) Unit) := by
  induction outputs with
  | nil => exact .pure ()
  | cons output rest ih =>
    exact .bind (Site.tame_onOutput output (Output.freesNothing_accept results)) fun _ => ih

variable [Backend ε]

@[grind ←]
theorem tame_requireEngine :
    Tame (Site.Places name there) (requireEngine : Act (Site ε) String) := by
  unfold requireEngine
  grind

variable [Backend.Freeing ε]

theorem tame_loadEngine (engine : String) :
    Tame (Site.Places name there) (loadEngine engine : Act (Site ε) Unit) := by
  refine .bind .get fun s => ?_
  split
  · exact .fail _
  · rename_i e _
    have attaching : FreesNothing (if Backend.isLoaded e then Loading.onFitting Descriptor.accept
        else Backend.load Descriptor.accept : Act (Loading ε) Unit) := by grind
    refine .bind (Site.tame_onLoading _ _ attaching) fun _ => ?_
    grind

theorem tame_enqueue [Resizer] (frame : Frame) (location : Value) :
    Tame (Site.Places name there) (enqueue frame location : Act (Site ε) Bool) := by
  refine .bind tame_requireEngine fun engine => .bind .get fun s =>
    .bind Site.tame_descriptor fun d => ?_
  dsimp only
  split
  · grind
  · split
    · grind
    · grind

theorem tame_execute {run : Act ε Unit} (running : FreesNothing run) (done : Bool)
    (verb failure : String) :
    Tame (Site.Places name there) (execute run done verb failure) := by
  refine .bind tame_requireEngine fun engine => .bind Site.tame_descriptor fun d =>
    .bind (tame_canSubmit _) fun able => ?_
  split
  · exact .pure _
  · have through (decoder : Decoder) : FreesNothing (decoder.prepare d >>= fun _ => run) :=
      .bind (Decoder.freesNothing_prepare decoder d) fun _ => running
    refine .bind .get fun s => .bind (Site.tame_onEngine engine (through _)).attempt fun ran => ?_
    split <;> grind

theorem tame_submit : Tame (Site.Places name there) (submit : Act (Site ε) Bool) :=
  tame_execute Backend.Freeing.start _ _ _

theorem tame_synchronize : Tame (Site.Places name there) (synchronize : Act (Site ε) Bool) :=
  tame_execute Backend.Freeing.infer _ _ _

@[grind ←]
theorem tame_wait (timeout : Value) :
    Tame (Site.Places name there) (wait timeout : Act (Site ε) Bool) := by
  unfold wait
  grind

@[grind ←]
theorem tame_decodeBatch :
    Tame (Site.Places name there) (decodeBatch : Act (Site ε) (List Result)) := by
  refine .bind tame_requireEngine fun engine => .bind Site.tame_descriptor fun d =>
    .bind .get fun s => ?_
  split
  · exact .fail _
  · refine .bind (Site.tame_onEngine engine (.set_any _)) fun _ =>
      .bind (Site.tame_update _) fun _ => ⟨fun before => before, fun _ => ?_, fun _ _ _ => trivial⟩
    exact (Decoder.freesNothing_decode _ d).trail trivial

@[grind ←]
theorem tame_isOver : Tame (Site.Places name there) (isOver : Act (Site ε) Bool) := by
  unfold isOver
  grind

theorem tame_fetch : Tame (Site.Places name there) (fetch : Act (Site ε) Bool) := by
  refine .bind .get fun s => ?_
  dsimp only
  split
  · grind
  · refine .bind tame_isOver fun ended => ?_
    split
    · exact .pure _
    · refine .bind tame_decodeBatch.attempt fun decoded => ?_
      split <;> grind

end Pipeline

end FrameBatch
