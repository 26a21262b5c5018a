import FrameBatch.Proofs.Recognition.Able
import FrameBatch.Proofs.Recognition.Schedule
import FrameBatch.Proofs.Tensor.Bilinear

namespace FrameBatch.Recognition

open Pipeline (Ready)
open Backend (Compliant)

/-- A batch is about to be run: a picture found it full, or there are no more paths. -/
inductive Due [Resizer] (asynchronous : Bool) (opened : State) (paths : List String) : State → Prop
  | full {before after : List String} {path : String} {t : Tally} {s s' : State} {img : Image}
    (split : paths = before ++ path :: after)
    (reached : (before.foldlM (process asynchronous) {}).Ends opened (.ok t) s)
    (read : s.journal.files.pixels? path = some img)
    (rejected : (enqueue img).Ends s (.ok false) s') : Due asynchronous opened paths s'
  | last {t : Tally} {s : State}
    (reached : (paths.foldlM (process asynchronous) {}).Ends opened (.ok t) s)
    (left : 0 < s.site.pipeline.enqueued) : Due asynchronous opened paths s

structure Underway (opened : State) (d : Descriptor) (e : Engine) (size : Nat)
    (visited : List String) (deeds : List Deed) (t : Tally) (s : State) : Prop where
  going : Going opened d e (deeds.flatMap Deed.handled).length s
  ticks : Ticks s
  books : Books opened.journal.files size visited deeds (batch s) t

section

variable {settings : Settings} {opened s : State} {d : Descriptor} {e : Engine} {size : Nat}
  {visited : List String} {deeds : List Deed} {t : Tally} {asynchronous : Bool}

theorem Opened.underway (starts : Opened settings d e size opened) (ticks : Ticks opened) :
    Underway opened d e size [] [] {} opened where
  going := starts.going
  ticks := ticks
  books := starts.empty ▸ .start opened.journal.files size

theorem Opened.positive (starts : Opened settings d e size opened) : 0 < size := by
  have := batchSize_positive starts.sized
  omega

namespace Underway

theorem visit [Resizer] [LawfulResizer] (underway : Underway opened d e size visited deeds t s)
    (starts : Opened settings d e size opened) {paths : List String}
    (able : Able settings opened.journal.files paths d e) {path : String} (member : path ∈ paths)
    (succeeds : ∀ img s', s.journal.files.pixels? path = some img →
      (enqueue img).Ends s (.ok false) s' → BatchSucceeds asynchronous d s') :
    ∃ more t' s', Visit asynchronous path t s more t' s' ∧
      Underway opened d e size (visited ++ [path]) (deeds ++ more) t' s' := by
  have journal := underway.going.journal
  have capacity := starts.capacity
  have room := starts.positive
  cases read : opened.journal.files.pixels? path with
  | none =>
    refine ⟨[], t, s, .unreadable (journal ▸ read), ?_⟩
    rw [List.append_nil]
    exact ⟨underway.going, underway.ticks, underway.books.unreadable read⟩
  | some img =>
    obtain ⟨accepted, s₁, enqueues, ticks₁⟩ :=
      underway.going.enqueue_returns starts able underway.ticks member read
    obtain ⟨going₁, ⟨rfl, _, left⟩ | ⟨rfl, full, left⟩⟩ := underway.going.enqueue enqueues
    · refine ⟨_, _, s₁, .enqueued (journal ▸ read) enqueues, ?_, ticks₁, ?_⟩
      · rw [List.flatMap_append]
        simpa [Deed.handled] using going₁
      · rw [left]
        exact underway.books.enqueued read
    · have many : (batch s₁).length = size := by
        rw [left]
        omega
      have frames : batch s₁ ≠ [] := List.ne_nil_of_length_pos (by omega)
      obtain ⟨handled, s₂, runs, ticks₂, going₂, places, empty⟩ :=
        going₁.runs_returns starts able ticks₁ frames (succeeds img s₁ (journal ▸ read) enqueues)
      obtain ⟨accepted, s₃, retries, ticks₃⟩ :=
        going₂.enqueue_returns starts able ticks₂ member read
      obtain ⟨going₃, ⟨rfl, _, left₃⟩ | ⟨_, full₃, _⟩⟩ := going₂.enqueue retries
      · refine ⟨_, _, s₃, .retried (journal ▸ read) enqueues runs retries, ?_, ticks₃, ?_⟩
        · rw [List.flatMap_append, List.length_append]
          simpa [Deed.handled] using going₃
        · have books := ((underway.books.rejected path (place img)).ran (left ▸ many)
            (places.trans left)).enqueued read
          rw [left₃, empty, left]
          simpa using books
      · rw [empty, List.length_nil] at full₃
        omega

theorem visits [Resizer] [LawfulResizer] {paths : List String}
    (underway : Underway opened d e size visited deeds t s)
    (starts : Opened settings d e size opened)
    (able : Able settings opened.journal.files (visited ++ paths) d e)
    (reached : (visited.foldlM (process asynchronous) {}).Ends opened (.ok t) s)
    (succeeds : ∀ s', Due asynchronous opened (visited ++ paths) s' →
      BatchSucceeds asynchronous d s') :
    ∃ visits t' s', Visits asynchronous t s paths visits t' s' ∧
      Underway opened d e size (visited ++ paths) (deeds ++ visits.flatten) t' s' := by
  induction paths generalizing visited deeds t s with
  | nil =>
    refine ⟨[], t, s, .done, ?_⟩
    simpa using underway
  | cons path paths ih =>
    have split : visited ++ path :: paths = visited ++ [path] ++ paths := by simp
    obtain ⟨more, t₁, s₁, visit, underway₁⟩ := underway.visit starts able (by simp)
      fun img s' read rejected => succeeds s' (.full rfl reached read rejected)
    have reached₁ : ((visited ++ [path]).foldlM (process asynchronous) {}).Ends opened (.ok t₁)
        s₁ := by
      rw [List.foldlM_append, Act.ends_bind_of_ok reached]
      exact Act.ends_bind_ok.2 ⟨t₁, s₁, visit_iff.2 ⟨more, visit⟩, Act.ends_pure.2 ⟨rfl, rfl⟩⟩
    rw [split] at able succeeds
    obtain ⟨visits, t', s', visited', underway'⟩ := ih underway₁ able reached₁ succeeds
    refine ⟨more :: visits, t', s', .next visit visited', ?_⟩
    rw [split, List.flatten_cons, ← List.append_assoc]
    exact underway'

theorem closes {paths : List String} (underway : Underway opened d e size paths deeds t s)
    (starts : Opened settings d e size opened)
    (able : Able settings opened.journal.files paths d e)
    (succeeds : 0 < s.site.pipeline.enqueued → BatchSucceeds asynchronous d s) :
    ∃ closing t' s', Closes asynchronous t s closing t' s' ∧ Ticks s' ∧
      Complete opened.journal.files size paths (deeds ++ closing) t' ∧
        Going opened d e ((deeds ++ closing).flatMap Deed.handled).length s' := by
  have going := underway.going
  have room := starts.positive
  have length := going.length_batch
  by_cases left : 0 < s.site.pipeline.enqueued
  · have frames : batch s ≠ [] := List.ne_nil_of_length_pos (by omega)
    have few : (batch s).length ≤ size := by
      have bounded := going.sound.bounded
      rw [going.sound.capacity_eq, starts.capacity] at bounded
      omega
    obtain ⟨handled, s', runs, ticks', going', places, _⟩ :=
      going.runs_returns starts able underway.ticks frames (succeeds left)
    refine ⟨_, _, s', .flushed left runs, ticks',
      underway.books.complete_of_left (by omega) few places, ?_⟩
    rw [List.flatMap_append, List.length_append]
    simpa [Deed.handled] using going'
  · have empty : batch s = [] := List.length_eq_zero_iff.1 (by omega)
    have books := underway.books
    rw [empty] at books
    refine ⟨[], t, s, .empty (by omega), underway.ticks, ?_, ?_⟩
    · rw [List.append_nil]
      exact books.complete_of_empty room
    · rw [List.append_nil]
      exact going

end Underway

end

theorem closeEngine_of_ready {s : State} {d : Descriptor} {e : Engine}
    (ready : Ready s.site engineName d e) (ticks : Ticks s) :
    ∃ s', closeEngine.Ends s (.ok ()) s' ∧ s'.site.bench.outputs = s.site.bench.outputs ∧
      Ticks s' := by
  have close := (Backend.close (ε := Engine)).ends_self e
  rw [Compliant.close_ok close] at close
  refine ⟨_, ends_say_bind.2 (ends_onSite.2
    ⟨_, (Site.ends_onEngine ready.held).2 ⟨_, close, rfl⟩, rfl⟩), rfl, ticks.withSite _⟩

section

variable [Resizer]

theorem finishing_of_processed {settings : Settings} {paths : List String} {opened s : State}
    {d : Descriptor} {e : Engine} {seen : Nat} {t : Tally} (going : Going opened d e seen s)
    (ticks : Ticks s) (processes : (processAll (asynchronous settings) paths).Ends opened (.ok t) s)
    (frames : t.frames < 2 ^ 1023) (batches : t.batches < 2 ^ 1023) (time : Binary) :
    ∃ last, (finishing settings time paths).Ends opened (.ok 0) last ∧
      last.site.bench.outputs.get? outputName = some (.log outputName .info seen []) := by
  obtain ⟨_, ready, _⟩ := going.ready
  obtain ⟨closed, closes, outputs, ticks₁⟩ := closeEngine_of_ready ready ticks
  obtain ⟨ended, last, clocked, site, kept⟩ := ends_wallTime closed
  have sums := summarize_of_ticks (kept ticks₁) frames batches (Format.double.sub ended time)
  have processed : ((processAll (asynchronous settings) paths).andFinally closeEngine).Ends opened
      (.ok t) closed := Act.ends_andFinally.2 ⟨_, s, processes, .inl ⟨closes, rfl⟩⟩
  refine ⟨last, ?_, ?_⟩
  · rw [finishing, Act.ends_bind_of_ok processed, Act.ends_bind_of_ok clocked,
      Act.ends_bind_of_ok sums]
    exact Act.ends_pure.2 ⟨rfl, rfl⟩
  · rw [site, outputs]
    exact going.log

/-- If every batch that is due succeeds, the run returns zero, and every picture of the folder went
through once, in order and in full batches but for the last. -/
theorem all_pictures_once [LawfulResizer] {around : Surroundings} {words : List String}
    {journal : Journal}
    {clock wall : Clock} {settings : Settings} {time : Binary} {paths : List String}
    {opened : State} {d : Descriptor} {e : Engine} {size : Nat}
    (begun : Begun around words (.start around journal clock wall) settings time paths opened)
    (sized : Config.batchSize (settings.field "batch_size") = .ok size)
    (ready : Ready opened.site engineName d e)
    (able : Able settings opened.journal.files paths d e) (few : paths.length < 2 ^ 1023)
    (succeeds : ∀ s, Due (asynchronous settings) opened paths s →
      BatchSucceeds (asynchronous settings) d s) :
    (∃ folder, settings.field "img_path" = .text folder ∧
      opened.journal.files.Listed folder paths) ∧
      ∃ visits closing t₁ s₁ t s last,
        Visits (asynchronous settings) {} opened paths visits t₁ s₁ ∧
        Closes (asynchronous settings) t₁ s₁ closing t s ∧
        Complete opened.journal.files size paths (visits.flatten ++ closing) t ∧
        (run around words).Ends (.start around journal clock wall) (.ok 0) last ∧
        last.site.bench.outputs.get? outputName = some (.log outputName .info
          (readable opened.journal.files paths).length []) := by
  have listed : ∃ folder, settings.field "img_path" = .text folder ∧
      opened.journal.files.Listed folder paths := by
    obtain ⟨_, _, lists⟩ := begun
    obtain ⟨_, folder, given, images⟩ := imagePaths_cases lists
    exact ⟨folder, given, Files.images_eq_ok_iff.1 images⟩
  obtain ⟨d', e', size', starts⟩ := begun.opened
  cases sized.symm.trans starts.sized
  obtain ⟨_, rfl, rfl⟩ := ready.unique starts.ready
  have ticks := begun.ticks (ticks_start around journal clock wall)
  have room := starts.positive
  obtain ⟨visits, t₁, s₁, visited, underway⟩ := (starts.underway ticks).visits starts able
    (Act.ends_pure.2 ⟨rfl, rfl⟩) succeeds
  rw [List.nil_append, List.nil_append] at underway
  obtain ⟨closing, t, s, closes, ticks', complete, going⟩ := underway.closes starts able
    fun left => succeeds s₁ (.last (visits_iff.2 ⟨visits, visited⟩) left)
  have frames : t.frames ≤ paths.length := by
    rw [complete.frames]
    exact List.length_filterMap_le _ _
  have batches : t.batches ≤ t.frames := by
    rw [complete.batches, complete.count, complete.frames]
    have several := Nat.le_mul_of_pos_left (readable opened.journal.files paths).length room
    refine Nat.le_of_lt_succ (Nat.div_lt_of_lt_mul ?_)
    rw [Nat.mul_succ]
    omega
  obtain ⟨last, finishes, log⟩ := finishing_of_processed going ticks'
    (course_iff.2 ⟨visits, t₁, s₁, closing, visited, closes⟩) (by omega) (by omega) time
  refine ⟨listed, visits, closing, t₁, s₁, t, s, last, visited, closes, complete,
    begun.ends_run.2 finishes, ?_⟩
  have handled := congrArg List.length complete.handled
  rw [List.length_map, List.length_map] at handled
  rw [log, handled]

def dues (asynchronous : Bool) (opened : State) (paths : List String) : List State :=
  (List.range (paths.length + 1)).flatMap fun k =>
    let s := ((paths.take k).foldlM (process asynchronous) {} opened).state
    match paths[k]? with
    | none => [s]
    | some path => (s.journal.files.pixels? path).toList.map fun img => (enqueue img s).state

theorem mem_dues_of_due {asynchronous : Bool} {opened s : State} {paths : List String}
    (due : Due asynchronous opened paths s) : s ∈ dues asynchronous opened paths := by
  cases due with
  | @full before after path _ _ _ _ split reached read rejected =>
    have within : before.length < paths.length + 1 := by
      rw [split, List.length_append]
      omega
    refine List.mem_flatMap.2 ⟨before.length, List.mem_range.2 within, ?_⟩
    have prior : paths.take before.length = before := by simp [split]
    have here : paths[before.length]? = some path := by simp [split]
    simp only [here, prior, reached.state, read, rejected.state, Option.toList_some, List.map_cons,
      List.map_nil, List.mem_singleton]
  | last reached _ =>
    refine List.mem_flatMap.2 ⟨paths.length, by simp, ?_⟩
    simp [reached.state]

end

def threePlates : List (String × FileNode) :=
  [("c.png", smallPicture 3), ("b.png", .file .empty), ("notes.txt", .file .empty),
    ("a.png", smallPicture 1), ("d.png", smallPicture 2)]

def inPairs : List String := plateWords ++ ["--batch_size", "2", "--async_mode"]

def threePaths : List String := ["plates/a.png", "plates/b.png", "plates/c.png", "plates/d.png"]

set_option maxRecDepth 100000 in
theorem begun_threePlates : ∃ settings time opened,
    Begun (plateSurroundings 1 [Pipeline.yielding 2 (.ofInt 1)]) inPairs
      (plateStart 1 threePlates [Pipeline.yielding 2 (.ofInt 1)]) settings time threePaths opened ∧
    Config.batchSize (settings.field "batch_size") = .ok 2 ∧
    (∃ x, settings.field "scale_factor" = .float x) ∧
    (∀ path ∈ threePaths, ∀ img ∈ opened.journal.files.pixels? path,
      Resizer.supports img.type = true ∧ 0 < img.height ∧ 0 < img.width) ∧
    ∀ d ∈ opened.site.descriptor?, ∀ e ∈ Pipeline.attached? opened.site,
      e.bufferShape? d.input = some [2, 3, 2, 2] ∧ e.bufferShape? d.sequence = some [88, 1] ∧
        ∀ s ∈ dues (asynchronous settings) opened threePaths,
          BatchSucceeds (asynchronous settings) d s :=
  begun_of_any "plates" ["c.png", "b.png", "notes.txt", "a.png", "d.png"]
    ["a.png", "b.png", "c.png", "d.png"] (by decide +kernel) (by decide +kernel)

theorem once_threePlates : ∃ settings time opened visits closing t₁ s₁ t s last,
    Begun (plateSurroundings 1 [Pipeline.yielding 2 (.ofInt 1)]) inPairs
      (plateStart 1 threePlates [Pipeline.yielding 2 (.ofInt 1)]) settings time threePaths opened ∧
    Visits (asynchronous settings) {} opened threePaths visits t₁ s₁ ∧
    Closes (asynchronous settings) t₁ s₁ closing t s ∧
    Complete opened.journal.files 2 threePaths (visits.flatten ++ closing) t ∧
    (run (plateSurroundings 1 [Pipeline.yielding 2 (.ofInt 1)]) inPairs).Ends
      (plateStart 1 threePlates [Pipeline.yielding 2 (.ofInt 1)]) (.ok 0) last ∧
    last.site.bench.outputs.get? outputName = some (.log outputName .info
      (readable opened.journal.files threePaths).length []) := by
  obtain ⟨settings, time, opened, begun, sized, factor, pictures, checks⟩ := begun_threePlates
  obtain ⟨d, e, _, starts⟩ := begun.opened
  obtain ⟨planes, sequence, succeeds⟩ :=
    checks d starts.ready.described e starts.ready.attached?_eq
  have able : Able settings opened.journal.files threePaths d e :=
    ⟨factor, pictures,
      ⟨2, 2, 2, by decide, by decide, Engine.keepsShape_of_bufferShape? planes⟩,
      ⟨88, [1], by decide, Engine.keepsShape_of_bufferShape? sequence⟩⟩
  have few : threePaths.length < 2 ^ 1023 := by
    have short : threePaths.length < 1023 := by decide
    have := @Nat.lt_two_pow_self 1023
    omega
  obtain ⟨_, visits, closing, t₁, s₁, t, s, last, through⟩ := all_pictures_once begun sized
    starts.ready able few fun s due => succeeds s (mem_dues_of_due due)
  exact ⟨settings, time, opened, visits, closing, t₁, s₁, t, s, last, begun, through⟩

set_option maxRecDepth 100000 in
theorem begun_onePlate : ∃ settings time opened,
    Begun (plateSurroundings 0 [Pipeline.yielding 1 (.ofInt 1)]) plateWords
      (plateStart 0 [("a.png", smallPicture 1)] [Pipeline.yielding 1 (.ofInt 1)]) settings time
      ["plates/a.png"] opened ∧
    Config.batchSize (settings.field "batch_size") = .ok 1 ∧
    (∃ x, settings.field "scale_factor" = .float x) ∧
    (∃ img ∈ opened.journal.files.pixels? "plates/a.png",
      img.type = .element .u8 ∧ img.height = 2 ∧ img.width = 2) ∧
    (∀ d ∈ opened.site.descriptor?, ∀ e ∈ Pipeline.attached? opened.site,
      e.bufferShape? d.input = some [1, 3, 2, 2] ∧
        (Pipeline.carryingOut (asynchronous settings) e).result = .ok () ∧
        ∀ s ∈ dues (asynchronous settings) opened ["plates/a.png"],
          BatchSucceeds (asynchronous settings) d s) ∧
    ¬ (finishing settings time ["plates/a.png"] opened).result = .ok 0 :=
  begun_of_any "plates" ["a.png"] ["a.png"] (by decide +kernel) (by decide +kernel)

/-- The descriptor accepts a sequence input without elements, and no batch can be prepared on it:
the run fails at its first batch, though the engine carries out all runs. -/
theorem fails_without_sequence : ∃ settings time opened d e,
    Begun (plateSurroundings 0 [Pipeline.yielding 1 (.ofInt 1)]) plateWords
      (plateStart 0 [("a.png", smallPicture 1)] [Pipeline.yielding 1 (.ofInt 1)]) settings time
      ["plates/a.png"] opened ∧
    Config.batchSize (settings.field "batch_size") = .ok 1 ∧
    (∃ x, settings.field "scale_factor" = .float x) ∧
    (∃ img ∈ opened.journal.files.pixels? "plates/a.png",
      img.type = .element .u8 ∧ img.height = 2 ∧ img.width = 2) ∧
    Ready opened.site engineName d e ∧ Backend.KeepsShape d.input [1, 3, 2, 2] e ∧
    (Pipeline.carryingOut (asynchronous settings) e).result = .ok () ∧
    (∀ s, Due (asynchronous settings) opened ["plates/a.png"] s →
      BatchSucceeds (asynchronous settings) d s) ∧
    ¬ (run (plateSurroundings 0 [Pipeline.yielding 1 (.ofInt 1)]) plateWords
      (plateStart 0 [("a.png", smallPicture 1)] [Pipeline.yielding 1 (.ofInt 1)])).result
        = .ok 0 := by
  obtain ⟨settings, time, opened, begun, sized, factor, picture, checks, fails⟩ := begun_onePlate
  obtain ⟨d, e, _, starts⟩ := begun.opened
  obtain ⟨planes, carries, succeeds⟩ :=
    checks d starts.ready.described e starts.ready.attached?_eq
  rw [begun.result]
  exact ⟨settings, time, opened, d, e, begun, sized, factor, picture, starts.ready,
    Engine.keepsShape_of_bufferShape? planes, carries,
    fun s due => succeeds s (mem_dues_of_due due), fails⟩

end FrameBatch.Recognition
