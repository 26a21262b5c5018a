import FrameBatch.Engine.Factory
import FrameBatch.Proofs.Act.Ends
import FrameBatch.Proofs.Act.Fails
import FrameBatch.Proofs.Files.Order

namespace FrameBatch

/-- The characters match a pattern, in which a star stands for any characters. -/
def Path.Matches : List Char → List Char → Prop
  | [], cs => cs = []
  | '*' :: pattern, cs => ∃ skipped rest, cs = skipped ++ rest ∧ Matches pattern rest
  | c :: pattern, cs => ∃ rest, cs = c :: rest ∧ Matches pattern rest

def Path.models : String := "*.xml"

/-- An entry of the folder that the pattern finds. -/
def Files.HasModel (files : Files) (path name : String) : Prop :=
  ∃ names, files.list path = .ok names ∧ name ∈ names ∧
    Path.Matches Path.models.toList name.toList

def Event.modelRead? : Event → Option String
  | .call (.readModel file) => some file
  | _ => none

theorem Path.matches_models (name : String) :
    Path.Matches Path.models.toList name.toList ↔ name.endsWith ".xml" = true := by
  have pattern : Path.models.toList = ['*', '.', 'x', 'm', 'l'] := by decide
  have ending : ".xml".toList = ['.', 'x', 'm', 'l'] := by decide
  rw [← String.endsWith_toSlice, String.Slice.endsWith_string_iff, String.copy_toSlice, pattern,
    ending]
  constructor
  · rintro ⟨skipped, _, split, _, rfl, _, rfl, _, rfl, _, rfl, rfl⟩
    exact ⟨skipped, split.symm⟩
  · rintro ⟨skipped, split⟩
    exact ⟨skipped, _, split.symm, _, rfl, _, rfl, _, rfl, _, rfl, rfl⟩

theorem Runtime.mem_modelsIn {names : List String} {name : String} :
    name ∈ Runtime.modelsIn names ↔
      name ∈ names ∧ Path.Matches Path.models.toList name.toList := by
  rw [Path.matches_models]
  exact List.mem_filter

namespace Files

variable {files files' : Files} {path name : String} {names : List String}

theorem hasModel_iff (listed : files.list path = .ok names) :
    files.HasModel path name ↔ name ∈ Runtime.modelsIn names := by
  rw [Runtime.mem_modelsIn]
  constructor
  · rintro ⟨_, listed', found⟩
    cases listed.symm.trans listed'
    exact found
  · exact fun found => ⟨names, listed, found⟩

theorem Reordered.hasModel (same : files.Reordered files') (regular : files.Regular)
    (listed : files.list path = .ok names) (name : String) :
    files'.HasModel path name ↔ files.HasModel path name := by
  obtain ⟨names', listed', perm⟩ := same.list regular listed
  rw [hasModel_iff listed, hasModel_iff listed', Runtime.mem_modelsIn, Runtime.mem_modelsIn,
    perm.mem_iff]

end Files

namespace EngineKind

variable {files files' : Files} {path : String} {names : List String}

theorem ofPath_folder (listed : files.list path = .ok names) :
    ofPath files (.text path) =
      if holdsModel names then .ok .openvino else refuse (.folderWithoutModel path) := by
  rw [ofPath, Files.isFolder_iff.2 ⟨names, listed⟩, if_pos rfl, listed]
  rfl

theorem holdsModel_iff (listed : files.list path = .ok names) :
    holdsModel names = true ↔ ∃ name, files.HasModel path name := by
  simp only [Files.hasModel_iff listed, holdsModel, Runtime.modelsIn, List.any_eq_true,
    List.mem_filter]

theorem ofPath_openvino_iff (listed : files.list path = .ok names) :
    ofPath files (.text path) = .ok .openvino ↔ ∃ name, files.HasModel path name := by
  rw [ofPath_folder listed, ← holdsModel_iff listed]
  split
  · rename_i holds
    exact iff_of_true rfl holds
  · rename_i lacks
    exact iff_of_false nofun lacks

theorem ofPath_reordered (same : files.Reordered files') (regular : files.Regular)
    (listed : files.list path = .ok names) :
    ofPath files' (.text path) = ofPath files (.text path) := by
  obtain ⟨names', listed', -⟩ := same.list regular listed
  have holds : holdsModel names' = holdsModel names := by
    rw [Bool.eq_iff_iff, holdsModel_iff listed', holdsModel_iff listed]
    simp only [same.hasModel regular listed]
  rw [ofPath_folder listed', ofPath_folder listed, holds]

end EngineKind

namespace OpenVino

def reads {α : Type} (x : Act Unit α) : List String :=
  (x ()).trail.filterMap Event.modelRead?

variable {α β : Type}

theorem reads_bind (x : Act Unit α) (f : α → Act Unit β) : reads (x >>= f) = reads x ++
    match (x ()).result with
      | .ok a => reads (f a)
      | .error _ => [] := by
  rcases ended : x () with ⟨result, state, trail⟩
  cases result with
  | error e => rw [reads, Act.bind_of_error ended, reads, ended, List.append_nil]
  | ok a =>
    rw [reads, Act.bind_of_ok ended, List.filterMap_append, reads, ended]
    rfl

theorem reads_bind_nil {x : Act Unit α} {f : α → Act Unit β} (first : reads x = [])
    (rest : ∀ a, reads (f a) = []) : reads (x >>= f) = [] := by
  rw [reads_bind, first]
  split
  · exact rest _
  · rfl

theorem reads_startRuntime (device : String) (threads : Value) :
    reads (startRuntime device threads) = [] := by
  unfold startRuntime
  simp only
  split
  · exact reads_bind_nil rfl fun _ => rfl
  · rfl

theorem reads_create (file device : String) (source : Source) (script : Script) :
    reads (create device file source script) = [file] := by
  rw [create, reads_bind]
  exact congrArg (file :: ·) (reads_bind_nil rfl fun _ => rfl)

end OpenVino

namespace Runtime

open OpenVino (reads reads_bind reads_bind_nil reads_startRuntime reads_create)

variable {rt : Runtime} {files files' : Files} {path device shown : String} {threads : Value}
  {names : List String}

theorem openOpenVino_eq (available : rt.available = true) (regular : files.Regular)
    (listed : files.list path = .ok names) :
    rt.openOpenVino files path device threads = do
      let device ← OpenVino.startRuntime device threads
      match modelsIn names with
        | [] => Act.fail (.refused (.noModelIn (Path.normal path)))
        | name :: _ => do
          let (e, network) ← OpenVino.create device name rt.openvino rt.script
          return (.openvino e, network) := by
  have listed := files.list_normal regular listed
  have folder := Files.isFolder_iff.2 ⟨names, listed⟩
  have listing (f : List String → Act Unit (Engine × Network)) :
      ((liftM (.ok names : Except Fault _) : Act Unit _) >>= f) = f names := rfl
  rw [openOpenVino, available]
  simp only [Bool.not_true, Bool.false_eq_true, if_false, pure_bind, folder, if_true]
  rw [listed]
  simp only [listing]
  cases modelsIn names <;> rfl

theorem reads_openOpenVino (available : rt.available = true) (regular : files.Regular)
    (listed : files.list path = .ok names)
    (starts : (OpenVino.startRuntime device threads ()).result = .ok shown) :
    reads (rt.openOpenVino files path device threads) = (modelsIn names).head?.toList := by
  rw [openOpenVino_eq available regular listed, reads_bind, reads_startRuntime, starts]
  cases modelsIn names with
  | nil => rfl
  | cons name others =>
    simp only [List.nil_append]
    rw [reads_bind, reads_create]
    split <;> rfl

theorem reads_cases (available : rt.available = true) (regular : files.Regular)
    (listed : files.list path = .ok names)
    (starts : (OpenVino.startRuntime device threads ()).result = .ok shown)
    (same : files.Reordered files') :
    (∃ name, reads (rt.openOpenVino files' path device threads) = [name] ∧
        files.HasModel path name) ∨
      reads (rt.openOpenVino files' path device threads) = [] ∧
        ∀ name, ¬ files.HasModel path name := by
  obtain ⟨names', listed', -⟩ := same.list regular listed
  simp only [← same.hasModel regular listed, Files.hasModel_iff listed',
    reads_openOpenVino available (same.keeps_regular regular) listed' starts]
  cases modelsIn names' with
  | nil => exact .inr ⟨rfl, fun _ => List.not_mem_nil⟩
  | cons name others => exact .inl ⟨name, rfl, List.mem_cons_self⟩

theorem exists_reads (available : rt.available = true) (regular : files.Regular) {name : String}
    (found : files.HasModel path name)
    (starts : (OpenVino.startRuntime device threads ()).result = .ok shown) :
    ∃ files', files.Reordered files' ∧
      reads (rt.openOpenVino files' path device threads) = [name] := by
  obtain ⟨names, listed, among, matched⟩ := found
  obtain ⟨files', others, same, listed'⟩ := Files.exists_first regular listed among
  refine ⟨files', same, ?_⟩
  rw [reads_openOpenVino available (same.keeps_regular regular) listed' starts, modelsIn,
    List.filter_cons, if_pos ((Path.matches_models name).1 matched)]
  rfl

theorem refused_without_model (available : rt.available = true) (regular : files.Regular)
    (listed : files.list path = .ok names) (none : ∀ name, ¬ files.HasModel path name)
    (starts : (OpenVino.startRuntime device threads ()).result = .ok shown) :
    EngineKind.ofPath files (.text path) = refuse (.folderWithoutModel path) ∧
      (rt.openOpenVino files path device threads ()).result =
        .error (.refused (.noModelIn (Path.normal path))) := by
  have lacks : ¬ EngineKind.holdsModel names = true := fun holds => by
    obtain ⟨name, found⟩ := (EngineKind.holdsModel_iff listed).1 holds
    exact none name found
  have empty : modelsIn names = [] := List.eq_nil_iff_forall_not_mem.2 fun name found =>
    none name ((Files.hasModel_iff listed).2 found)
  refine ⟨by rw [EngineKind.ofPath_folder listed, if_neg lacks], ?_⟩
  rw [openOpenVino_eq available regular listed, empty]
  exact ((Act.ends_bind_of_ok ⟨starts, rfl⟩ _).2 (Act.ends_fail.2 ⟨rfl, rfl⟩)).result

/-- In every order in which the entries of a folder are listed it is for the same runtime, and it is
for OpenVINO if and only if that runtime finds a model in it. Each model of the folder is the one
that is read in some order, so the same is read in all orders if and only if there is at most one. -/
theorem chosen_alike_iff (rt : Runtime) (available : rt.available = true) {files : Files}
    (regular : files.Regular) {path : String} (folder : files.isFolder path = true)
    {device shown : String} {threads : Value}
    (starts : (OpenVino.startRuntime device threads ()).result = .ok shown) :
    (∀ files', files.Reordered files' →
      EngineKind.ofPath files' (.text path) = EngineKind.ofPath files (.text path)) ∧
    (EngineKind.ofPath files (.text path) = .ok .openvino ↔
      ∃ name, reads (rt.openOpenVino files path device threads) = [name]) ∧
    (∀ name, files.HasModel path name ↔ ∃ files', files.Reordered files' ∧
      reads (rt.openOpenVino files' path device threads) = [name]) ∧
    ((∀ files', files.Reordered files' →
        reads (rt.openOpenVino files' path device threads) =
          reads (rt.openOpenVino files path device threads)) ↔
      ∀ name name', files.HasModel path name → files.HasModel path name' → name = name') := by
  obtain ⟨names, listed⟩ := Files.isFolder_iff.1 folder
  have cases {files' : Files} (same : files.Reordered files') :=
    reads_cases available regular listed starts same
  have chosen (name : String) : files.HasModel path name ↔ ∃ files', files.Reordered files' ∧
      reads (rt.openOpenVino files' path device threads) = [name] := by
    refine ⟨fun found => exists_reads available regular found starts, ?_⟩
    rintro ⟨files', same, reads⟩
    rcases cases same with ⟨name', reads', found⟩ | ⟨reads', -⟩
    · cases reads.symm.trans reads'
      exact found
    · cases reads.symm.trans reads'
  refine ⟨fun files' same => EngineKind.ofPath_reordered same regular listed, ?_, chosen, ?_, ?_⟩
  · rw [EngineKind.ofPath_openvino_iff listed]
    rcases cases (.refl files) with ⟨name, reads, found⟩ | ⟨reads, none⟩
    · exact iff_of_true ⟨name, found⟩ ⟨name, reads⟩
    · refine iff_of_false (fun ⟨name, found⟩ => none name found) fun ⟨name, reads'⟩ => ?_
      cases reads.symm.trans reads'
  · intro alike name name' found found'
    obtain ⟨files₁, same₁, reads₁⟩ := (chosen name).1 found
    obtain ⟨files₂, same₂, reads₂⟩ := (chosen name').1 found'
    rw [alike files₁ same₁] at reads₁
    rw [alike files₂ same₂, reads₁] at reads₂
    exact (List.cons.inj reads₂).1
  · intro single files' same
    rcases cases same with ⟨name, reads, found⟩ | ⟨reads, none⟩
    · rcases cases (.refl files) with ⟨name', reads', found'⟩ | ⟨-, none⟩
      · rw [reads, reads', single name name' found found']
      · exact absurd found (none name)
    · rcases cases (.refl files) with ⟨name, -, found⟩ | ⟨reads', -⟩
      · exact absurd found (none name)
      · rw [reads, reads']

def folderOf (names : List String) : Files :=
  { home := "/work",
    nodes := (["models"], .folder) :: names.map fun name => (["models", name], .file .empty) }

theorem chosen_single :
    let files := folderOf ["lpr.bin", "lpr.xml", "notes.XML"]
    EngineKind.ofPath files (.text "models//") = .ok .openvino ∧
      ∀ files', files.Reordered files' →
        reads (openOpenVino {} files' "models//" "cpu" .null) = ["lpr.xml"] := by
  intro files
  have regular : files.Regular :=
    ⟨by decide +kernel, by decide +kernel, by decide +kernel, by decide +kernel⟩
  have listed : files.list "models//" = .ok ["lpr.bin", "lpr.xml", "notes.XML"] := by
    decide +kernel
  have first : reads (openOpenVino {} files "models//" "cpu" .null) = ["lpr.xml"] := by
    decide +kernel
  have models : modelsIn ["lpr.bin", "lpr.xml", "notes.XML"] = ["lpr.xml"] := by decide +kernel
  have single (name : String) (found : files.HasModel "models//" name) : name = "lpr.xml" :=
    List.mem_singleton.1 (models ▸ (Files.hasModel_iff listed).1 found)
  have starts : (OpenVino.startRuntime "cpu" .null ()).result = .ok "CPU" := by decide +kernel
  obtain ⟨-, answer, -, alike⟩ :=
    chosen_alike_iff {} rfl regular (Files.isFolder_iff.2 ⟨_, listed⟩) starts
  refine ⟨answer.2 ⟨_, first⟩, fun files' same => ?_⟩
  rw [alike.2 (fun name name' found found' => (single name found).trans (single name' found').symm)
    files' same, first]

/-- Of two models the one that is listed first is read. -/
theorem chosen_by_order :
    (folderOf ["b.xml", "a.xml"]).Reordered (folderOf ["a.xml", "b.xml"]) ∧
      reads (openOpenVino {} (folderOf ["b.xml", "a.xml"]) "models" "CPU" .null) = ["b.xml"] ∧
      reads (openOpenVino {} (folderOf ["a.xml", "b.xml"]) "models" "CPU" .null) = ["a.xml"] :=
  ⟨⟨rfl, (List.Perm.swap _ _ _).cons _⟩, by decide +kernel, by decide +kernel⟩

end Runtime

end FrameBatch
