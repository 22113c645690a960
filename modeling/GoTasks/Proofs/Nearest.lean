import GoTasks.Project.Discovery
import GoTasks.Proofs.Ascent

/-!
# The nearest configuration

The project of a directory is decided by the first configuration file that is found on the way up
from it. The directories are probed one by one, nearest first, and none is probed after the first
hit; then that file is read, and nothing else is.

A recorded view keeps a list of what is asked of it, with the answers, and of what its log is told.
The list is an output, as the deeds of an observed run are. It is also all that the result depends
on: another file system that gives the same answers to the same questions has the same project
there.
-/

namespace GoTasks

/-- One thing that is asked of a file system, with its answer, or an event that the log is told. -/
inductive Inquiry where
  | probed (path : Path) (isFile : Bool)
  | opened (path : Path) (content : Except SystemError Bytes)
  | located (directory : Except SystemError Path)
  | told (event : LogEvent)

namespace Inquiry

variable {σ α : Type}

/-- A question that is put on the list with its answer. -/
def recording (inquiry : α → Inquiry) (x : StateM σ α) : StateM (σ × List Inquiry) α :=
  fun s => ((x.run s.1).1, ((x.run s.1).2, s.2 ++ [inquiry (x.run s.1).1]))

@[simp] theorem run_recording (inquiry : α → Inquiry) (x : StateM σ α) (w : σ)
    (asked : List Inquiry) :
    (recording inquiry x).run (w, asked) =
      ((x.run w).1, ((x.run w).2, asked ++ [inquiry (x.run w).1])) := rfl

end Inquiry

namespace FileView

variable {σ τ : Type}

/-- A view that lists what is asked of it. -/
def recorded (view : FileView (StateM σ)) : FileView (StateM (σ × List Inquiry)) where
  isFile path := Inquiry.recording (.probed path) (view.isFile path)
  read path := Inquiry.recording (.opened path) (view.read path)
  currentDirectory := Inquiry.recording .located view.currentDirectory
  log event := Inquiry.recording (fun _ => .told event) (view.log event)

/-- Whether a view gives the listed answers, if it is asked the listed questions from a world on. To
an event it has no answer to give. -/
def Answers (view : FileView (StateM σ)) : List Inquiry → σ → Prop
  | [], _ => True
  | .probed path isFile :: rest, w =>
    ((view.isFile path).run w).1 = isFile ∧ view.Answers rest ((view.isFile path).run w).2
  | .opened path content :: rest, w =>
    ((view.read path).run w).1 = content ∧ view.Answers rest ((view.read path).run w).2
  | .located directory :: rest, w =>
    (view.currentDirectory.run w).1 = directory ∧
      view.Answers rest (view.currentDirectory.run w).2
  | .told event :: rest, w => view.Answers rest ((view.log event).run w).2

/-- What is asked when a file is searched for in directories, and what is found. The directories
are probed one after the other as long as they do not have it. -/
inductive Searched (name : Path) : List Path → List Inquiry → Option Path → Prop
  | exhausted : Searched name [] [] none
  | hit (directory : Path) (beyond : List Path) :
      Searched name (directory :: beyond) [.probed (directory.join name) true]
        (some (directory.join name))
  | miss (directory : Path) {others : List Path} {probes : List Inquiry} {found : Option Path}
      (later : Searched name others probes found) :
      Searched name (directory :: others) (.probed (directory.join name) false :: probes) found

/-- The probes of a name in directories that do not have a file of it. -/
def misses (name : Path) (directories : List Path) : List Inquiry :=
  directories.map fun directory => .probed (directory.join name) false

namespace Searched

variable {name file : Path} {directories : List Path} {probes : List Inquiry}
  {found : Option Path}

theorem length_le (searched : Searched name directories probes found) :
    probes.length ≤ directories.length := by
  induction searched with
  | exhausted => exact Nat.le_refl 0
  | hit directory beyond => exact Nat.succ_le_succ (Nat.zero_le _)
  | miss directory later ih => exact Nat.succ_le_succ ih

/-- Nothing is found only after all directories. -/
theorem probes_of_none (searched : Searched name directories probes none) :
    probes = misses name directories := by
  generalize nothing : (none : Option Path) = found at searched
  induction searched with
  | exhausted => rfl
  | hit directory beyond => cases nothing
  | miss directory later ih => exact congrArg _ (ih nothing)

/-- What is found is in the first directory that has it, and nothing is probed after that. -/
theorem exists_of_some (searched : Searched name directories probes (some file)) :
    ∃ passed directory beyond, directories = passed ++ directory :: beyond ∧
      file = directory.join name ∧ probes = misses name passed ++ [.probed file true] := by
  generalize something : some file = found at searched
  induction searched with
  | exhausted => cases something
  | hit directory beyond =>
      cases something
      exact ⟨[], directory, beyond, rfl, rfl, rfl⟩
  | miss directory later ih =>
      obtain ⟨passed, nearest, beyond, rfl, same, rfl⟩ := ih something
      exact ⟨directory :: passed, nearest, beyond, rfl, same, rfl⟩

end Searched

/-- Where a path is a file the search ends, and otherwise it goes on. -/
theorem run_firstFile_cons (view : FileView (StateM σ)) (path : Path) (paths : List Path) (w : σ) :
    (view.firstFile (path :: paths)).run w =
      if ((view.isFile path).run w).1 then (some path, ((view.isFile path).run w).2)
      else (view.firstFile paths).run ((view.isFile path).run w).2 := by
  rw [firstFile, StateT.run_bind]
  rcases (view.isFile path).run w with ⟨answer, w'⟩
  cases answer <;> rfl

/-- A recorded search lists its probes, and is otherwise the search that nobody records. -/
theorem run_firstFile (view : FileView (StateM σ)) (name : Path) (directories : List Path) (w : σ)
    (asked : List Inquiry) :
    let paths := directories.map (·.join name)
    let plain := (view.firstFile paths).run w
    ∃ probes, (view.recorded.firstFile paths).run (w, asked) =
        (plain.1, (plain.2, asked ++ probes)) ∧
      Searched name directories probes plain.1 ∧
      ∀ more, view.Answers more plain.2 → view.Answers (probes ++ more) w := by
  induction directories generalizing w asked with
  | nil =>
      refine ⟨[], ?_, .exhausted, fun _ answers => answers⟩
      rw [List.append_nil]
      rfl
  | cons directory directories ih =>
      have recorded : (view.recorded.isFile (directory.join name)).run (w, asked) = _ :=
        Inquiry.run_recording (.probed (directory.join name)) _ w asked
      simp only [List.map_cons, run_firstFile_cons, recorded]
      cases answer : ((view.isFile (directory.join name)).run w).1 with
      | true => exact ⟨_, rfl, .hit directory directories, fun _ rest => ⟨answer, rest⟩⟩
      | false =>
          obtain ⟨probes, run, searched, answers⟩ :=
            ih ((view.isFile (directory.join name)).run w).2
              (asked ++ [.probed (directory.join name) false])
          refine ⟨_, ?_, .miss directory searched, fun more rest => ⟨answer, answers more rest⟩⟩
          simp only [Bool.false_eq_true, if_false, run, List.append_assoc, List.singleton_append]

/-- A view that gives the answers of a search has the same file, and is in the same state then. -/
theorem firstFile_of_answers {view : FileView (StateM τ)} {name : Path} {directories : List Path}
    {probes more : List Inquiry} {found : Option Path}
    (searched : Searched name directories probes found) {w : τ}
    (answers : view.Answers (probes ++ more) w) :
    let plain := (view.firstFile (directories.map (·.join name))).run w
    plain.1 = found ∧ view.Answers more plain.2 := by
  induction searched generalizing w with
  | exhausted => exact ⟨rfl, answers⟩
  | hit directory beyond =>
      obtain ⟨answer, rest⟩ := answers
      rw [List.map_cons, run_firstFile_cons, if_pos answer]
      exact ⟨rfl, rest⟩
  | miss directory later ih =>
      obtain ⟨answer, rest⟩ := answers
      rw [List.map_cons, run_firstFile_cons, if_neg (by simp [answer])]
      exact ih rest

/-- What a search upwards asks and finds. The view gives the answers that are listed, and every
other view that gives them has the same file. -/
theorem searched_findUpwards (view : FileView (StateM σ)) (start : Path) (name : String) (w : σ) :
    let plain := (view.findUpwards start name).run w
    ∃ probes, (view.recorded.findUpwards start name).run (w, []) =
        (plain.1, (plain.2, probes)) ∧
      Searched (.ofText name) start.ancestors probes plain.1 ∧
      (∀ more, view.Answers more plain.2 → view.Answers (probes ++ more) w) ∧
      ∀ (τ : Type) (other : FileView (StateM τ)) (w' : τ) (more : List Inquiry),
        other.Answers (probes ++ more) w' →
          ((other.findUpwards start name).run w').1 = plain.1 ∧
            other.Answers more ((other.findUpwards start name).run w').2 := by
  obtain ⟨probes, run, searched, answers⟩ :=
    run_firstFile view (.ofText name) start.ancestors w []
  exact ⟨probes, run, searched, answers,
    fun _ _ _ _ answers => firstFile_of_answers searched answers⟩

end FileView

namespace Project

variable {σ τ : Type} (explain : String → String)

open FileView Text.Utf8

/-- What the configuration file of a directory comes to, given what was read from it. -/
inductive DescribedBy (explain : String → String) (directory : Path) :
    Except SystemError Bytes → Except Failure Project → Prop
  /-- A text that holds a valid configuration makes a project. Its root may be written otherwise
  than the directory, with the same components. -/
  | configured {text : String} {config : Config} {root : Path}
      (read : Config.parse explain text = .ok config)
      (same : root.components = directory.components) :
      DescribedBy explain directory (.ok (encode text)) (.ok ⟨root, config⟩)
  /-- Anything else is reported, with a hint. -/
  | unusable {content : Except SystemError Bytes} (causes : List String)
      (unread : ∀ text config, content = .ok (encode text) →
        Config.parse explain text ≠ .ok config) :
      DescribedBy explain directory content
        (.error (.configuration
          ((directory.join (.ofText Config.fileName)).display ++ " is invalid") causes
          (some Hint.checkConfiguration)))

/-- What is asked when the project of a directory is looked for, and what comes of it. -/
inductive Nearest (explain : String → String) (start : Path) :
    List Inquiry → Except Failure Project → Prop
  /-- No directory on the way up has a configuration file. -/
  | unconfigured :
      Nearest explain start
        (misses (.ofText Config.fileName) start.ancestors ++ [.told (.usingDefaults start)])
        (.ok ⟨start, .default⟩)
  /-- The first directory that has one decides, whatever lies beyond it. -/
  | found {passed beyond : List Path} {directory : Path} {content : Except SystemError Bytes}
      {result : Except Failure Project} (way : start.ancestors = passed ++ directory :: beyond)
      (described : DescribedBy explain directory content result) :
      Nearest explain start
        (misses (.ofText Config.fileName) passed ++
          [.probed (directory.join (.ofText Config.fileName)) true,
           .told (.loadingConfiguration (directory.join (.ofText Config.fileName))),
           .opened (directory.join (.ofText Config.fileName)) content])
        result

theorem parseFile_eq_ok_iff {explain : String → String} {path : Path}
    {content : Except SystemError Bytes} {config : Config} :
    Config.parseFile explain path content = .ok config ↔
      ∃ text, content = .ok (encode text) ∧ Config.parse explain text = .ok config := by
  cases content with
  | error cause => exact iff_of_false nofun fun ⟨_, impossible, _⟩ => nomatch impossible
  | ok bytes =>
      simp only [Config.parseFile, Except.ok.injEq, ← decode?_eq_some_iff]
      cases decode? bytes with
      | none => exact iff_of_false nofun fun ⟨_, impossible, _⟩ => nomatch impossible
      | some text => simp

theorem components_fileName :
    (Path.ofText Config.fileName).components = [.normal (encode Config.fileName)] := by
  decide +kernel

theorem describedBy_ofFile (start directory : Path) (content : Except SystemError Bytes) :
    DescribedBy explain directory content
      (ofFile explain start (directory.join (.ofText Config.fileName)) content) := by
  unfold ofFile
  cases parsed : Config.parseFile explain (directory.join (.ofText Config.fileName)) content with
  | error e =>
      refine .unusable e.chain ?_
      intro text config read valid
      rw [parseFile_eq_ok_iff.mpr ⟨text, read, valid⟩] at parsed
      cases parsed
  | ok config =>
      obtain ⟨text, rfl, read⟩ := parseFile_eq_ok_iff.mp parsed
      obtain ⟨root, parent, same⟩ := Path.exists_parent?_join directory components_fileName
      simp only [parent, Option.getD_some]
      exact .configured read same

/-- A project is looked for by a search, and then by reading the file that was found. -/
theorem run_discoverFrom (view : FileView (StateM σ)) (start : Path) (w : σ) :
    (discoverFrom explain view start).run w =
      let found := (view.findUpwards start Config.fileName).run w
      match found.1 with
      | none => (.ok (unconfigured start), ((view.log (.usingDefaults start)).run found.2).2)
      | some file =>
        let told := ((view.log (.loadingConfiguration file)).run found.2).2
        (ofFile explain start file ((view.read file).run told).1,
          ((view.read file).run told).2) := by
  rw [discoverFrom, StateT.run_bind]
  rcases (view.findUpwards start Config.fileName).run w with ⟨found, w'⟩
  cases found <;> rfl

/-- What looking for a project asks and finds. The view gives the answers that are listed, and every
other view that gives them has the same project. -/
theorem nearest_discoverFrom (view : FileView (StateM σ)) (start : Path) (w : σ) :
    let plain := (discoverFrom explain view start).run w
    ∃ asked, (discoverFrom explain view.recorded start).run (w, []) =
        (plain.1, (plain.2, asked)) ∧
      Nearest explain start asked plain.1 ∧ view.Answers asked w ∧
      ∀ (τ : Type) (other : FileView (StateM τ)) (w' : τ), other.Answers asked w' →
        ((discoverFrom explain other start).run w').1 = plain.1 := by
  obtain ⟨probes, run, searched, answers, alike⟩ :=
    view.searched_findUpwards start Config.fileName w
  rw [run_discoverFrom explain view, run_discoverFrom explain view.recorded, run]
  generalize (view.findUpwards start Config.fileName).run w = found at searched answers alike ⊢
  obtain ⟨file?, w₁⟩ := found
  cases file? with
  | none =>
      refine ⟨_, rfl, ?_, answers _ trivial, ?_⟩
      · rw [searched.probes_of_none]
        exact .unconfigured
      · intro τ other w' answers
        have same := (alike τ other w' _ answers).1
        rw [run_discoverFrom explain other]
        simp only [same]
  | some file =>
      obtain ⟨passed, directory, beyond, way, rfl, rfl⟩ := searched.exists_of_some
      let file := directory.join (.ofText Config.fileName)
      let told := ((view.log (.loadingConfiguration file)).run w₁).2
      let content := ((view.read file).run told).1
      have asked : misses (.ofText Config.fileName) passed ++ [.probed file true] ++
          [.told (.loadingConfiguration file), .opened file content] =
            misses (.ofText Config.fileName) passed ++ [.probed file true,
              .told (.loadingConfiguration file), .opened file content] :=
        List.append_assoc _ _ _
      have given := answers [.told (.loadingConfiguration file), .opened file content]
        ⟨rfl, trivial⟩
      rw [asked] at given
      refine ⟨_, ?_, .found way (describedBy_ofFile explain start directory content), given, ?_⟩
      · rw [← asked, List.append_cons _ _ [Inquiry.opened file content]]
        rfl
      · intro τ other w' answers
        rw [← asked] at answers
        obtain ⟨same, read, -⟩ := alike τ other w' _ answers
        rw [run_discoverFrom explain other]
        simp only [same]
        exact congrArg (ofFile explain start file) read

/-- The nearest configuration file decides the project of a directory, in every file system and
whatever the directory is called. A search probes the directory and those above it, each the parent
of the one before and no more of them than there are components and one, up to the first that has
the file. Nothing is asked after that but what is in the file, and nothing that is not asked makes a
difference. The log is told of the file before it is read, or that there is none. -/
theorem nearest_configuration (view : FileView (StateM σ)) (start : Path) (w : σ) :
    (∀ i : Nat, start.ancestors[i]? = start.above i) ∧
      (∀ name : String,
        let plain := (view.findUpwards start name).run w
        ∃ probes, (view.recorded.findUpwards start name).run (w, []) =
            (plain.1, (plain.2, probes)) ∧
          probes.length ≤ start.components.length + 1 ∧
          Searched (.ofText name) start.ancestors probes plain.1 ∧ view.Answers probes w ∧
          ∀ (τ : Type) (other : FileView (StateM τ)) (w' : τ), other.Answers probes w' →
            ((other.findUpwards start name).run w').1 = plain.1) ∧
      let plain := (discoverFrom explain view start).run w
      ∃ asked, (discoverFrom explain view.recorded start).run (w, []) =
          (plain.1, (plain.2, asked)) ∧
        Nearest explain start asked plain.1 ∧ view.Answers asked w ∧
        ∀ (τ : Type) (other : FileView (StateM τ)) (w' : τ), other.Answers asked w' →
          ((discoverFrom explain other start).run w').1 = plain.1 := by
  refine ⟨start.getElem?_ancestors, fun name => ?_, nearest_discoverFrom explain view start w⟩
  obtain ⟨probes, run, searched, answers, alike⟩ := view.searched_findUpwards start name w
  refine ⟨probes, run, ?_, searched, ?_, ?_⟩
  · exact Nat.le_trans searched.length_le start.length_ancestors_le
  · have given := answers [] trivial
    rwa [List.append_nil] at given
  · intro τ other w' answers
    exact (alike τ other w' [] (by rwa [List.append_nil])).1

end Project
end GoTasks
