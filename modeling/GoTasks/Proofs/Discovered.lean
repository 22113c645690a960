import GoTasks.Project.Discovery
import GoTasks.Proofs.Pieces
import GoTasks.Proofs.Settings
import GoTasks.Verb.Planning

/-!
# Plans of projects that are found

A project that is found has a configuration that breaks no rule, whether it was read from a file or
is the default one. That is enough for every verb: its plan is not empty, and each of its commands
names a program and is run in the root of the project. The linter is the configured one, because the
usual one only stands in for a command line that no rule lets pass.
-/

namespace GoTasks

namespace Project

variable {explain : String → String}

/-- A project that was read from a file has a valid configuration. -/
theorem isValid_of_ofFile {start file : Path} {content : Except SystemError Bytes}
    {project : Project} (found : ofFile explain start file content = .ok project) :
    project.config.IsValid := by
  unfold ofFile Config.parseFile at found
  split at found
  · cases found
  · next config read =>
    obtain rfl := Except.ok.inj found
    split at read
    · cases read
    · split at read
      · cases read
      · exact Config.isValid_of_parse read

theorem isValid_of_discoverFrom {σ : Type} {view : FileView (StateM σ)} {start : Path} {w : σ}
    {project : Project} (found : ((discoverFrom explain view start).run w).1 = .ok project) :
    project.config.IsValid := by
  unfold discoverFrom at found
  simp only [StateT.run_bind] at found
  cases nearest : ((view.findUpwards start Config.fileName).run w) with
  | mk file? w' =>
      rw [nearest] at found
      cases file? with
      | none =>
          obtain rfl := Except.ok.inj found
          exact Config.isValid_default
      | some file => exact isValid_of_ofFile found

end Project

namespace Config

/-- What the rules of a configuration come to where commands are made of it. -/
theorem lintCommandLine_eq {c : Config} (valid : c.IsValid) :
    c.tools.lint = c.lintCommandLine.1 :: c.lintCommandLine.2 ∧
      Text.isBlankText c.lintCommandLine.1 = false := by
  obtain ⟨-, -, -, -, program, -⟩ := (isValid_iff c).mp valid
  unfold lintCommandLine
  cases lint : c.tools.lint with
  | nil => simp [lint, lacksProgram] at program
  | cons first arguments => exact ⟨rfl, by simpa [lint, lacksProgram] using program⟩

end Config

namespace Path

/-- A path with a separator is not shown as a blank text. -/
theorem isBlankText_display {p : Path} (member : separator ∈ p.bytes) :
    Text.isBlankText p.display = false := by
  have shown : separator ∈ Text.Utf8.encode (Text.Utf8.lossy p.bytes) :=
    (Text.Utf8.mem_encode_lossy_iff (by decide)).mpr member
  obtain ⟨c, member, value⟩ := (Text.Utf8.mem_encode_iff (by decide)).mp shown
  obtain rfl : c = '/' := Char.toNat_inj.mp value
  exact List.all_eq_false.mpr ⟨'/', member, by decide⟩

/-- Nothing that is named below a directory is shown as a blank text. -/
theorem isBlankText_display_join (base : Path) {name : String}
    (named : Text.isBlankText name = false) :
    Text.isBlankText (base.join (.ofText name)).display = false := by
  unfold join
  split
  · next absolute =>
    exact isBlankText_display (List.mem_of_mem_head? (of_decide_eq_true absolute))
  split
  · next noSeparator =>
    rcases noSeparator with empty | ends
    · rw [display, empty, List.nil_append, ofText, Text.Utf8.lossy_encode]
      exact named
    · exact isBlankText_display (List.mem_append_left _ (List.mem_of_getLast? ends))
  · exact isBlankText_display (by simp)

end Path

/-- Whether all commands in the plan of a verb are what the configuration of the project asks for.
-/
structure Plan.WellFormed (project : Project) (v : Verb) (plan : Plan) : Prop where
  /-- There is a step, and two for checking. -/
  labels : plan.labels = if v = .check then ["lint", "test"] else [v.name]
  directory : ∀ step ∈ plan.steps, step.command.directory = project.root
  program : ∀ step ∈ plan.steps, ∃ c ∈ step.command.program.toList, Text.isBlank c = false
  lint : ∀ step ∈ plan.steps, step.label = "lint" →
    step.command.argv = project.config.tools.lint
  test : ∀ step ∈ plan.steps, step.label = "test" →
    step.command.argv = project.config.tools.go :: "test" ::
      ((if project.config.testing.race then ["-race"] else []) ++
        ["-timeout=" ++ toString project.config.testing.timeoutSeconds ++ "s", "-count=1"] ++
        project.config.testing.packages)

namespace Verb

variable {ctx : PlanContext} (valid : ctx.config.IsValid)
include valid

theorem isBlankText_program (stamp? : Option Stamp) {v : Verb} :
    ∀ step ∈ (v.planWith ctx stamp?).steps, Text.isBlankText step.command.program = false := by
  obtain ⟨name, -, -, go, -⟩ := (Config.isValid_iff _).mp valid
  have lint := (Config.lintCommandLine_eq valid).2
  have binary : Text.isBlankText ctx.project.binaryPath.display = false :=
    Path.isBlankText_display_join _ name
  cases v <;>
    simp [planWith, Plan.single, Plan.empty, PlanContext.testCommand, PlanContext.buildCommand,
      PlanContext.runCommand, PlanContext.lintCommand, PlanContext.command, go, lint, binary]

omit valid

/-- A step under the name of the linter or of the tests is theirs. -/
theorem command_of_label (stamp? : Option Stamp) {v : Verb} :
    ∀ step ∈ (v.planWith ctx stamp?).steps,
      (step.label = "lint" → step.command = ctx.lintCommand) ∧
        (step.label = "test" → step.command = ctx.testCommand) := by
  cases v with
  | buildFor os => cases os <;> simp [planWith, Plan.single, name, OperatingSystem.name]
  | _ => simp [planWith, Plan.single, Plan.empty, name]

theorem directory_of_planWith (stamp? : Option Stamp) {v : Verb} :
    ∀ step ∈ (v.planWith ctx stamp?).steps, step.command.directory = ctx.project.root := by
  cases v <;>
    simp [planWith, Plan.single, Plan.empty, PlanContext.testCommand, PlanContext.buildCommand,
      PlanContext.runCommand, PlanContext.lintCommand, PlanContext.command]

theorem labels_planWith (stamp? : Option Stamp) {v : Verb} (project : v ≠ help) :
    (v.planWith ctx stamp?).labels = if v = check then ["lint", "test"] else [v.name] := by
  cases v <;> first | rfl | exact absurd rfl project

theorem planWith_wellFormed (ctx : PlanContext) (valid : ctx.config.IsValid)
    (stamp? : Option Stamp) {v : Verb} (project : v ≠ help) :
    Plan.WellFormed ctx.project v (v.planWith ctx stamp?) where
  labels := labels_planWith stamp? project
  directory := directory_of_planWith stamp?
  program step member := by
    obtain ⟨c, member, shown⟩ := List.all_eq_false.mp (isBlankText_program valid stamp? step member)
    exact ⟨c, member, by simpa using shown⟩
  lint step member label := by
    rw [(command_of_label stamp? step member).1 label]
    exact (Config.lintCommandLine_eq valid).1.symm
  test step member label := by
    rw [(command_of_label stamp? step member).2 label]
    rfl

end Verb

/-- A project that is found has a valid configuration, and whatever is asked of it but help comes to
a plan of well-formed commands. -/
theorem Project.found_plan_wellFormed {σ τ : Type} {explain : String → String}
    {view : FileView (StateM σ)} {start : Path} {w : σ} {project : Project}
    (found : ((discoverFrom explain view start).run w).1 = .ok project) :
    project.config.fault? = none ∧ 0 < project.config.testing.timeoutSeconds ∧
      project.config.testing.packages ≠ [] ∧
      ∀ v : Verb, v ≠ .help → ∀ (log : LogEvent → StateM τ Unit) (source : Stamp.Source (StateM τ))
        (environment : Environment) (preset? : Option Stamp) (w' : τ),
        Plan.WellFormed project v
          ((v.plan log source ⟨project, environment, preset?⟩).run w').1 := by
  have valid := isValid_of_discoverFrom found
  obtain ⟨-, -, -, -, -, timeout, packages⟩ := (Config.isValid_iff _).mp valid
  refine ⟨(Config.fault?_eq_none_iff _).mpr valid, Nat.pos_of_ne_zero timeout, packages, ?_⟩
  intro v needsProject log source environment preset? w'
  let ctx : PlanContext := ⟨project, environment, preset?⟩
  have planned (stamp? : Option Stamp) : Plan.WellFormed ctx.project v (v.planWith ctx stamp?) :=
    Verb.planWith_wellFormed ctx valid stamp? needsProject
  exact planned ((v.stampFor log source ctx).run ((v.announce log).run w').2).1

/-- A file system with one file and no state, where no log is kept. -/
def FileView.singleFile (file : Path) (content : Bytes) : FileView (StateM Unit) where
  isFile path := pure (path = file)
  read path := pure (if path = file then .ok content else .error (.numbered 2))
  currentDirectory := pure (.ok file)
  log _ := pure ()

theorem FileView.read_singleFile (file : Path) (content : Bytes) :
    (singleFile file content).read file = pure (.ok content) := by
  simp [singleFile]

theorem FileView.findUpwards_singleFile (start : Path) (name : String) (content : Bytes) :
    (singleFile (start.join (.ofText name)) content).findUpwards start name =
      pure (some (start.join (.ofText name))) := by
  rw [findUpwards, candidates, Path.ancestors, List.map_cons, firstFile]
  simp [singleFile]

theorem Project.found_plan_wellFormed_configured :
    ∃ project,
      ((discoverFrom id (.singleFile ((Path.ofText "/p").join (.ofText Config.fileName))
        (Text.Utf8.encode "tools.lint = ['vet', '-v']\ntest.race = true\n"))
        (.ofText "/p")).run ()).1 = .ok project ∧
      project.config.fault? = none ∧ project.config.tools.lint = ["vet", "-v"] ∧
      Plan.WellFormed project .check ((Verb.check.plan (fun _ => pure ())
        ⟨pure ⟨0, 0⟩, fun _ => pure (.ok []), fun _ _ => pure (.error (.numbered 2))⟩
        ⟨project, .empty, none⟩ : StateM Unit Plan).run ()).1 := by
  let config : Config := { Config.default with
    tools := { Config.Tools.default with lint := ["vet", "-v"] }
    testing := { Config.Testing.default with race := true } }
  have read : ofFile id (.ofText "/p") ((Path.ofText "/p").join (.ofText Config.fileName))
      (.ok (Text.Utf8.encode "tools.lint = ['vet', '-v']\ntest.race = true\n")) =
        .ok ⟨.ofText "/p", config⟩ := by
    decide +kernel
  have found : ((discoverFrom id (.singleFile ((Path.ofText "/p").join (.ofText Config.fileName))
      (Text.Utf8.encode "tools.lint = ['vet', '-v']\ntest.race = true\n"))
      (.ofText "/p")).run ()).1 = .ok ⟨.ofText "/p", config⟩ := by
    rw [discoverFrom, FileView.findUpwards_singleFile, pure_bind]
    have unlogged (e : LogEvent) : (FileView.singleFile ((Path.ofText "/p").join
        (.ofText Config.fileName)) (Text.Utf8.encode
          "tools.lint = ['vet', '-v']\ntest.race = true\n")).log e = pure () := rfl
    dsimp only
    rw [unlogged, pure_bind, FileView.read_singleFile, pure_bind]
    exact read
  obtain ⟨faultless, -, -, wellFormed⟩ := found_plan_wellFormed found
  exact ⟨_, found, faultless, rfl, wellFormed .check nofun _ _ .empty none ()⟩

end GoTasks
