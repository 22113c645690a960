import GoTasks.Proofs.Components
import GoTasks.Proofs.Settings
import GoTasks.Verb.Planning

/-!
# Where the binary is

The output directory is named twice: building passes it to the Go tool, as a text that ends in a
separator and is read from the root of the project, and running shows the path that is joined from
root, directory and name. The two are the same place if the output directory is absolute, or if the
root is a text and the directory is not empty.

The empty directory is the root of the project for running. For building, its text with a separator
at the end is the root of the file system.
-/

namespace GoTasks

namespace Path

open Text.Utf8

theorem ne_nil_of_isAbsolute {p : Path} (absolute : p.isAbsolute = true) : p.bytes ≠ [] := by
  intro empty
  rw [isAbsolute, empty] at absolute
  cases absolute

theorem join_of_isAbsolute (base : Path) {other : Path} (absolute : other.isAbsolute = true) :
    base.join other = other := by
  rw [join, if_pos absolute]

/-- The steps of a text are shown as they are. -/
theorem map_shown_steps_encode (s : String) :
    (steps (encode s)).map Component.shown = steps (encode s) := by
  rw [← steps_shown, lossy_encode]

/-- Of the components of an absolute path, what is shown is the root only if it is the root. -/
theorem root_eq_map_shown_iff {p : Path} (absolute : p.isAbsolute = true) :
    [Component.root] = p.components.map Component.shown ↔ p.components = [.root] := by
  rw [components_of_isAbsolute absolute, List.map_cons]
  simp only [Component.shown, List.cons.injEq, true_and, List.nil_eq, List.map_eq_nil_iff]

end Path

namespace Config

open Text.Utf8

theorem separator_not_mem_encode {name : String} (plain : hasSeparator name = false) :
    Path.separator ∉ encode name := by
  rw [mem_encode_iff (by decide)]
  rintro ⟨c, member, value⟩
  have slash : c = '/' := Char.toNat_inj.mp value
  have separated : hasSeparator name = true :=
    List.any_eq_true.mpr ⟨c, member, by simp [slash]⟩
  rw [plain] at separated
  cases separated

/-- A name without separators is not absolute. -/
theorem isAbsolute_ofText {name : String} (plain : hasSeparator name = false) :
    (Path.ofText name).isAbsolute = false := by
  rw [Path.isAbsolute, decide_eq_false_iff_not]
  intro first
  exact separator_not_mem_encode plain (List.mem_of_mem_head? first)

/-- The output directory of a configuration that was read is a text. -/
theorem exists_outputDirectory_of_parse {explain : String → String} {text : String} {c : Config}
    (read : parse explain text = .ok c) : ∃ t, c.layout.outputDirectory = .ofText t := by
  obtain ⟨document, -, -, -, rfl⟩ := parse_eq_ok_iff.mp read
  change ∃ t, ((projectSection.setting? "output_dir" document).bind path?).getD (.ofText "dist") = _
  cases given : (projectSection.setting? "output_dir" document).bind path? with
  | none => exact ⟨"dist", rfl⟩
  | some path =>
      obtain ⟨content, -, isPath⟩ := Option.bind_eq_some_iff.mp given
      obtain ⟨t, -, rfl⟩ := Option.map_eq_some_iff.mp isPath
      exact ⟨t, rfl⟩

/-! ## The directory as an argument -/

section

variable {c : Config} {t : String} (directory : c.layout.outputDirectory = .ofText t)
include directory

/-- The argument for the output directory is its text, with a separator at the end. -/
theorem outputArgument_eq : c.outputArgument = t ∧ t ≠ "" ∨ c.outputArgument = t ++ "/" := by
  have shown : c.layout.outputDirectory.display = t := by
    rw [directory]
    exact lossy_encode t
  simp only [outputArgument, shown]
  split
  · next ends =>
    refine .inl ⟨rfl, ?_⟩
    rintro rfl
    cases ends
  · exact .inr rfl

theorem steps_outputArgument :
    Path.steps (encode c.outputArgument) = Path.steps (encode t) := by
  rcases outputArgument_eq directory with ⟨same, -⟩ | same
  · rw [same]
  · rw [same, encode_append]
    exact Path.steps_concat_separator (encode t)

theorem isAbsolute_outputArgument (nonempty : encode t ≠ []) :
    (Path.ofText c.outputArgument).isAbsolute = (Path.ofText t).isAbsolute := by
  rcases outputArgument_eq directory with ⟨same, -⟩ | same
  · rw [same]
  · rw [same, Path.isAbsolute, Path.isAbsolute, Path.ofText, Path.ofText, encode_append,
      List.head?_append_of_ne_nil _ nonempty]

section

variable {root : Path} (absolute : root.isAbsolute = true)
include absolute

/-- With a separator at its end, the empty directory is the root of the file system. -/
theorem components_join_of_empty (empty : encode t = []) :
    (root.join (.ofText c.outputArgument)).components = [.root] ∧
      (root.join (.ofText t)).components = root.components := by
  obtain rfl : t = "" := by
    rw [← lossy_encode t, empty]
    rfl
  have argument : c.outputArgument = "/" := by
    rcases outputArgument_eq directory with ⟨-, nonblank⟩ | same
    · exact absurd rfl nonblank
    · exact same
  constructor
  · rw [argument, Path.join_of_isAbsolute root rfl]
    rfl
  · rw [Path.components_join (Path.ne_nil_of_isAbsolute absolute) rfl]
    exact List.append_nil root.components

omit absolute in
theorem components_join_of_isAbsolute (nonempty : encode t ≠ [])
    (directory_absolute : (Path.ofText t).isAbsolute = true) :
    (root.join (.ofText c.outputArgument)).components =
      (root.join (.ofText t)).components.map Path.Component.shown := by
  have argument_absolute :=
    (isAbsolute_outputArgument directory nonempty).trans directory_absolute
  rw [Path.join_of_isAbsolute root argument_absolute,
    Path.join_of_isAbsolute root directory_absolute,
    Path.components_of_isAbsolute argument_absolute,
    Path.components_of_isAbsolute directory_absolute, List.map_cons]
  refine congrArg (Path.Component.root :: ·) ?_
  exact (steps_outputArgument directory).trans (Path.map_shown_steps_encode t).symm

/-- A relative directory adds the same steps to the root, which is read in one place and shown in
the other. -/
theorem components_join_of_relative (nonempty : encode t ≠ [])
    (directory_relative : (Path.ofText t).isAbsolute = false) :
    (root.join (.ofText c.outputArgument)).components =
        root.components ++ Path.steps (encode t) ∧
      (root.join (.ofText t)).components.map Path.Component.shown =
        root.shown.components ++ Path.steps (encode t) := by
  have root_nonempty := Path.ne_nil_of_isAbsolute absolute
  have argument_relative :=
    (isAbsolute_outputArgument directory nonempty).trans directory_relative
  constructor
  · rw [Path.components_join root_nonempty argument_relative]
    exact congrArg (root.components ++ ·) (steps_outputArgument directory)
  · rw [Path.components_join root_nonempty directory_relative, List.map_append,
      ← Path.components_shown]
    exact congrArg (root.shown.components ++ ·) (Path.map_shown_steps_encode t)

/-- The directory that the binary is written to has the components of the directory that it is
looked for in, as that directory is shown, exactly under one of three conditions. -/
theorem components_outputArgument_iff :
    (root.join (.ofText c.outputArgument)).components =
        (root.join c.layout.outputDirectory).components.map Path.Component.shown ↔
      if c.layout.outputDirectory.bytes = [] then root.components = [.root]
      else c.layout.outputDirectory.isAbsolute = true ∨ root.IsText := by
  rw [directory]
  change _ ↔ if encode t = [] then _ else _
  by_cases empty : encode t = []
  · obtain ⟨written, joined⟩ := components_join_of_empty directory absolute empty
    rw [if_pos empty, written, joined]
    exact Path.root_eq_map_shown_iff absolute
  rw [if_neg empty]
  by_cases directory_absolute : (Path.ofText t).isAbsolute = true
  · exact iff_of_true (components_join_of_isAbsolute directory empty directory_absolute)
      (.inl directory_absolute)
  · rw [Bool.not_eq_true] at directory_absolute
    obtain ⟨written, shown⟩ :=
      components_join_of_relative directory absolute empty directory_absolute
    rw [written, shown, List.append_cancel_right_eq, eq_comm, Path.components_shown_eq_iff,
      directory_absolute]
    simp only [Bool.false_eq_true, false_or]

end

end

end Config

/-- The argument that follows a flag. -/
def Command.argumentAfter? (flag : String) (command : Command) : Option String :=
  ((command.arguments.dropWhile (· ≠ flag)).drop 1).head?

namespace Verb

theorem argumentAfter?_buildCommand (ctx : PlanContext) (platform? : Option OperatingSystem)
    (stamp? : Option Stamp) :
    (ctx.buildCommand platform? stamp?).argumentAfter? "-o" = some ctx.config.outputArgument := by
  simp [Command.argumentAfter?, PlanContext.buildCommand, PlanContext.command,
    Config.buildArguments]

/-- A verb that builds has one step, for its own platform. -/
theorem steps_planWith_of_isBuild (ctx : PlanContext) (stamp? : Option Stamp) {v : Verb}
    (builds : v.isBuild = true) :
    (v.planWith ctx stamp?).steps = [⟨v.name, ctx.buildCommand v.platform? stamp?⟩] := by
  cases v with
  | build | buildFor => rfl
  | _ => cases builds

/-- The step of a verb that builds is told to write into the output directory. -/
theorem exists_build_step (ctx : PlanContext) (stamp? : Option Stamp) {v : Verb}
    (builds : v.isBuild = true) :
    ∃ step, (v.planWith ctx stamp?).steps = [step] ∧
      step.command.argumentAfter? "-o" = some ctx.config.outputArgument :=
  ⟨_, steps_planWith_of_isBuild ctx stamp? builds, argumentAfter?_buildCommand ..⟩

/-- A binary is built where it is run exactly if the output directory is absolute, or the root is a
text and the directory is not empty; or if it is empty, and the root is that of the file system. -/
theorem built_where_run_iff {explain : String → String} {text : String} {c : Config}
    (read : Config.parse explain text = .ok c)
    (root : Path) (absolute : root.isAbsolute = true) (environment : Environment)
    (preset? stamp? : Option Stamp) (v : Verb) (builds : v.isBuild = true) :
    let ctx : PlanContext := ⟨⟨root, c⟩, environment, preset?⟩
    ∃ building running out, (v.planWith ctx stamp?).steps = [building] ∧
      (run.planWith ctx stamp?).steps = [running] ∧
      building.command.argumentAfter? "-o" = some out ∧
      (((root.join (.ofText out)).join (.ofText c.layout.binaryName)).components =
          (Path.ofText running.command.program).components ↔
        if c.layout.outputDirectory.bytes = [] then root.components = [.root]
        else c.layout.outputDirectory.isAbsolute = true ∨ root.IsText) := by
  intro ctx
  obtain ⟨building, planned, argument⟩ := exists_build_step ctx stamp? builds
  refine ⟨building, _, _, planned, rfl, argument, ?_⟩
  obtain ⟨t, directory⟩ := Config.exists_outputDirectory_of_parse read
  obtain ⟨-, plain, -⟩ := (Config.isValid_iff c).mp (Config.isValid_of_parse read)
  have relative : (Path.ofText c.layout.binaryName).isAbsolute = false :=
    Config.isAbsolute_ofText plain
  have below (directory : Path) :
      ((root.join directory).join (.ofText c.layout.binaryName)).components =
        (root.join directory).components ++ Path.steps (Path.ofText c.layout.binaryName).bytes :=
    Path.components_join (Path.ne_nil_of_isAbsolute (Path.isAbsolute_join absolute directory))
      relative
  have program : (Path.ofText ctx.runCommand.program).components =
      ctx.project.binaryPath.components.map Path.Component.shown :=
    Path.components_shown ctx.project.binaryPath
  have name : (Path.steps (Path.ofText c.layout.binaryName).bytes).map Path.Component.shown =
      Path.steps (Path.ofText c.layout.binaryName).bytes :=
    Path.map_shown_steps_encode c.layout.binaryName
  rw [below, program, Project.binaryPath, Project.outputDirectory, below, List.map_append, name,
    List.append_cancel_right_eq]
  exact Config.components_outputArgument_iff directory absolute

theorem built_where_run_given_directory :
    ∃ c building running out,
      Config.parse id "[project]\noutput_dir = './out//bin/..'\n" = .ok c ∧
        (build.planWith ⟨⟨.ofText "/work/proxy", c⟩, .empty, none⟩ none).steps = [building] ∧
        (run.planWith ⟨⟨.ofText "/work/proxy", c⟩, .empty, none⟩ none).steps = [running] ∧
        building.command.argumentAfter? "-o" = some out ∧
        (((Path.ofText "/work/proxy").join (.ofText out)).join
          (.ofText c.layout.binaryName)).components =
            (Path.ofText running.command.program).components := by
  let directory : Path := .ofText "./out//bin/.."
  have read : Config.parse id "[project]\noutput_dir = './out//bin/..'\n" =
      .ok { Config.default with layout := { Config.Layout.default with
        outputDirectory := directory } } := by
    decide +kernel
  obtain ⟨building, running, out, planned, planned', argument, same_iff⟩ :=
    built_where_run_iff read (.ofText "/work/proxy") rfl .empty none none build rfl
  exact ⟨_, building, running, out, read, planned, planned', argument,
    same_iff.mpr (.inr ⟨"/work/proxy", rfl⟩)⟩

/-- Without a directory, the binary is built into the root of the file system and run from the root
of the project. -/
theorem built_elsewhere_without_directory :
    ∃ c building running,
      Config.parse id "[project]\noutput_dir = \"\"\n" = .ok c ∧
        (build.planWith ⟨⟨.ofText "/nonexistent/proj", c⟩, .empty, none⟩ none).steps = [building] ∧
        (run.planWith ⟨⟨.ofText "/nonexistent/proj", c⟩, .empty, none⟩ none).steps = [running] ∧
        building.command.argumentAfter? "-o" = some "/" ∧
        running.command.program = "/nonexistent/proj/go-proxy" ∧
        (((Path.ofText "/nonexistent/proj").join (.ofText "/")).join
          (.ofText c.layout.binaryName)).components ≠
            (Path.ofText running.command.program).components := by
  have read : Config.parse id "[project]\noutput_dir = \"\"\n" =
      .ok { Config.default with layout := { Config.Layout.default with
        outputDirectory := .ofText "" } } := by
    decide +kernel
  refine ⟨_, _, _, read, rfl, rfl, ?_, ?_, ?_⟩
  · decide +kernel
  · decide +kernel
  · decide +kernel

end Verb
end GoTasks
