import GoTasks.Proofs.Ascent
import GoTasks.Proofs.PackageArgument

/-!
# The name of the binary

The binary is the file in the output directory that has the name of the project, and the Go tool
gives a file the name of the directory that its package lies in. Both rest on the name being a file
name. A name without separators is a single segment of a path, and a segment names a file unless it
is empty, `.` or `..`. Validation sees to it that a name has no separators and is not empty, so the
names `.` and `..` are left, which it accepts and which name directories.
-/

namespace GoTasks

namespace Path

open Text.Utf8

/-! ## File names -/

/-- The name of the file that a path leads to, if its last component is a name. -/
def fileName? (p : Path) : Option Bytes :=
  match p.components.getLast? with
  | some (.normal name) => some name
  | _ => none

theorem fileName?_of_components {p : Path} {before : List Component} {name : Bytes}
    (ends : p.components = before ++ [.normal name]) : p.fileName? = some name := by
  unfold fileName?
  rw [ends, List.getLast?_concat]

/-- A file name that is a text is shown as it is. -/
theorem fileName?_shown {p : Path} {before : List Component} {name : String}
    (ends : p.components = before ++ [.normal (encode name)]) :
    p.shown.fileName? = some (encode name) := by
  have last : Component.shown (.normal (encode name)) = .normal (encode name) := by
    rw [Component.shown, lossy_encode]
  have shown_ends : p.shown.components =
      before.map Component.shown ++ [.normal (encode name)] := by
    rw [components_shown, ends, List.map_append, List.map_singleton, last]
  exact fileName?_of_components shown_ends

/-! ## Names of one segment -/

section

variable {name : Bytes} (solid : separator ∉ name)
include solid

/-- A name without separators is one step, unless it is noise. -/
theorem steps_of_not_mem :
    steps name = if isNoise name then [] else [.ofSegment name] := by
  rw [steps, segments_of_not_mem solid]
  by_cases noise : isNoise name = true
  · simp [noise]
  · simp [noise]

/-- Of the names without separators, those that are no file names are empty or name a directory. -/
theorem steps_eq_normal_iff (nonempty : name ≠ []) :
    steps name = [.normal name] ↔ name ≠ dot ∧ name ≠ dotDot := by
  rw [steps_of_not_mem solid]
  constructor
  · intro named
    constructor
    · rintro rfl
      cases named
    · rintro rfl
      cases named
  · rintro ⟨not_dot, not_dotDot⟩
    have not_noise : isNoise name = false := by simp [isNoise, nonempty, not_dot]
    rw [not_noise, Component.ofSegment, if_neg not_dotDot]
    rfl

theorem components_of_steps (not_dot : name ≠ dot) : (Path.mk name).components = steps name := by
  have start : (Path.mk name).anchor = .implied := by
    rw [anchor_eq (segments_of_not_mem solid), if_neg fun root => root.2 rfl, if_neg not_dot]
  rw [components_eq, start]
  rfl

end

end Path

namespace Config

open Text.Utf8

/-- A name that is not blank has bytes. -/
theorem encode_ne_nil {name : String} (nonblank : Text.isBlankText name = false) :
    encode name ≠ [] := by
  intro empty
  obtain rfl : name = "" := by
    rw [← lossy_encode name, empty]
    rfl
  cases nonblank

/-- The name of a valid configuration is a step to a file unless it is a name of a directory. -/
theorem steps_name_iff {c : Config} (valid : c.IsValid) :
    Path.steps (encode c.layout.name) = [.normal (encode c.layout.name)] ↔
      c.layout.name ≠ "." ∧ c.layout.name ≠ ".." := by
  obtain ⟨nonblank, plain, -⟩ := (isValid_iff c).mp valid
  have dot : encode "." = Path.dot := by decide +kernel
  have dotDot : encode ".." = Path.dotDot := by decide +kernel
  rw [Path.steps_eq_normal_iff (separator_not_mem_encode plain) (encode_ne_nil nonblank), ← dot,
    ← dotDot, ne_eq, ne_eq, encode_inj, encode_inj]

section

variable {c : Config} (valid : c.IsValid) (file : c.layout.name ≠ "." ∧ c.layout.name ≠ "..")
include valid file

/-- A name that is no name of a directory is a path of one component. -/
theorem components_name :
    (Path.ofText c.layout.name).components = [.normal (encode c.layout.name)] := by
  obtain ⟨-, plain, -⟩ := (isValid_iff c).mp valid
  have dot : encode "." = Path.dot := by decide +kernel
  have not_dot : encode c.layout.name ≠ Path.dot := by
    rw [← dot, ne_eq, encode_inj]
    exact file.1
  have steps := (steps_name_iff valid).mpr file
  exact (Path.components_of_steps (separator_not_mem_encode plain) not_dot).trans steps

variable (usual : c.layout.entry? = none)
include usual

/-- The usual entry lies in `cmd` and has the name of the project. -/
theorem components_entry :
    c.layout.entry.components = [.normal (encode "cmd"), .normal (encode c.layout.name)] := by
  have directory : (Path.ofText "cmd").components = [.normal (encode "cmd")] := by decide +kernel
  rw [Layout.entry, usual, Option.getD_none,
    Path.components_join_name _ (components_name valid file), directory]
  rfl

theorem packageArgument_entry : c.layout.entry.packageArgument = "./cmd/" ++ c.layout.name := by
  have written : c.layout.entry.shownComponents = "cmd/" ++ c.layout.name := by
    have cmd : lossy (encode "cmd") = "cmd" := lossy_encode "cmd"
    rw [Path.shownComponents, components_entry valid file usual, List.map_cons, List.map_singleton,
      Path.Component.bytes, Path.Component.bytes, cmd, lossy_encode, String.intercalate_cons_cons,
      String.intercalate_singleton]
    rfl
  have other : Path.isRelativePackage ("cmd/" ++ c.layout.name) = false := by
    rw [Path.isRelativePackage, String.toList_append]
    rfl
  rw [Path.packageArgument_eq, written, other, if_neg Bool.false_ne_true, ← String.append_assoc]
  rfl

omit usual in
theorem fileName?_packageArgument_entry :
    (Path.ofText ("./cmd/" ++ c.layout.name)).fileName? = some (encode c.layout.name) := by
  have start : "./cmd/" ++ c.layout.name = "./" ++ ("cmd/" ++ c.layout.name) := by
    rw [← String.append_assoc]
    rfl
  have below : encode ("cmd/" ++ c.layout.name) =
      encode "cmd" ++ Path.separator :: encode c.layout.name := by
    have slash : encode "cmd/" = encode "cmd" ++ [Path.separator] := by decide +kernel
    rw [encode_append, slash, List.append_assoc, List.singleton_append]
  have ends : (Path.ofText ("./cmd/" ++ c.layout.name)).components =
      (.current :: Path.steps (encode "cmd")) ++ [.normal (encode c.layout.name)] := by
    rw [start, Path.components_below_dot, below, Path.steps_append_separator,
      (steps_name_iff valid).mpr file]
    rfl
  exact Path.fileName?_of_components ends

end

end Config

namespace PlanContext

open Text.Utf8

/-- A name that the binary has as a file in the output directory, for what builds it and for what
runs it. -/
structure NamesBinary (ctx : PlanContext) (name : String) : Prop where
  components : ctx.project.binaryPath.components =
    (ctx.project.root.join ctx.config.layout.outputDirectory).components ++
      [.normal (encode name)]
  fileName : ctx.project.binaryPath.fileName? = some (encode name)
  parent : ∃ directory, ctx.project.binaryPath.parent? = some directory ∧
    directory.components = (ctx.project.root.join ctx.config.layout.outputDirectory).components
  /-- Unless another entry is configured, the package lies in the directory of that name. -/
  entry : ctx.config.layout.entry? = none →
    ctx.config.layout.entry.components = [.normal (encode "cmd"), .normal (encode name)]
  /-- Then the file that is built has the name of the file that is run. -/
  package : ctx.config.layout.entry? = none → ∀ (v : Verb) (stamp? : Option Stamp),
    v.isBuild = true →
      ∃ building running, (v.planWith ctx stamp?).steps = [building] ∧
        (Verb.run.planWith ctx stamp?).steps = [running] ∧
        building.command.arguments.getLast? = some ("./cmd/" ++ name) ∧
        (Path.ofText ("./cmd/" ++ name)).fileName? = some (encode name) ∧
        (Path.ofText running.command.program).fileName? = some (encode name)

variable {ctx : PlanContext} (valid : ctx.config.IsValid)
include valid

/-- A name that names no directory is the name of the binary. -/
theorem namesBinary
    (file : ctx.config.layout.name ≠ "." ∧ ctx.config.layout.name ≠ "..") :
    ctx.NamesBinary ctx.config.layout.name := by
  have single := Config.components_name valid file
  have joined : ctx.project.binaryPath.components =
      (ctx.project.root.join ctx.config.layout.outputDirectory).components ++
        [.normal (encode ctx.config.layout.name)] :=
    Path.components_join_name _ single
  refine ⟨joined, Path.fileName?_of_components joined, Path.exists_parent?_join _ single,
    Config.components_entry valid file, ?_⟩
  intro usual v stamp? builds
  have last : (ctx.config.buildArguments stamp?).getLast? =
      some ctx.config.layout.entry.packageArgument :=
    List.getLast?_concat
  rw [Config.packageArgument_entry valid file usual] at last
  exact ⟨_, _, Verb.steps_planWith_of_isBuild ctx stamp? builds, rfl, last,
    Config.fileName?_packageArgument_entry valid file, Path.fileName?_shown joined⟩

/-- The accepted names that are not the name of a file in the output directory are `.` and `..`. -/
theorem namesBinary_iff (absolute : ctx.project.root.isAbsolute = true) :
    ctx.NamesBinary ctx.config.layout.name ↔
      ctx.config.layout.name ≠ "." ∧ ctx.config.layout.name ≠ ".." := by
  constructor
  · intro named
    obtain ⟨-, plain, -⟩ := (Config.isValid_iff _).mp valid
    have directory : (ctx.project.root.join ctx.config.layout.outputDirectory).bytes ≠ [] :=
      Path.ne_nil_of_isAbsolute (Path.isAbsolute_join absolute _)
    have joined : ctx.project.binaryPath.components =
        (ctx.project.root.join ctx.config.layout.outputDirectory).components ++
          Path.steps (encode ctx.config.layout.name) :=
      Path.components_join directory (Config.isAbsolute_ofText plain)
    rw [← Config.steps_name_iff valid]
    exact List.append_cancel_left (joined.symm.trans named.components)
  · exact namesBinary valid

end PlanContext

/-- Dots in a name do not matter as long as there are other characters, or more than two dots. -/
theorem PlanContext.namesBinary_iff_dots :
    ∃ c, Config.parse id "[project]\nname = '...'\noutput_dir = 'out/..'\n" = .ok c ∧ c.IsValid ∧
      (Path.ofText "/work/proxy").isAbsolute = true ∧
      NamesBinary ⟨⟨.ofText "/work/proxy", c⟩, .empty, none⟩ "..." := by
  have read : Config.parse id "[project]\nname = '...'\noutput_dir = 'out/..'\n" =
      .ok { Config.default with layout := { Config.Layout.default with
        name := "...", outputDirectory := .ofText "out/.." } } := by
    decide +kernel
  have valid := Config.isValid_of_parse read
  refine ⟨_, read, valid, rfl, ?_⟩
  refine (namesBinary_iff ?_ ?_).mpr ⟨?_, ?_⟩
  · exact valid
  · rfl
  · decide
  · decide

/-- A project can be named `.`, and then its binary is the output directory and its package is
`cmd`; named `..`, its binary is the directory above the output directory. -/
theorem Config.directory_accepted_as_name :
    (∃ c, parse id "[project]\nname = '.'\n" = .ok c ∧
      (Project.binaryPath ⟨.ofText "/work/proxy", c⟩).components =
        (Path.ofText "/work/proxy/dist").components ∧
      c.layout.entry.packageArgument = "./cmd") ∧
    ∃ c, parse id "[project]\nname = '..'\n" = .ok c ∧
      (Project.binaryPath ⟨.ofText "/work/proxy", c⟩).components =
        (Path.ofText "/work/proxy/dist").components ++ [.parent] ∧
      (Project.binaryPath ⟨.ofText "/work/proxy", c⟩).fileName? = none := by
  have read (name : String) (given : name = "." ∨ name = "..") :
      parse id ("[project]\nname = '" ++ name ++ "'\n") =
        .ok { default with layout := { Layout.default with name } } := by
    rcases given with rfl | rfl <;> decide +kernel
  constructor
  · refine ⟨_, read "." (.inl rfl), ?_, ?_⟩ <;> decide +kernel
  · refine ⟨_, read ".." (.inr rfl), ?_, ?_⟩ <;> decide +kernel

end GoTasks
