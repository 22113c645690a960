import GoTasks.Proofs.BinaryLocation

/-!
# Package arguments of relative paths

The package argument of a relative path is the path as it is shown, written again from its
components, with a leading `./` unless it already starts as a relative package does. So it names the
same directory, and it is read as a relative package whatever the path was. Making a package
argument of it once more changes nothing, except for the empty path: its package argument is `./`,
and of that it is `./.`.
-/

namespace GoTasks

namespace Path

open Text.Utf8

/-! ## Paths written from components -/

/-- The relative path that is written from components. -/
def written (components : List Component) : Path :=
  ⟨joinSegments (components.map Component.bytes)⟩

/-- Components without the directory that a path may start at. -/
def withoutCurrent : List Component → List Component
  | .current :: rest => rest
  | components => components

theorem bytes_ofSegment (s : Bytes) : (Component.ofSegment s).bytes = s := by
  unfold Component.ofSegment
  split
  · next parent => exact parent.symm
  · rfl

theorem map_bytes_named (body : List Bytes) :
    (named body).map Component.bytes = body.filter (!isNoise ·) := by
  rw [named, List.map_map]
  refine (List.map_congr_left fun s _ => ?_).trans (List.map_id _)
  exact bytes_ofSegment s

theorem named_filter (body : List Bytes) : named (body.filter (!isNoise ·)) = named body := by
  rw [named, List.filter_filter, named]
  simp only [Bool.and_self]

theorem anchor_ne_root {p : Path} (relative : p.isAbsolute = false) : p.anchor ≠ .root := by
  intro root
  obtain ⟨first, others, cut⟩ := List.exists_cons_of_ne_nil (segments_ne_nil p.bytes)
  rw [anchor_eq cut] at root
  split at root
  · next start =>
    obtain ⟨second, others, rfl⟩ := List.exists_cons_of_ne_nil start.2
    have whole := joinSegments_segments p.bytes
    rw [cut, start.1] at whole
    rw [isAbsolute, ← whole] at relative
    cases relative
  split at root
  · cases root
  · cases root

/-- Segments of which each names something fit every start. -/
theorem fits_filter (anchor : Anchor) (body : List Bytes) :
    anchor.Fits (body.filter (!isNoise ·)) := by
  cases anchor with
  | implied =>
      cases names : body.filter (!isNoise ·) with
      | nil => trivial
      | cons s rest =>
          have member : s ∈ body.filter (!isNoise ·) := by simp [names]
          have solid := (List.mem_filter.mp member).2
          change isNoise s = false
          simpa using solid
  | root | current => trivial

section

variable {p : Path} (not_root : p.anchor ≠ .root)
include not_root

/-- What is written from the components of a relative path is the path without its noise. -/
theorem written_components :
    written p.components = ofLayout p.anchor (p.layout.2.filter (!isNoise ·)) := by
  rw [components_eq_named, written, List.map_append, map_bytes_named]
  change Path.mk (joinSegments (p.anchor.components.map Component.bytes ++ _)) = _
  cases start : p.anchor with
  | root => exact absurd start not_root
  | current => cases p.layout.2.filter (!isNoise ·) <;> rfl
  | implied => rfl

/-- A relative path has the components that it is written from. -/
theorem components_written : (written p.components).components = p.components := by
  have solid : ∀ s ∈ p.layout.2.filter (!isNoise ·), separator ∉ s := fun s member =>
    separator_not_mem_of_mem_layout (List.mem_filter.mp member).1
  rw [written_components not_root, components_ofLayout solid (fits_filter _ _), named_filter]
  rfl

end

/-! ## The start of a relative path -/

theorem parent_or_normal_of_mem_steps {bytes : Bytes} {c : Component} (member : c ∈ steps bytes) :
    c = .parent ∨ ∃ name, c = .normal name := by
  obtain ⟨s, -, rfl⟩ := List.mem_map.mp member
  unfold Component.ofSegment
  split
  · exact .inl rfl
  · exact .inr ⟨s, rfl⟩

theorem root_mem_components_iff {p : Path} : .root ∈ p.components ↔ p.anchor = .root := by
  have others : .root ∉ steps p.bytes := by
    intro member
    rcases parent_or_normal_of_mem_steps member with same | ⟨name, same⟩ <;> cases same
  rw [components_eq, List.mem_append, or_iff_left others]
  cases p.anchor <;> simp [Anchor.components]

theorem withoutCurrent_steps (bytes : Bytes) : withoutCurrent (steps bytes) = steps bytes := by
  cases named : steps bytes with
  | nil => rfl
  | cons first rest =>
      have member : first ∈ steps bytes := by simp [named]
      rcases parent_or_normal_of_mem_steps member with rfl | ⟨name, rfl⟩ <;> rfl

/-- The components of a relative path are its steps, after the directory that it may start at. -/
theorem withoutCurrent_components {p : Path} (not_root : p.anchor ≠ .root) :
    withoutCurrent p.components = steps p.bytes := by
  rw [components_eq]
  cases start : p.anchor with
  | root => exact absurd start not_root
  | current => rfl
  | implied => exact withoutCurrent_steps p.bytes

theorem withoutCurrent_map_shown (components : List Component) :
    withoutCurrent (components.map Component.shown) =
      (withoutCurrent components).map Component.shown := by
  cases components with
  | nil => rfl
  | cons first rest => cases first <;> rfl

/-- Only the empty path has no components. -/
theorem components_ne_nil {p : Path} (nonempty : p.bytes ≠ []) : p.components ≠ [] := by
  have fits := fits_layout nonempty
  have whole := ofLayout_layout p
  rw [components_eq_named]
  cases start : p.layout.1 with
  | root | current => exact List.cons_ne_nil _ _
  | implied =>
      rw [start] at fits whole
      cases body : p.layout.2 with
      | nil =>
          rw [body] at whole
          exact absurd (congrArg Path.bytes whole).symm nonempty
      | cons s rest =>
          rw [body] at fits
          have solid : isNoise s = false := fits
          rw [named, List.filter_cons_of_pos (by simp [solid])]
          exact List.cons_ne_nil _ _

/-! ## Components as they are shown -/

theorem encode_intercalate (words : List String) :
    encode ("/".intercalate words) = joinSegments (words.map encode) := by
  have slash : encode "/" = [separator] := by decide +kernel
  induction words with
  | nil => rfl
  | cons word words ih =>
      cases words with
      | nil => simp [joinSegments]
      | cons next words =>
          rw [String.intercalate_cons_cons, encode_append, encode_append, ih, slash,
            List.append_assoc]
          rfl

theorem encode_lossy_bytes (c : Component) : encode (lossy c.bytes) = c.shown.bytes := by
  cases c with
  | root => exact (encode_lossy_eq_iff "/" (by decide +kernel)).mpr (by decide +kernel)
  | current => exact shown_eq_dot_iff.mpr rfl
  | parent => exact shown_eq_dotDot_iff.mpr rfl
  | normal name => rfl

theorem lossy_bytes_shown (c : Component) : lossy c.shown.bytes = lossy c.bytes := by
  rw [← encode_lossy_bytes, lossy_encode]

/-- The components of a path as they are shown, with a slash between each two. -/
def shownComponents (p : Path) : String :=
  "/".intercalate (p.components.map fun c => lossy c.bytes)

theorem map_lossy_shown (components : List Component) :
    (components.map Component.shown).map (fun c => lossy c.bytes) =
      components.map fun c => lossy c.bytes := by
  rw [List.map_map]
  exact List.map_congr_left fun c _ => lossy_bytes_shown c

theorem shownComponents_congr {p q : Path}
    (same : q.components = p.components.map Component.shown) :
    q.shownComponents = p.shownComponents := by
  rw [shownComponents, same, map_lossy_shown, shownComponents]

/-- A leading dot is shown with a slash after it, if a component follows. -/
theorem shownComponents_below {p q : Path} (named : p.components ≠ [])
    (below : q.components = .current :: p.components.map Component.shown) :
    q.shownComponents = "./" ++ p.shownComponents := by
  obtain ⟨first, rest, taken⟩ := List.exists_cons_of_ne_nil named
  have current : lossy Component.current.bytes = "." := by decide +kernel
  rw [shownComponents, below, List.map_cons, map_lossy_shown, shownComponents, current, taken,
    List.map_cons, String.intercalate_cons_cons]
  rfl

theorem ofText_shownComponents (p : Path) :
    ofText p.shownComponents = written p.shown.components := by
  rw [components_shown, written, List.map_map, ofText, shownComponents, encode_intercalate,
    List.map_map]
  refine congrArg (Path.mk <| joinSegments ·) (List.map_congr_left fun c _ => ?_)
  exact encode_lossy_bytes c

/-! ## Package arguments -/

theorem packageArgument_eq (p : Path) :
    p.packageArgument =
      if isRelativePackage p.shownComponents then p.shownComponents
      else "./" ++ p.shownComponents :=
  rfl

theorem isRelativePackage_iff {s : String} :
    isRelativePackage s = true ↔ ['.', '/'] <+: s.toList ∨ ['.', '.', '/'] <+: s.toList := by
  rw [isRelativePackage, Bool.or_eq_true, List.isPrefixOf_iff_prefix, List.isPrefixOf_iff_prefix]

theorem isRelativePackage_dot_slash (s : String) : isRelativePackage ("./" ++ s) = true := by
  rw [isRelativePackage_iff, String.toList_append]
  exact .inl (List.prefix_append _ _)

/-- A package argument reads as a relative package. -/
theorem isRelativePackage_packageArgument (p : Path) :
    isRelativePackage p.packageArgument = true := by
  rw [packageArgument_eq]
  split
  · assumption
  · exact isRelativePackage_dot_slash _

theorem components_below_dot (s : String) :
    (ofText ("./" ++ s)).components = .current :: steps (encode s) := by
  have start : encode "./" = dot ++ [separator] := by decide +kernel
  rw [ofText, encode_append, start, List.append_assoc, List.singleton_append, components_eq,
    anchor_append_separator (by decide), steps_append_separator]
  rfl

/-- The package argument of a relative path has its components as they are shown, or else starts
at the directory that it is used from. -/
theorem components_packageArgument {p : Path} (not_root : p.anchor ≠ .root) :
    (ofText p.packageArgument).components =
      if isRelativePackage p.shownComponents then p.components.map Component.shown
      else .current :: (steps p.bytes).map Component.shown := by
  have shown_not_root : p.shown.anchor ≠ .root := by rwa [anchor_shown]
  have shown : (ofText p.shownComponents).components = p.components.map Component.shown := by
    rw [ofText_shownComponents, components_written shown_not_root, components_shown]
  rw [packageArgument_eq]
  split
  · exact shown
  · have relative : (ofText p.shownComponents).anchor ≠ .root := by
      rw [ne_eq, ← root_mem_components_iff, shown, List.mem_map]
      rintro ⟨c, member, same⟩
      cases c with
      | root => exact not_root (root_mem_components_iff.mp member)
      | current | parent | normal => cases same
    rw [components_below_dot]
    refine congrArg (Component.current :: ·) ?_
    calc steps (encode p.shownComponents)
        = withoutCurrent (ofText p.shownComponents).components :=
          (withoutCurrent_components relative).symm
      _ = (withoutCurrent p.components).map Component.shown := by
          rw [shown, withoutCurrent_map_shown]
      _ = (steps p.bytes).map Component.shown := by rw [withoutCurrent_components not_root]

/-- A text that names the directory at a path as a relative package. It is already written as a
package argument is, unless the path is empty. -/
structure NamedBy (p : Path) (argument : String) : Prop where
  starts : ['.', '/'] <+: argument.toList ∨ ['.', '.', '/'] <+: argument.toList
  components : withoutCurrent (ofText argument).components =
    (withoutCurrent p.components).map Component.shown
  fixed_iff : (ofText argument).packageArgument = argument ↔ p.bytes ≠ []

theorem packageArgument_congr {p q : Path}
    (same : q.components = p.components.map Component.shown) :
    q.packageArgument = p.packageArgument := by
  rw [packageArgument_eq, shownComponents_congr same, ← packageArgument_eq]

/-- Making a package argument once more changes nothing, unless it was made of the empty path. -/
theorem packageArgument_packageArgument {p : Path} (not_root : p.anchor ≠ .root)
    (nonempty : p.bytes ≠ []) :
    (ofText p.packageArgument).packageArgument = p.packageArgument := by
  have again := components_packageArgument not_root
  have split_start := components_eq p
  split at again
  · exact packageArgument_congr again
  next other =>
  cases start : p.anchor with
  | root => exact absurd start not_root
  | current =>
      rw [start] at split_start
      refine packageArgument_congr (again.trans ?_)
      rw [split_start]
      rfl
  | implied =>
      -- The `./` that was put in front is now a component, and the argument starts with it.
      rw [start] at split_start
      have named := components_ne_nil nonempty
      have below : (ofText p.packageArgument).shownComponents = "./" ++ p.shownComponents := by
        refine shownComponents_below named (again.trans ?_)
        rw [split_start]
        rfl
      rw [packageArgument_eq (ofText _), below, if_pos (isRelativePackage_dot_slash _),
        packageArgument_eq, if_neg other]

theorem packageArgument_packageArgument_empty :
    (ofText (packageArgument ⟨[]⟩)).packageArgument ≠ packageArgument ⟨[]⟩ := by
  decide +kernel

theorem namedBy_packageArgument {p : Path} (relative : p.isAbsolute = false) :
    p.NamedBy p.packageArgument where
  starts := isRelativePackage_iff.mp (isRelativePackage_packageArgument p)
  components := by
    have not_root := anchor_ne_root relative
    rw [components_packageArgument not_root]
    split
    · exact withoutCurrent_map_shown p.components
    · rw [withoutCurrent_components not_root]
      rfl
  fixed_iff := by
    refine ⟨fun fixed empty => ?_, packageArgument_packageArgument (anchor_ne_root relative)⟩
    obtain rfl : p = ⟨[]⟩ := congrArg Path.mk empty
    exact packageArgument_packageArgument_empty fixed

theorem NamedBy.components_of_isText {p : Path} {argument : String} (named : p.NamedBy argument)
    (isText : p.IsText) :
    withoutCurrent (ofText argument).components = withoutCurrent p.components := by
  have same := (components_shown_eq_iff p).mpr isText
  rw [components_shown] at same
  rw [named.components, ← withoutCurrent_map_shown, same]

end Path

namespace Config

/-- The entry of a valid configuration is read from the root of the project. -/
theorem isAbsolute_entry {c : Config} (valid : c.IsValid) : c.layout.entry.isAbsolute = false := by
  obtain ⟨-, plain, relative, -⟩ := (isValid_iff c).mp valid
  cases given : c.layout.entry? with
  | some entry =>
      rw [given] at relative
      rw [Layout.entry, given]
      exact relative
  | none =>
      rw [Layout.entry, given, Option.getD_none, Path.join, isAbsolute_ofText plain]
      rfl

/-- The entry of a project that configures none lies in `cmd` and has the name of the project. -/
theorem entry_of_none {c : Config} (valid : c.IsValid) (usual : c.layout.entry? = none) :
    c.layout.entry = .ofText ("cmd/" ++ c.layout.name) := by
  obtain ⟨-, plain, -⟩ := (isValid_iff c).mp valid
  have directory : Text.Utf8.encode "cmd/" = Text.Utf8.encode "cmd" ++ [Path.separator] := by
    decide +kernel
  have open_end : ¬ ((Path.ofText "cmd").bytes = [] ∨
      (Path.ofText "cmd").bytes.getLast? = some Path.separator) := by
    decide +kernel
  rw [Layout.entry, usual, Option.getD_none, Path.join, isAbsolute_ofText plain,
    if_neg Bool.false_ne_true, if_neg open_end, Path.ofText, Path.ofText, Path.ofText,
    Text.Utf8.encode_append, directory, List.append_assoc]
  rfl

/-- Nothing of that entry is a directory that a path starts at. -/
theorem withoutCurrent_entry_of_none {c : Config} (valid : c.IsValid)
    (usual : c.layout.entry? = none) :
    Path.withoutCurrent c.layout.entry.components =
      .normal (Text.Utf8.encode "cmd") :: Path.steps (Text.Utf8.encode c.layout.name) := by
  obtain ⟨-, plain, -⟩ := (isValid_iff c).mp valid
  have directory : (Path.ofText "cmd").components = [.normal (Text.Utf8.encode "cmd")] := by
    decide +kernel
  rw [Layout.entry, usual, Option.getD_none,
    Path.components_join (by decide +kernel) (isAbsolute_ofText plain), directory]
  rfl

end Config

namespace Verb

open GoTasks.Path

/-- The last argument of a build names the entry of the project. -/
theorem exists_build_package (ctx : PlanContext) (valid : ctx.config.IsValid)
    (stamp? : Option Stamp) {v : Verb} (builds : v.isBuild = true) :
    ∃ step argument, (v.planWith ctx stamp?).steps = [step] ∧
      step.command.arguments.getLast? = some argument ∧
      ctx.config.layout.entry.NamedBy argument := by
  have last : (ctx.config.buildArguments stamp?).getLast? =
      some ctx.config.layout.entry.packageArgument :=
    List.getLast?_concat
  exact ⟨_, _, steps_planWith_of_isBuild ctx stamp? builds, last,
    namedBy_packageArgument (Config.isAbsolute_entry valid)⟩

/-- The package argument of a relative path names the directory at that path, and the last argument
of a build names the entry of the project: the path that is configured, or else the one that has the
name of the project and lies in `cmd`. It has the very components of an entry that is a text. -/
theorem package_names_directory :
    (∀ p : Path, p.isAbsolute = false → p.NamedBy p.packageArgument) ∧
      ∀ ctx : PlanContext, ctx.config.IsValid → ∀ (stamp? : Option Stamp) (v : Verb),
        v.isBuild = true →
          ∃ step argument, (v.planWith ctx stamp?).steps = [step] ∧
            step.command.arguments.getLast? = some argument ∧
            ctx.config.layout.entry.NamedBy argument ∧
            (ctx.config.layout.entry.IsText →
              withoutCurrent (ofText argument).components =
                withoutCurrent ctx.config.layout.entry.components) ∧
            (∀ p, ctx.config.layout.entry? = some p → p.NamedBy argument) ∧
            (ctx.config.layout.entry? = none →
              (ofText ("cmd/" ++ ctx.config.layout.name)).NamedBy argument ∧
                withoutCurrent (ofText argument).components =
                  .normal (Text.Utf8.encode "cmd") ::
                    steps (Text.Utf8.encode ctx.config.layout.name)) := by
  refine ⟨fun p relative => namedBy_packageArgument relative, ?_⟩
  intro ctx valid stamp? v builds
  obtain ⟨step, argument, planned, last, named⟩ := exists_build_package ctx valid stamp? builds
  refine ⟨step, argument, planned, last, named, ?_, ?_, ?_⟩
  · intro isText
    exact named.components_of_isText isText
  · intro p given
    rwa [Config.Layout.entry, given] at named
  · intro usual
    have components := named.components_of_isText ⟨_, Config.entry_of_none valid usual⟩
    rw [Config.withoutCurrent_entry_of_none valid usual] at components
    rw [Config.entry_of_none valid usual] at named
    exact ⟨named, components⟩

/-- A path with noise and a byte that is not text, a configured entry with noise, and the entry of
the default configuration. -/
theorem package_names_directory_noisy :
    let configured : Config := { Config.default with
      layout := { Config.Layout.default with entry? := some (.ofText "services//./edge/") } }
    let planned (c : Config) :=
      (build.planWith ⟨⟨.ofText "/work/proxy", c⟩, .empty, none⟩ none).steps
    (Path.mk (Text.Utf8.encode "..//a/./b" ++ [0xFF, 0x2F])).NamedBy "../a/b\uFFFD" ∧
      (∃ step, planned configured = [step] ∧
        step.command.arguments.getLast? = some "./services/edge" ∧
        (Path.ofText "services//./edge/").NamedBy "./services/edge") ∧
      ∃ step, planned .default = [step] ∧
        step.command.arguments.getLast? = some "./cmd/go-proxy" ∧
        (Path.ofText "cmd/go-proxy").NamedBy "./cmd/go-proxy" := by
  intro configured planned
  obtain ⟨paths, builds⟩ := package_names_directory
  refine ⟨?_, ?_, ?_⟩
  · have written : (Path.mk (Text.Utf8.encode "..//a/./b" ++ [0xFF, 0x2F])).packageArgument =
        "../a/b\uFFFD" := by
      decide +kernel
    rw [← written]
    exact paths _ (by decide +kernel)
  · have valid : configured.IsValid := (Config.fault?_eq_none_iff _).mp (by decide +kernel)
    obtain ⟨step, argument, one, last, -, -, named, -⟩ :=
      builds ⟨⟨.ofText "/work/proxy", configured⟩, .empty, none⟩ valid none build rfl
    have given : step.command.arguments.getLast? = some "./services/edge" := by
      obtain rfl := List.singleton_inj.mp one
      decide +kernel
    obtain rfl : argument = "./services/edge" := Option.some.inj (last.symm.trans given)
    exact ⟨step, one, given, named _ rfl⟩
  · obtain ⟨step, argument, one, last, -, -, -, named⟩ :=
      builds ⟨⟨.ofText "/work/proxy", .default⟩, .empty, none⟩ Config.isValid_default none build rfl
    have given : step.command.arguments.getLast? = some "./cmd/go-proxy" := by
      obtain rfl := List.singleton_inj.mp one
      decide +kernel
    obtain rfl : argument = "./cmd/go-proxy" := Option.some.inj (last.symm.trans given)
    exact ⟨step, one, given, (named rfl).1⟩

end Verb
end GoTasks
