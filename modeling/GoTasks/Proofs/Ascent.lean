import GoTasks.Proofs.Components

/-!
# Directories above a path

The parent of a path has its components but the last one, so the way up from a path is as long as
the path has components, and one directory longer than that at most.

Cutting a path at its end may leave noise there, and what is written after the cut is read again.
Nothing new is read into it, because the segments that are left fit the start of the path.
-/

namespace GoTasks.Path

/-! ## The parent -/

/-- Noise at the end names nothing. -/
theorem named_dropTrailingNoise (body : List Bytes) :
    named (dropTrailingNoise body) = named body := by
  have noise : (body.reverse.takeWhile isNoise).filter (!isNoise ·) = [] := by
    rw [List.filter_eq_nil_iff]
    intro s member
    simp [List.all_eq_true.mp List.all_takeWhile s member]
  have whole : (body.reverse.dropWhile isNoise).filter (!isNoise ·) =
      body.reverse.filter (!isNoise ·) := by
    conv_rhs => rw [← List.takeWhile_append_dropWhile (p := isNoise) (l := body.reverse)]
    rw [List.filter_append, noise, List.nil_append]
  rw [named, named, dropTrailingNoise, List.filter_reverse, whole, ← List.filter_reverse,
    List.reverse_reverse]

/-- The last segment that names something stands for the last component. -/
theorem named_eq_concat {body before : List Bytes} {s : Bytes}
    (cut : body.reverse.dropWhile isNoise = s :: before) :
    named body = named before.reverse ++ [.ofSegment s] := by
  have not_noise : isNoise s = false := by
    have first := List.head?_dropWhile_not isNoise body.reverse
    rwa [cut] at first
  rw [← named_dropTrailingNoise, dropTrailingNoise, cut, List.reverse_cons, named,
    List.filter_append, List.map_append, List.filter_cons_of_pos (by simpa using not_noise)]
  rfl

theorem named_eq_nil {body : List Bytes} (cut : body.reverse.dropWhile isNoise = []) :
    named body = [] := by
  rw [← named_dropTrailingNoise, dropTrailingNoise, cut]
  rfl

theorem Anchor.Fits.of_append {anchor : Anchor} {front rest : List Bytes}
    (fits : anchor.Fits (front ++ rest)) : anchor.Fits front := by
  cases anchor with
  | implied =>
      cases front with
      | nil => trivial
      | cons s front => exact fits
  | _ => trivial

/-- The parent of a path has its components without the last. -/
theorem components_of_parent? {p q : Path} (parent : p.parent? = some q) :
    p.components ≠ [] ∧ q.components = p.components.dropLast := by
  rw [components_eq_named]
  unfold parent? at parent
  cases cut : p.layout.2.reverse.dropWhile isNoise with
  | nil =>
      rw [named_eq_nil cut]
      simp only [cut] at parent
      split at parent
      · next current =>
        cases parent
        rw [current]
        exact ⟨List.cons_ne_nil _ _, rfl⟩
      · cases parent
  | cons s before =>
      simp only [cut] at parent
      obtain rfl := Option.some.inj parent
      obtain ⟨-, noise, body⟩ := eq_append_of_dropWhile_reverse cut
      obtain ⟨tail, front⟩ := exists_append_dropTrailingNoise before.reverse
      have nonempty : p.bytes ≠ [] := by
        intro empty
        obtain rfl : p = ⟨[]⟩ := congrArg Path.mk empty
        cases cut
      have fits := fits_layout nonempty
      rw [body, front, List.append_assoc] at fits
      have solid : ∀ t ∈ dropTrailingNoise before.reverse, separator ∉ t := by
        intro t member
        refine separator_not_mem_of_mem_layout (p := p) ?_
        rw [body, front, List.append_assoc]
        exact List.mem_append_left _ member
      rw [components_ofLayout solid fits.of_append, named_dropTrailingNoise, named_eq_concat cut,
        ← List.append_assoc, List.dropLast_concat]
      exact ⟨by simp, rfl⟩

/-- Only a path without components has no parent, and the root. -/
theorem components_of_parent?_eq_none {p : Path} (top : p.parent? = none) :
    p.components = [] ∨ p.components = [.root] := by
  rw [components_eq_named]
  unfold parent? at top
  cases cut : p.layout.2.reverse.dropWhile isNoise with
  | nil =>
      rw [named_eq_nil cut, List.append_nil]
      simp only [cut] at top
      split at top
      · cases top
      · next not_current =>
        cases anchor : p.layout.1 with
        | root => exact .inr rfl
        | current => exact absurd anchor not_current
        | implied => exact .inl rfl
  | cons s before =>
      simp only [cut] at top
      cases top

/-! ## The way up -/

theorem ancestors_of_top {p : Path} (top : p.parent? = none) : p.ancestors = [p] := by
  rw [ancestors]
  split
  · rfl
  · next parent =>
    rw [top] at parent
    cases parent

theorem ancestors_of_parent? {p q : Path} (parent : p.parent? = some q) :
    p.ancestors = p :: q.ancestors := by
  rw [ancestors]
  split
  · next top =>
    rw [parent] at top
    cases top
  · next other =>
    obtain rfl := Option.some.inj (parent.symm.trans other)
    rfl

/-- Induction on the way up from a path, which ends because each parent is shorter. -/
theorem ascent {motive : Path → Prop} (top : ∀ p, p.parent? = none → motive p)
    (step : ∀ p q, p.parent? = some q → motive q → motive p) (p : Path) : motive p := by
  induction length : p.bytes.length using Nat.strongRecOn generalizing p with
  | ind n ih =>
      cases parent : p.parent? with
      | none => exact top p parent
      | some q =>
          have shorter : q.bytes.length < n := length ▸ parent?_length_lt parent
          exact step p q parent (ih _ shorter q rfl)

/-- The directory that lies a number of steps above a path, if the way up is that long. -/
def above (p : Path) : Nat → Option Path
  | 0 => some p
  | i + 1 => (p.above i).bind parent?

theorem above_succ {p : Path} (i : Nat) : p.above (i + 1) = p.parent?.bind (·.above i) := by
  induction i with
  | zero =>
      exact (Option.bind_fun_some p.parent?).symm
  | succ i ih =>
      rw [above, ih, Option.bind_assoc]
      rfl

/-- The directories above a path are reached one by one, each as the parent of the one before. -/
theorem getElem?_ancestors (p : Path) : ∀ i : Nat, p.ancestors[i]? = p.above i := by
  refine ascent (motive := fun p => ∀ i : Nat, p.ancestors[i]? = p.above i) ?_ ?_ p
  · intro p top i
    rw [ancestors_of_top top]
    cases i with
    | zero => rfl
    | succ i => rw [above_succ, top]; rfl
  · intro p q parent ih i
    rw [ancestors_of_parent? parent]
    cases i with
    | zero => rfl
    | succ i => rw [above_succ, parent]; exact ih i

/-- The way up from a path is at most one longer than the path has components. -/
theorem length_ancestors_le (p : Path) : p.ancestors.length ≤ p.components.length + 1 := by
  refine ascent (motive := fun p => p.ancestors.length ≤ p.components.length + 1) ?_ ?_ p
  · intro p top
    rw [ancestors_of_top top, List.length_singleton]
    omega
  · intro p q parent ih
    obtain ⟨nonempty, same⟩ := components_of_parent? parent
    have positive := List.length_pos_iff.mpr nonempty
    rw [same, List.length_dropLast] at ih
    rw [ancestors_of_parent? parent, List.length_cons]
    omega

/-! ## Files in a directory -/

/-- Joined to a directory, a name is one more component. -/
theorem components_join_name (directory : Path) {name : Path} {s : Bytes}
    (single : name.components = [.normal s]) :
    (directory.join name).components = directory.components ++ [.normal s] := by
  have relative : name.isAbsolute = false := by
    by_contra absolute
    rw [components_of_isAbsolute (by simpa using absolute)] at single
    cases single
  obtain ⟨bytes⟩ := directory
  cases bytes with
  | nil =>
      have same : (⟨[]⟩ : Path).join name = name := by
        rw [join, relative, if_neg Bool.false_ne_true, if_pos (.inl rfl)]
        rfl
      rw [same, single]
      rfl
  | cons b bytes =>
      have whole : steps name.bytes = [.normal s] := by
        rw [components_eq] at single
        cases start : name.anchor with
        | implied => rwa [start] at single
        | _ =>
            rw [start] at single
            cases single
      rw [components_join (List.cons_ne_nil b bytes) relative, whole]

/-- The parent of a file in a directory has the components of the directory. -/
theorem exists_parent?_join (directory : Path) {name : Path} {s : Bytes}
    (single : name.components = [.normal s]) :
    ∃ parent, (directory.join name).parent? = some parent ∧
      parent.components = directory.components := by
  have joined := components_join_name directory single
  cases above : (directory.join name).parent? with
  | none =>
      have last : Component.normal s ∈ (directory.join name).components := by simp [joined]
      rcases components_of_parent?_eq_none above with none | root
      · rw [none] at last
        cases last
      · rw [root] at last
        simp at last
  | some parent =>
      refine ⟨parent, rfl, ?_⟩
      rw [(components_of_parent? above).2, joined, List.dropLast_concat]

end GoTasks.Path
