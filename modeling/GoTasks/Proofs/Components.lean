import GoTasks.Path.Basic
import GoTasks.Proofs.Pieces

/-!
# Components of paths

The components of a path are read off its segments, and the segments of bytes with a separator
in between are those before it and those after it. So joining paths joins their components, and
writing one more separator at the end of a path changes none of them. What is written from
components has them again, because a segment holds no separator.

A path is often known only as it is shown. The components of what is shown are those of the path,
each as it is shown; they are the same exactly if the path is a text.
-/

namespace GoTasks.Path

/-- The components that bytes name after the start of a path. -/
def steps (bytes : Bytes) : List Component :=
  ((segments bytes).filter (!isNoise ·)).map .ofSegment

/-- Where a path starts. -/
def anchor (p : Path) : Anchor :=
  p.layout.1

/-! ## Segments -/

theorem segments_append_separator (before after : Bytes) :
    segments (before ++ separator :: after) = segments before ++ segments after := by
  induction before with
  | nil => simp [segments]
  | cons b before ih =>
      obtain ⟨first, others, cut⟩ := List.exists_cons_of_ne_nil (segments_ne_nil before)
      rw [List.cons_append, segments, segments, ih, cut]
      split <;> rfl

theorem segments_of_not_mem {bytes : Bytes} (solid : separator ∉ bytes) :
    segments bytes = [bytes] := by
  induction bytes with
  | nil => rfl
  | cons b bytes ih =>
      rw [List.mem_cons, not_or] at solid
      rw [segments, if_neg (Ne.symm solid.1), ih solid.2]

/-- A path that is not empty does not start with an empty segment, unless more follow. -/
theorem head_segments {bytes first : Bytes} {others : List Bytes} (nonempty : bytes ≠ [])
    (cut : segments bytes = first :: others) (empty : first = []) : others ≠ [] := by
  rintro rfl
  have written := joinSegments_segments bytes
  rw [cut, empty] at written
  exact nonempty written.symm

/-! ## Where a path starts -/

theorem anchor_eq {p : Path} {first : Bytes} {others : List Bytes}
    (cut : segments p.bytes = first :: others) :
    p.anchor = if first = [] ∧ others ≠ [] then .root else if first = dot then .current
      else .implied := by
  unfold anchor layout
  rw [cut]
  dsimp only
  split
  · rfl
  split <;> rfl

/-- What follows a separator does not change where a path starts. -/
theorem anchor_append_separator {before after : Bytes} (nonempty : before ≠ []) :
    anchor ⟨before ++ separator :: after⟩ = anchor ⟨before⟩ := by
  obtain ⟨first, others, cut⟩ := List.exists_cons_of_ne_nil (segments_ne_nil before)
  have longer : segments (before ++ separator :: after) = first :: (others ++ segments after) := by
    rw [segments_append_separator, cut, List.cons_append]
  rw [anchor_eq longer, anchor_eq cut]
  refine if_congr (and_congr_right fun empty => ?_) rfl rfl
  exact iff_of_true (List.append_ne_nil_of_right_ne_nil _ (segments_ne_nil after))
    (head_segments nonempty cut empty)

theorem anchor_of_isAbsolute {p : Path} (absolute : p.isAbsolute = true) :
    p.anchor = .root := by
  obtain ⟨_ | ⟨b, rest⟩⟩ := p
  · cases absolute
  · obtain rfl : b = separator := by simpa [isAbsolute] using absolute
    have cut : segments (separator :: rest) = [] :: segments rest :=
      segments_append_separator [] rest
    rw [anchor_eq cut, if_pos ⟨rfl, segments_ne_nil rest⟩]

/-! ## Components -/

/-- The first segment of a path is its start, or else a component like any other. -/
theorem components_eq (p : Path) : p.components = p.anchor.components ++ steps p.bytes := by
  unfold components anchor steps layout
  obtain ⟨first, others, cut⟩ := List.exists_cons_of_ne_nil (segments_ne_nil p.bytes)
  rw [cut]
  dsimp only
  split
  · next start => simp [start.1, isNoise]
  split
  · next start => simp [start, isNoise]
  · rfl

theorem components_of_isAbsolute {p : Path} (absolute : p.isAbsolute = true) :
    p.components = .root :: steps p.bytes := by
  rw [components_eq, anchor_of_isAbsolute absolute]
  rfl

@[simp] theorem steps_nil : steps [] = [] := rfl

theorem steps_append_separator (before after : Bytes) :
    steps (before ++ separator :: after) = steps before ++ steps after := by
  rw [steps, segments_append_separator, List.filter_append, List.map_append]
  rfl

/-- A separator at the end names nothing. -/
theorem steps_concat_separator (bytes : Bytes) : steps (bytes ++ [separator]) = steps bytes := by
  rw [steps_append_separator, steps_nil, List.append_nil]

theorem isAbsolute_join {base : Path} (absolute : base.isAbsolute = true) (other : Path) :
    (base.join other).isAbsolute = true := by
  unfold join
  split
  · assumption
  · obtain ⟨_ | ⟨b, rest⟩⟩ := base
    · cases absolute
    · split <;> exact absolute

/-- Joining a path to a base adds its components to those of the base. -/
theorem components_join {base other : Path} (nonempty : base.bytes ≠ [])
    (relative : other.isAbsolute = false) :
    (base.join other).components = base.components ++ steps other.bytes := by
  unfold join
  rw [relative, if_neg Bool.false_ne_true]
  split
  · next ends =>
    obtain ⟨bytes⟩ := base
    obtain ⟨before, rfl⟩ := List.getLast?_eq_some_iff.mp (ends.resolve_left nonempty)
    have anchors : anchor ⟨before ++ separator :: other.bytes⟩ =
        anchor ⟨before ++ separator :: []⟩ := by
      by_cases top : before = []
      · subst top
        rw [anchor_of_isAbsolute rfl, anchor_of_isAbsolute rfl]
      · rw [anchor_append_separator top, anchor_append_separator top]
    rw [components_eq, components_eq, List.append_assoc, List.singleton_append, anchors,
      steps_append_separator, steps_concat_separator, List.append_assoc]
  · rw [components_eq, components_eq, anchor_append_separator nonempty, steps_append_separator,
      List.append_assoc]

/-! ## Segments written again -/

theorem separator_not_mem_of_mem_segments {bytes s : Bytes} (member : s ∈ segments bytes) :
    separator ∉ s := by
  induction bytes generalizing s with
  | nil =>
      rw [segments, List.mem_singleton] at member
      rw [member]
      exact List.not_mem_nil
  | cons b bytes ih =>
      obtain ⟨first, others, cut⟩ := List.exists_cons_of_ne_nil (segments_ne_nil bytes)
      rw [cut] at ih
      rw [segments, cut] at member
      split at member
      · rcases List.mem_cons.mp member with rfl | member
        · exact List.not_mem_nil
        · exact ih member
      · next other =>
        rcases List.mem_cons.mp member with rfl | member
        · have rest := ih List.mem_cons_self
          exact fun there => (List.mem_cons.mp there).elim (fun same => other same.symm) rest
        · exact ih (List.mem_cons_of_mem _ member)

/-- Segments without separators are read as they were written. -/
theorem segments_joinSegments {body : List Bytes} (nonempty : body ≠ [])
    (solid : ∀ s ∈ body, separator ∉ s) : segments (joinSegments body) = body := by
  induction body with
  | nil => exact absurd rfl nonempty
  | cons s body ih =>
      obtain ⟨first, others⟩ := List.forall_mem_cons.mp solid
      cases body with
      | nil => exact segments_of_not_mem first
      | cons t body =>
          rw [joinSegments, segments_append_separator, segments_of_not_mem first,
            ih (List.cons_ne_nil t body) others]
          rfl

/-- The components that segments stand for after the start of a path. -/
def named (body : List Bytes) : List Component :=
  (body.filter (!isNoise ·)).map .ofSegment

theorem steps_joinSegments {body : List Bytes} (solid : ∀ s ∈ body, separator ∉ s) :
    steps (joinSegments body) = named body := by
  cases body with
  | nil => rfl
  | cons s body =>
      rw [steps, segments_joinSegments (List.cons_ne_nil s body) solid]
      rfl

/-- Whether segments can follow a start without being taken for a part of it: without a start, the
first of them has to name something. -/
def Anchor.Fits : Anchor → List Bytes → Prop
  | .implied, s :: _ => isNoise s = false
  | _, _ => True

/-- A path that is written from a start and segments has the components of both. -/
theorem components_ofLayout {anchor : Anchor} {body : List Bytes}
    (solid : ∀ s ∈ body, separator ∉ s) (fits : anchor.Fits body) :
    (ofLayout anchor body).components = anchor.components ++ named body := by
  cases anchor with
  | root =>
      rw [ofLayout, components_of_isAbsolute rfl, ← steps_joinSegments solid]
      exact congrArg (Component.root :: ·) (steps_append_separator [] (joinSegments body))
  | current =>
      cases body with
      | nil => rfl
      | cons s body =>
          rw [ofLayout, components_eq, anchor_append_separator (by decide),
            steps_append_separator, steps_joinSegments solid]
          rfl
  | implied =>
      rw [ofLayout, components_eq, steps_joinSegments solid]
      congr 1
      cases body with
      | nil => rfl
      | cons s body =>
          have named_first : isNoise s = false := fits
          simp only [isNoise, Bool.or_eq_false_iff, decide_eq_false_iff_not] at named_first
          rw [anchor_eq (segments_joinSegments (List.cons_ne_nil s body) solid),
            if_neg fun start => named_first.1 start.1, if_neg named_first.2]

theorem components_eq_named (p : Path) : p.components = p.layout.1.components ++ named p.layout.2 :=
  rfl

theorem separator_not_mem_of_mem_layout {p : Path} {s : Bytes} (member : s ∈ p.layout.2) :
    separator ∉ s := by
  have there : s ∈ segments p.bytes := by
    obtain ⟨first, others, cut⟩ := List.exists_cons_of_ne_nil (segments_ne_nil p.bytes)
    unfold layout at member
    rw [cut] at member ⊢
    dsimp only at member
    split at member
    · exact List.mem_cons_of_mem first member
    split at member
    · exact List.mem_cons_of_mem first member
    · exact member
  exact separator_not_mem_of_mem_segments there

/-- The segments of a path fit its start. -/
theorem fits_layout {p : Path} (nonempty : p.bytes ≠ []) : p.layout.1.Fits p.layout.2 := by
  obtain ⟨first, others, cut⟩ := List.exists_cons_of_ne_nil (segments_ne_nil p.bytes)
  unfold layout
  rw [cut]
  dsimp only
  split
  · trivial
  · next not_root =>
    split
    · trivial
    · next not_dot =>
      have named_first : first ≠ [] := fun empty =>
        not_root ⟨empty, head_segments nonempty cut empty⟩
      change isNoise first = false
      simp [isNoise, named_first, not_dot]

/-! ## Paths as they are shown -/

/-- The path that a path is taken for where only its display is known. -/
def shown (p : Path) : Path :=
  .ofText p.display

/-- A component as it is shown. -/
def Component.shown : Component → Component
  | normal name => .normal (Text.Utf8.encode (Text.Utf8.lossy name))
  | c => c

/-- Whether a path is written as a text. -/
def IsText (p : Path) : Prop :=
  ∃ s, p = .ofText s

open Text.Utf8

theorem bytes_shown (p : Path) : p.shown.bytes = encode (lossy p.bytes) := rfl

/-- Separators are shown, and nothing else is shown as one. -/
theorem segments_shown (bytes : Bytes) :
    segments (encode (lossy bytes)) = (segments bytes).map fun s => encode (lossy s) := by
  induction length : bytes.length using Nat.strongRecOn generalizing bytes with
  | ind n ih =>
      by_cases solid : separator ∈ bytes
      · obtain ⟨before, after, rfl, first⟩ := List.eq_append_cons_of_mem solid
        have shorter : after.length < n := by
          rw [← length, List.length_append, List.length_cons]
          omega
        have hidden : separator ∉ encode (lossy before) := by
          rwa [mem_encode_lossy_iff (by decide)]
        rw [encode_lossy_append_cons (by decide), segments_append_separator,
          segments_append_separator, segments_of_not_mem first, segments_of_not_mem hidden,
          ih _ shorter after rfl]
        rfl
      · have hidden : separator ∉ encode (lossy bytes) := by
          rwa [mem_encode_lossy_iff (by decide)]
        rw [segments_of_not_mem solid, segments_of_not_mem hidden]
        rfl

/-- A text below U+0080 is shown for nothing but itself. -/
theorem encode_lossy_eq_iff (word : String) (ascii : ∀ b ∈ encode word, b.toNat < 0x80)
    {bytes : Bytes} : encode (lossy bytes) = encode word ↔ bytes = encode word := by
  constructor
  · intro same
    have exact : encode (lossy bytes) = bytes := encode_lossy_eq_self (by rwa [same])
    rw [← exact, same]
  · rintro rfl
    rw [lossy_encode]

theorem shown_eq_nil_iff {s : Bytes} : encode (lossy s) = [] ↔ s = [] :=
  encode_lossy_eq_iff "" (by decide +kernel)

theorem shown_eq_dot_iff {s : Bytes} : encode (lossy s) = dot ↔ s = dot :=
  encode_lossy_eq_iff "." (by decide +kernel)

theorem shown_eq_dotDot_iff {s : Bytes} : encode (lossy s) = dotDot ↔ s = dotDot :=
  encode_lossy_eq_iff ".." (by decide +kernel)

theorem isNoise_shown (s : Bytes) : isNoise (encode (lossy s)) = isNoise s := by
  simp only [isNoise, shown_eq_nil_iff, shown_eq_dot_iff]

theorem ofSegment_shown (s : Bytes) :
    Component.ofSegment (encode (lossy s)) = (Component.ofSegment s).shown := by
  simp only [Component.ofSegment, shown_eq_dotDot_iff]
  split <;> rfl

theorem steps_shown (bytes : Bytes) :
    steps (encode (lossy bytes)) = (steps bytes).map Component.shown := by
  simp only [steps, segments_shown, List.filter_map, List.map_map, Function.comp_def,
    isNoise_shown, ofSegment_shown]

theorem anchor_shown (p : Path) : p.shown.anchor = p.anchor := by
  obtain ⟨first, others, cut⟩ := List.exists_cons_of_ne_nil (segments_ne_nil p.bytes)
  have shownCut : segments p.shown.bytes = _ := segments_shown p.bytes
  rw [cut, List.map_cons] at shownCut
  rw [anchor_eq cut, anchor_eq shownCut]
  simp only [shown_eq_nil_iff, shown_eq_dot_iff, ne_eq, List.map_eq_nil_iff]

/-- What is shown of a path has its components, each as it is shown. -/
theorem components_shown (p : Path) : p.shown.components = p.components.map Component.shown := by
  rw [components_eq, components_eq, anchor_shown, bytes_shown, steps_shown, List.map_append]
  congr 1
  cases p.anchor <;> rfl

/-- A segment that is shown as the same component is shown as it is. -/
theorem shown_segment_eq {bytes s : Bytes} (same : (steps bytes).map Component.shown = steps bytes)
    (member : s ∈ segments bytes) : encode (lossy s) = s := by
  by_cases noise : isNoise s = true
  · rcases (by simpa [isNoise] using noise : s = [] ∨ s = dot) with rfl | rfl
    · exact shown_eq_nil_iff.mpr rfl
    · exact shown_eq_dot_iff.mpr rfl
  · have named : Component.ofSegment s ∈ steps bytes :=
      List.mem_map_of_mem (List.mem_filter.mpr ⟨member, by simpa using noise⟩)
    have fixed := List.map_inj_left.mp (same.trans (List.map_id _).symm) _ named
    by_cases parent : s = dotDot
    · rw [parent]
      exact shown_eq_dotDot_iff.mpr rfl
    · rw [Component.ofSegment, if_neg parent] at fixed
      exact Component.normal.inj fixed

/-- What is shown of a path has its very components exactly if the path is a text. -/
theorem components_shown_eq_iff (p : Path) : p.shown.components = p.components ↔ p.IsText := by
  constructor
  · intro same
    rw [components_eq, components_eq, anchor_shown, List.append_cancel_left_eq, bytes_shown,
      steps_shown] at same
    have whole : (segments p.bytes).map (fun s => encode (lossy s)) = segments p.bytes :=
      (List.map_congr_left fun s member => shown_segment_eq same member).trans (List.map_id _)
    refine ⟨p.display, congrArg Path.mk ?_⟩
    calc
      p.bytes = joinSegments (segments p.bytes) := (joinSegments_segments p.bytes).symm
      _ = joinSegments (segments (encode (lossy p.bytes))) := by rw [segments_shown, whole]
      _ = encode (lossy p.bytes) := joinSegments_segments _
  · rintro ⟨s, rfl⟩
    have fixed : (ofText s).shown = ofText s := congrArg ofText (lossy_encode s)
    rw [fixed]

end GoTasks.Path
