import GoTasks.Text.Utf8

/-!
# Paths

A path is a byte string, kept exactly as it was written. Its meaning is its *layout*: where
it starts, and the segments between its separators. Empty segments and `.` segments name
nothing, so they are noise, with one exception: a leading `.` of a relative path is kept as
where the path starts.

`components` is the view that all other operations are stated against. Joining puts bytes
together, taking the parent cuts them, and neither normalizes anything else.
-/

namespace GoTasks

/-- A path of the host, as the bytes it was written with. -/
structure Path where
  bytes : Bytes
  deriving DecidableEq, Repr, Inhabited

namespace Path

def separator : UInt8 := 0x2F

/-- The segment that names the directory it stands in. -/
def dot : Bytes := [0x2E]

def dotDot : Bytes := [0x2E, 0x2E]

def ofText (s : String) : Path :=
  ⟨Text.Utf8.encode s⟩

def display (p : Path) : String :=
  Text.Utf8.lossy p.bytes

/-- The pieces of a byte string between its separators; there is always at least one. -/
def segments : Bytes → List Bytes
  | [] => [[]]
  | b :: rest =>
    if b = separator then [] :: segments rest
    else
      match segments rest with
      | [] => [[b]]
      | s :: ss => (b :: s) :: ss

def joinSegments : List Bytes → Bytes
  | [] => []
  | [s] => s
  | s :: t :: ss => s ++ separator :: joinSegments (t :: ss)

/-- Where a path starts: at the root, at a written `.`, or at whatever directory it is used
from. -/
inductive Anchor where
  | root
  | current
  | implied
  deriving DecidableEq, Repr

/-- One step of a path. -/
inductive Component where
  | root
  | current
  | parent
  | normal (name : Bytes)
  deriving DecidableEq, Repr

/-- Whether a segment names nothing. -/
def isNoise (s : Bytes) : Bool :=
  s = [] || s = dot

/-- The start of a path and the segments after it. -/
def layout (p : Path) : Anchor × List Bytes :=
  match segments p.bytes with
  | [] => (.implied, [])
  | s :: ss =>
    if s = [] ∧ ss ≠ [] then (.root, ss)
    else if s = dot then (.current, ss)
    else (.implied, s :: ss)

def ofLayout : Anchor → List Bytes → Path
  | .root, body => ⟨separator :: joinSegments body⟩
  | .current, [] => ⟨dot⟩
  | .current, s :: ss => ⟨dot ++ separator :: joinSegments (s :: ss)⟩
  | .implied, body => ⟨joinSegments body⟩

/-- The step that the start of a path stands for. -/
def Anchor.components : Anchor → List Component
  | .root => [.root]
  | .current => [.current]
  | .implied => []

def Component.ofSegment (s : Bytes) : Component :=
  if s = dotDot then .parent else .normal s

/-- The steps of a path. -/
def components (p : Path) : List Component :=
  p.layout.1.components ++ (p.layout.2.filter (!isNoise ·)).map .ofSegment

def Component.bytes : Component → Bytes
  | .root => [separator]
  | .current => dot
  | .parent => dotDot
  | .normal name => name

def isAbsolute (p : Path) : Bool :=
  p.bytes.head? = some separator

/-- `other`, read from the directory `base`. An absolute path needs no base. -/
def join (base other : Path) : Path :=
  if other.isAbsolute then other
  else if base.bytes = [] ∨ base.bytes.getLast? = some separator then
    ⟨base.bytes ++ other.bytes⟩
  else ⟨base.bytes ++ separator :: other.bytes⟩

/-- Segments without the noise at their end. -/
def dropTrailingNoise (body : List Bytes) : List Bytes :=
  (body.reverse.dropWhile isNoise).reverse

/-- The path without its last step; `none` if it has no step but its root. -/
def parent? (p : Path) : Option Path :=
  match p.layout with
  | (anchor, body) =>
    match body.reverse.dropWhile isNoise with
    | _ :: before => some (ofLayout anchor (dropTrailingNoise before.reverse))
    | [] => if anchor = .current then some ⟨[]⟩ else none

/-! ## Length

The parent of a path is shorter than the path, which is why looking upwards ends. -/

theorem length_joinSegments_append (xs ys : List Bytes) :
    (joinSegments xs).length ≤ (joinSegments (xs ++ ys)).length := by
  induction xs with
  | nil => simp [joinSegments]
  | cons s ss ih =>
    cases ss with
    | nil => cases ys <;> simp [joinSegments]
    | cons t ts => simpa [joinSegments] using ih

theorem length_joinSegments_insert {s : Bytes} (hs : s ≠ []) (xs ys : List Bytes) :
    (joinSegments xs).length < (joinSegments (xs ++ s :: ys)).length := by
  have hpos : 0 < s.length := List.length_pos_iff.2 hs
  induction xs with
  | nil =>
    cases ys with
    | nil => exact hpos
    | cons y ys =>
      simp only [List.nil_append, joinSegments, List.length_append, List.length_nil]
      omega
  | cons t ts ih =>
    cases ts with
    | nil => simp [joinSegments]
    | cons u us => simpa [joinSegments] using ih

theorem segments_ne_nil (bytes : Bytes) : segments bytes ≠ [] := by
  cases bytes with
  | nil => simp [segments]
  | cons b rest =>
    simp only [segments]
    split
    · simp
    · split <;> simp

/-- Cutting a byte string at its separators and writing them again changes nothing. -/
theorem joinSegments_segments (bytes : Bytes) : joinSegments (segments bytes) = bytes := by
  induction bytes with
  | nil => rfl
  | cons b rest ih =>
    cases hs : segments rest with
    | nil => exact absurd hs (segments_ne_nil rest)
    | cons s ss =>
      rw [hs] at ih
      simp only [segments, hs]
      split
      · next h => simp [joinSegments, ih, h]
      · cases ss with
        | nil => simpa [joinSegments] using ih
        | cons t ts => simpa [joinSegments] using ih

/-- A path is written from its layout. -/
@[simp] theorem ofLayout_layout (p : Path) : ofLayout p.layout.1 p.layout.2 = p := by
  obtain ⟨bytes⟩ := p
  have hj := joinSegments_segments bytes
  simp only [layout]
  cases hs : segments bytes with
  | nil => exact absurd hs (segments_ne_nil _)
  | cons s ss =>
    rw [hs] at hj
    subst hj
    dsimp only
    split
    · next h =>
      obtain ⟨rfl, hne⟩ := h
      cases ss with
      | nil => exact absurd rfl hne
      | cons t ts => rfl
    · split
      · next h =>
        subst h
        cases ss <;> rfl
      · rfl

/-- The last segment that names something, and what stands before and after it. -/
theorem eq_append_of_dropWhile_reverse {body before : List Bytes} {s : Bytes}
    (h : body.reverse.dropWhile isNoise = s :: before) :
    s ≠ [] ∧ ∃ noise, body = before.reverse ++ s :: noise := by
  constructor
  · have hs := List.head?_dropWhile_not isNoise body.reverse
    rw [h] at hs
    simp only [List.head?_cons, isNoise, Bool.or_eq_false_iff, decide_eq_false_iff_not] at hs
    exact hs.1
  · refine ⟨(body.reverse.takeWhile isNoise).reverse, ?_⟩
    have ht : body.reverse.takeWhile isNoise ++ body.reverse.dropWhile isNoise = body.reverse :=
      List.takeWhile_append_dropWhile
    rw [h] at ht
    simpa using (congrArg List.reverse ht).symm

/-- Dropping noise leaves a front of the segments. -/
theorem exists_append_dropTrailingNoise (body : List Bytes) :
    ∃ noise, body = dropTrailingNoise body ++ noise := by
  refine ⟨(body.reverse.takeWhile isNoise).reverse, ?_⟩
  rw [dropTrailingNoise, ← List.reverse_append, List.takeWhile_append_dropWhile,
    List.reverse_reverse]

/-- Leaving out a segment with a name, and all after it, makes a path shorter. -/
theorem length_ofLayout_lt {s : Bytes} (hs : s ≠ []) (anchor : Anchor)
    (front tail noise : List Bytes) :
    (ofLayout anchor front).bytes.length <
      (ofLayout anchor (front ++ tail ++ s :: noise)).bytes.length := by
  have hlt := length_joinSegments_insert hs (front ++ tail) noise
  have hle := length_joinSegments_append front tail
  cases anchor with
  | root => simp only [ofLayout, List.length_cons]; omega
  | implied => simp only [ofLayout]; omega
  | current =>
    cases front with
    | nil =>
      cases tail <;> simp [ofLayout, dot]
    | cons f fs =>
      simp only [ofLayout, List.cons_append, List.length_append, List.length_cons] at *
      omega

theorem parent?_length_lt {p q : Path} (h : p.parent? = some q) :
    q.bytes.length < p.bytes.length := by
  have hp : (ofLayout p.layout.1 p.layout.2).bytes.length = p.bytes.length := by simp
  rw [← hp]
  simp only [parent?] at h
  split at h
  · next s before hb =>
    obtain ⟨hs, noise, hbody⟩ := eq_append_of_dropWhile_reverse hb
    obtain ⟨tail, hfront⟩ := exists_append_dropTrailingNoise before.reverse
    rw [hfront] at hbody
    rw [← Option.some.inj h, hbody]
    exact length_ofLayout_lt hs ..
  · split at h
    · next hc =>
      rw [← Option.some.inj h, hc]
      cases p.layout.2 <;> simp [ofLayout, dot]
    · cases h

/-- A path and the directories above it, nearest first. -/
def ancestors (p : Path) : List Path :=
  p :: match h : p.parent? with
    | none => []
    | some q =>
      have := parent?_length_lt h
      ancestors q
termination_by p.bytes.length

end Path
end GoTasks
