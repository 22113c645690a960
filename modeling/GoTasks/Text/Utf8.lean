import GoTasks.Text.Blank

/-!
# UTF-8

Paths, environment variables, file contents and what a program prints are byte strings.
Text is read from them in two ways: strictly, where one bad byte makes the whole unreadable,
and lossily, where every ill-formed piece becomes one replacement character.

Both readings come from one scanner. It cuts a byte string into pieces, each either a
character or a *maximal ill-formed piece*: the longest start of a well-formed sequence that
is not continued, or else a single byte. The strict reading wants every piece to be a
character; the lossy one puts U+FFFD for the others.
-/

namespace GoTasks

/-- A byte string. -/
abbrev Bytes := List UInt8

namespace Text.Utf8

def encodeChars (cs : List Char) : Bytes :=
  cs.flatMap String.utf8EncodeChar

/-- The bytes of a text. -/
def encode (s : String) : Bytes :=
  encodeChars s.toList

/-- Where the scanner stands: between characters, or inside one. Inside, `value` holds the
bits read so far, `more` the number of bytes that follow the next one, and the next byte has
to lie between `low` and `high`. -/
inductive Position where
  | between
  | inside (value low high more : Nat)
  deriving DecidableEq, Repr

/-- Start a character at a byte. The bounds on the second byte exclude overlong forms,
surrogates and values above U+10FFFF. -/
def start (b : UInt8) : List (Option Char) × Position :=
  let n := b.toNat
  if n < 0x80 then ([some (Char.ofNat n)], .between)
  else if n < 0xC2 then ([none], .between)
  else if n < 0xE0 then ([], .inside (n - 0xC0) 0x80 0xBF 0)
  else if n = 0xE0 then ([], .inside 0 0xA0 0xBF 1)
  else if n = 0xED then ([], .inside 0xD 0x80 0x9F 1)
  else if n < 0xF0 then ([], .inside (n - 0xE0) 0x80 0xBF 1)
  else if n = 0xF0 then ([], .inside 0 0x90 0xBF 2)
  else if n < 0xF4 then ([], .inside (n - 0xF0) 0x80 0xBF 2)
  else if n = 0xF4 then ([], .inside 4 0x80 0x8F 2)
  else ([none], .between)

/-- Read one byte: the pieces it completes, and the position after it. A byte that does not
continue a character ends it as ill-formed and is read afresh. -/
def step : Position → UInt8 → List (Option Char) × Position
  | .between, b => start b
  | .inside value low high more, b =>
    if low ≤ b.toNat ∧ b.toNat ≤ high then
      let next := value * 64 + (b.toNat - 0x80)
      match more with
      | 0 => ([some (Char.ofNat next)], .between)
      | more + 1 => ([], .inside next 0x80 0xBF more)
    else
      (none :: (start b).1, (start b).2)

/-- The pieces of a byte string, read from a given position. -/
def piecesFrom : Position → Bytes → List (Option Char)
  | .between, [] => []
  | .inside .., [] => [none]
  | p, b :: rest => (step p b).1 ++ piecesFrom (step p b).2 rest

/-- The pieces of a byte string: its characters, with `none` for each ill-formed piece. -/
def pieces (bytes : Bytes) : List (Option Char) :=
  piecesFrom .between bytes

/-- The text of a byte string, if all of it is well-formed. -/
def decode? (bytes : Bytes) : Option String :=
  ((pieces bytes).mapM id).map String.ofList

/-- The character that stands for an ill-formed piece. -/
def replacement : Char := '\uFFFD'

/-- The characters of a byte string, with each ill-formed piece replaced. -/
def lossyChars (bytes : Bytes) : List Char :=
  (pieces bytes).map (·.getD replacement)

/-- The text of a byte string, with each ill-formed piece replaced. -/
def lossy (bytes : Bytes) : String :=
  String.ofList (lossyChars bytes)

@[simp] theorem piecesFrom_cons (p : Position) (b : UInt8) (rest : Bytes) :
    piecesFrom p (b :: rest) = (step p b).1 ++ piecesFrom (step p b).2 rest := by
  cases p <;> rfl

/-- A byte below 0x80 between characters is a character of its own. -/
theorem pieces_cons_ascii {b : UInt8} (h : b.toNat < 0x80) (rest : Bytes) :
    pieces (b :: rest) = some (Char.ofNat b.toNat) :: pieces rest := by
  simp [pieces, piecesFrom, step, start, h]

/-- A byte below 0x80 never continues a character, so the text before it and the text after
it are read on their own. -/
theorem piecesFrom_append_ascii {b : UInt8} (h : b.toNat < 0x80) (xs rest : Bytes)
    (p : Position) (hp : ∀ v lo hi m, p = .inside v lo hi m → 0x80 ≤ lo) :
    piecesFrom p (xs ++ b :: rest) =
      piecesFrom p xs ++ some (Char.ofNat b.toNat) :: pieces rest := by
  have hstart : ∀ c v lo hi m, (start c).2 = .inside v lo hi m → 0x80 ≤ lo := by
    intro c v lo hi m
    simp only [start]
    repeat' split
    all_goals simp
    all_goals omega
  induction xs generalizing p with
  | nil =>
    cases p with
    | between => simp [pieces, piecesFrom, step, start, h]
    | inside v lo hi m =>
      have hlo := hp v lo hi m rfl
      have : ¬ (lo ≤ b.toNat ∧ b.toNat ≤ hi) := by omega
      simp [pieces, piecesFrom, step, start, h, this]
  | cons x xs ih =>
    have hstep : ∀ v lo hi m, (step p x).2 = .inside v lo hi m → 0x80 ≤ lo := by
      intro v lo hi m
      cases p with
      | between => exact hstart x v lo hi m
      | inside v' lo' hi' m' =>
        simp only [step]
        split
        · split
          · simp
          · intro e
            simp only [Position.inside.injEq] at e
            omega
        · exact hstart x v lo hi m
    rw [List.cons_append, piecesFrom_cons, piecesFrom_cons, ih _ hstep, List.append_assoc]

end Text.Utf8
end GoTasks
