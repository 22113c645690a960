import GoTasks.Host.Shell.Token

/-!
# Patterns

A pattern is a text in which some characters stand for others: a star for any characters, a
question mark for one, and a pair of brackets for one out of several. A character that was
quoted stands for itself, so a text that may be a pattern is a list of *glyphs*, each of which
knows whether it was.
-/

namespace GoTasks.Shell

/-- A character, and whether it can stand for nothing but itself. -/
structure Glyph where
  char : Char
  literal : Bool
  deriving DecidableEq, Repr

/-- A part of a pattern. -/
inductive PatternItem where
  | exactly (c : Char)
  | anyOne
  | anything
  /-- One character out of some ranges, or outside of all of them. -/
  | oneOf (negated : Bool) (ranges : List (Char × Char))
  deriving DecidableEq, Repr

namespace PatternItem

def classRanges? (name : String) : Option (List (Char × Char)) :=
  [("alpha", [('a', 'z'), ('A', 'Z')]), ("digit", [('0', '9')]),
    ("alnum", [('a', 'z'), ('A', 'Z'), ('0', '9')]), ("upper", [('A', 'Z')]),
    ("lower", [('a', 'z')]), ("space", [('\t', '\x0d'), (' ', ' ')]),
    ("blank", [('\t', '\t'), (' ', ' ')]), ("print", [(' ', '~')]),
    ("punct", [('!', '/'), (':', '@'), ('[', backquote), ('{', '~')]),
    ("graph", [('!', '~')]), ("cntrl", [('\x00', '\x1f'), ('\x7f', '\x7f')]),
    ("xdigit", [('0', '9'), ('a', 'f'), ('A', 'F')])].lookup name

def isActive (c : Char) (g : Glyph) : Bool :=
  g.char = c && !g.literal

/-- The class that is named at the start of glyphs, and the glyphs after it. -/
def namedClass? (gs : List Glyph) : Option (List (Char × Char) × List Glyph) :=
  match gs with
  | opening :: colon :: rest =>
    if isActive '[' opening && colon.char = ':' then
      let name := rest.takeWhile (·.char ≠ ':')
      match rest.drop name.length with
      | _ :: closing :: left =>
        if closing.char = ']' then
          (classRanges? (String.ofList (name.map (·.char)))).map fun ranges => (ranges, left)
        else none
      | _ => none
    else none
  | _ => none

/-- The first member between brackets, and the glyphs after it. -/
def member? : List Glyph → Option (List (Char × Char) × List Glyph)
  | [] => none
  | g :: rest =>
    match namedClass? (g :: rest) with
    | some found => some found
    | none =>
      match rest with
      | hyphen :: last :: left =>
        if isActive '-' hyphen && !isActive ']' last then some ([(g.char, last.char)], left)
        else some ([(g.char, g.char)], rest)
      | _ => some ([(g.char, g.char)], rest)

/-- The members between brackets, at most so many, and the glyphs after the closing bracket. The
first member can be a closing bracket itself. -/
def members? : Nat → List Glyph → Option (List (Char × Char) × List Glyph)
  | 0, _ => none
  | limit + 1, gs => do
    let (ranges, rest) ← member? gs
    match rest with
    | [] => none
    | g :: left =>
      if isActive ']' g then some (ranges, left)
      else
        let (others, left) ← members? limit (g :: left)
        some (ranges ++ others, left)

/-- The part between brackets that follows an opening one, and the glyphs after it. -/
def brackets? (gs : List Glyph) : Option (PatternItem × List Glyph) :=
  let negated := gs.head?.any (isActive '!')
  (members? gs.length (if negated then gs.tail else gs)).map fun (ranges, left) =>
    (.oneOf negated ranges, left)

/-- The pattern that glyphs are, at most so many. A bracket that is not closed stands for
itself. -/
def ofGlyphsWithin : Nat → List Glyph → List PatternItem
  | 0, _ => []
  | _ + 1, [] => []
  | limit + 1, g :: rest =>
    if isActive '*' g then .anything :: ofGlyphsWithin limit rest
    else if isActive '?' g then .anyOne :: ofGlyphsWithin limit rest
    else
      match if isActive '[' g then brackets? rest else none with
      | some (item, left) => item :: ofGlyphsWithin limit left
      | none => .exactly g.char :: ofGlyphsWithin limit rest

def ofGlyphs (gs : List Glyph) : List PatternItem :=
  ofGlyphsWithin gs.length gs

/-- Whether a part stands for one character. -/
def admits (item : PatternItem) (c : Char) : Bool :=
  match item with
  | exactly d => c = d
  | anyOne | anything => true
  | oneOf negated ranges => ranges.any (fun (low, high) => low ≤ c && c ≤ high) != negated

end PatternItem

/-- Whether a text has the form of a pattern. -/
def fits : List PatternItem → Raw → Bool
  | [], cs => cs.isEmpty
  | .anything :: items, cs =>
    fits items cs ||
      match cs with
      | [] => false
      | _ :: rest => fits (.anything :: items) rest
  | item :: items, cs =>
    match cs with
    | [] => false
    | c :: rest => item.admits c && fits items rest
termination_by items cs => items.length + cs.length

/-- Whether a pattern stands for more than one text. -/
def isOpenPattern (items : List PatternItem) : Bool :=
  items.any fun
    | .exactly _ => false
    | _ => true

/-- The lengths that a part of a text can have, from the one that is looked for first. -/
def partLengths (longest : Bool) (cs : Raw) : List Nat :=
  let all := List.range (cs.length + 1)
  if longest then all.reverse else all

/-- A text without the start that fits a pattern: the shortest one, or the longest. -/
def withoutStart (items : List PatternItem) (longest : Bool) (cs : Raw) : Raw :=
  match (partLengths longest cs).find? fun n => fits items (cs.take n) with
  | some n => cs.drop n
  | none => cs

/-- A text without the end that fits a pattern: the shortest one, or the longest. -/
def withoutEnd (items : List PatternItem) (longest : Bool) (cs : Raw) : Raw :=
  match (partLengths longest cs).find? fun n => fits items (cs.drop (cs.length - n)) with
  | some n => cs.take (cs.length - n)
  | none => cs

end GoTasks.Shell
