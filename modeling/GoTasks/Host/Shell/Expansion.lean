import GoTasks.Host.Shell.Pattern

/-!
# Expanding words

A word becomes fields: what stands for a value is replaced by it, and values that stand without
quotes are split where separators are. All positional parameters together are special, since
between quotes they become one field each. Where a single value is wanted, nothing is split.

Finding a value can take a script, so it is done first. What is left is a list of *pieces*, and
everything here about them is pure.
-/

namespace GoTasks.Shell

/-- A variable of the shell: its value, if it has one, whether the commands it starts are given
it, and whether it can be changed. -/
structure Variable where
  name : Raw
  value? : Option Raw
  exported : Bool
  constant : Bool
  deriving DecidableEq, Repr

/-- The parameters that words are expanded with. -/
structure Parameters where
  /-- The name the script was called by. -/
  scriptName : Raw
  positional : List Raw
  named : List Variable
  /-- The exit code of the last command. -/
  status : Nat
  /-- The number of the shell's own process. -/
  process : Nat
  /-- The number of the last process that was not waited for. -/
  lastJob? : Option Nat
  /-- The letters of the options that are set, the last one first. -/
  options : List Char
  deriving DecidableEq, Repr

namespace Parameters

def find? (p : Parameters) (name : Raw) : Option Variable :=
  p.named.find? (·.name = name)

def lookUp (p : Parameters) (name : Raw) : Option Raw :=
  (p.find? name).bind (·.value?)

def isConstant (p : Parameters) (name : Raw) : Bool :=
  (p.find? name).any (·.constant)

/-- Variables with one changed, which is put last if it is new. -/
def changeAmong (name : Raw) (change : Variable → Variable) : List Variable → List Variable
  | [] => [change ⟨name, none, false, false⟩]
  | v :: rest =>
    if v.name = name then change v :: rest else v :: changeAmong name change rest

def change (p : Parameters) (name : Raw) (change : Variable → Variable) : Parameters :=
  { p with named := changeAmong name change p.named }

/-- The parameters with a variable set. One that is exported stays so. -/
def setVariable (p : Parameters) (name value : Raw) (exported : Bool) : Parameters :=
  p.change name fun v => { v with value? := some value, exported := exported || v.exported }

def groupCount : Nat := 39

/-- The group that a variable is kept in, which depends on its name. -/
def groupOf (name : Raw) : Nat :=
  match name with
  | [] => 0
  | c :: _ => (c.toNat * 16 + name.foldr (fun c total => c.toNat + total) 0) % groupCount

/-- The exported variables with their values, group by group, and in each in the order they were
first set. -/
def exports (p : Parameters) : List (Raw × Raw) :=
  ((p.named.filter (·.exported)).mergeSort fun a b => groupOf a.name ≤ groupOf b.name).filterMap
    fun v => v.value?.map (v.name, ·)

def separators (p : Parameters) : Raw :=
  (p.lookUp "IFS".toList).getD [' ', '\t', '\n']

/-- Fields in one text, with a separator between each two. -/
def joinedBy (separator : Raw) (fields : List Raw) : Raw :=
  List.intercalate separator fields

def joined (p : Parameters) : Raw :=
  joinedBy (p.separators.take 1) p.positional

/-- The value of a parameter, if it is set. -/
def value? (p : Parameters) (name : Raw) : Option Raw :=
  match name with
  | ['?'] => some (toString p.status).toList
  | ['#'] => some (toString p.positional.length).toList
  | ['$'] => some (toString p.process).toList
  | ['!'] => p.lastJob?.map fun n => (toString n).toList
  | ['-'] => some p.options
  | ['0'] => some p.scriptName
  | ['*'] | ['@'] => some p.joined
  | _ =>
    if name.all (·.isDigit) then p.positional[numberOf name - 1]? else p.lookUp name

def lengthOf (p : Parameters) (name : Raw) : Nat :=
  ((p.value? name).getD []).length

def isAll (name : Raw) : Bool :=
  name = ['*'] || name = ['@']

end Parameters

/-- A part of a word, with its value in place. -/
inductive Piece where
  | text (cs : Raw) (quoted : Bool)
  | value (cs : Raw) (quoted : Bool)
  /-- Values that are fields of their own, or else have a separator between each two. -/
  | each (values : List Raw) (separator : Raw) (quoted : Bool)
  deriving DecidableEq, Repr

namespace Piece

/-- The piece that the value of a parameter becomes. -/
def ofParameter (p : Parameters) (name : Raw) (quoted : Bool) : Piece :=
  if name = ['@'] || (name = ['*'] && !quoted) then
    .each p.positional (p.separators.take 1) quoted
  else .value ((p.value? name).getD []) quoted

/-- The pieces of a text that stands in place of a value: its text can be split, too. -/
def asValue : Piece → Piece
  | text cs false => .value cs false
  | piece => piece

/-- The text of a piece. -/
def content : Piece → Raw
  | text cs _ | value cs _ => cs
  | each values separator _ => Parameters.joinedBy separator values

def isQuoted : Piece → Bool
  | text _ quoted | value _ quoted | each _ _ quoted => quoted

def single (pieces : List Piece) : Raw :=
  pieces.flatMap content

def glyphsOf (literal : Bool) (cs : Raw) : List Glyph :=
  cs.map (⟨·, literal⟩)

/-- Pieces as one text that may be a pattern. -/
def glyphs (pieces : List Piece) : List Glyph :=
  pieces.flatMap fun piece => glyphsOf piece.isQuoted piece.content

end Piece

/-- Fields under construction: those complete, last first, and the one begun, if any. -/
structure FieldBuilder where
  complete : List (List Glyph)
  begun? : Option (List Glyph)
  /-- Whether blanks have just ended a field, which a separator after them belongs to. -/
  settled : Bool
  deriving DecidableEq, Repr

namespace FieldBuilder

def empty : FieldBuilder := ⟨[], none, false⟩

/-- Add text to the field begun, or begin one with it. -/
def add (literal : Bool) (b : FieldBuilder) (cs : Raw) : FieldBuilder :=
  { b with begun? := some (b.begun?.getD [] ++ Piece.glyphsOf literal cs), settled := false }

/-- End the field begun, if there is one. -/
def endField (b : FieldBuilder) : FieldBuilder :=
  match b.begun? with
  | none => b
  | some f => ⟨f :: b.complete, none, true⟩

/-- Whether a separator is a blank, of which several separate no more than one does. -/
def isBlank (c : Char) : Bool :=
  c = ' ' || c = '\t' || c = '\n'

/-- Add a character of a value, which may separate fields. -/
def addCharacter (separators : Raw) (b : FieldBuilder) (c : Char) : FieldBuilder :=
  if !separators.contains c then b.add false [c]
  else if isBlank c then b.endField
  else if b.begun?.isSome then { b.endField with settled := false }
  else if b.settled then { b with settled := false }
  else { b with complete := [] :: b.complete }

/-- Add a value, which is split where a character separates fields. -/
def addSplit (separators : Raw) (b : FieldBuilder) (cs : Raw) : FieldBuilder :=
  cs.foldl (addCharacter separators) b

/-- Add several values, each of which ends the field before it. -/
def addEach (addOne : FieldBuilder → Raw → FieldBuilder) (b : FieldBuilder) :
    List Raw → FieldBuilder
  | [] => b
  | [v] => addOne b v
  | v :: other :: rest =>
    addEach addOne { (addOne b v).endField with settled := false } (other :: rest)

def addPiece (separators : Raw) (b : FieldBuilder) : Piece → FieldBuilder
  | .text cs quoted => b.add quoted cs
  | .value cs true => b.add true cs
  | .value cs false => b.addSplit separators cs
  | .each values _ true => addEach (add true) b values
  | .each values _ false => addEach (addSplit separators) b values

/-- The fields, all complete. -/
def fields (b : FieldBuilder) : List (List Glyph) :=
  b.endField.complete.reverse

end FieldBuilder

def Piece.fields (separators : Raw) (pieces : List Piece) : List (List Glyph) :=
  (pieces.foldl (FieldBuilder.addPiece separators) .empty).fields

/-- The directory of the user in place of a tilde at the start of a text, and what follows it. The
tilde can be followed by a name up to one of some characters. -/
def replaceTilde? (home? : Option Raw) (ends : List Char) (cs : Raw) : Option (Raw × Raw) :=
  match cs with
  | '~' :: rest =>
    let name := rest.takeWhile (!ends.contains ·)
    if name.isEmpty then home?.map (·, rest)
    else if name = "root".toList then some ("/root".toList, rest.drop name.length)
    else none
  | _ => none

/-- A part of a word with the directory of the user in place of a tilde that starts it. If the
tilde ends it, nothing may follow the part. -/
def expandTildePart (home? : Option Raw) (ends : List Char) (last : Bool) (cs : Raw) : Word :=
  match replaceTilde? home? ends cs with
  | some (directory, left) =>
    if left.isEmpty && !last then [.text cs false]
    else if left.isEmpty then [.text directory true]
    else [.text directory true, .text left false]
  | none => [.text cs false]

/-- A word with the directory of the user in place of a tilde that starts it. -/
def expandTilde (home? : Option Raw) (w : Word) : Word :=
  match w with
  | .text cs false :: rest => expandTildePart home? ['/'] rest.isEmpty cs ++ rest
  | _ => w

def colonPieces : Raw → List Raw
  | [] => [[]]
  | ':' :: rest => [] :: colonPieces rest
  | c :: rest =>
    match colonPieces rest with
    | [] => [[c]]
    | p :: ps => (c :: p) :: ps

/-- The value of an assignment with the directory of the user in place of tildes that start it or
follow a colon. -/
def expandTildes (home? : Option Raw) : Bool → Word → Word
  | _, [] => []
  | atStart, .text cs false :: rest =>
    expandPieces atStart rest.isEmpty (colonPieces cs) ++
      expandTildes home? (cs.getLast? = some ':') rest
  | _, part :: rest => part :: expandTildes home? false rest
where
  /-- Expand the pieces between colons. -/
  expandPieces (atStart last : Bool) : List Raw → Word
    | [] => []
    | piece :: rest =>
      let expanded := if atStart then expandTildePart home? ['/'] (last || !rest.isEmpty) piece
        else [.text piece false]
      expanded ++ (if rest.isEmpty then [] else .text [':'] false :: expandPieces true last rest)

end GoTasks.Shell
