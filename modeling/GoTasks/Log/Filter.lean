import GoTasks.Environment
import GoTasks.Log.Event
import GoTasks.Log.Pattern

/-!
# Log filters

A log filter is a list of directives, separated by commas. A directive is a level, which
counts for every topic, or a topic with a level, which counts for the topics that start with
it; a topic alone wants everything. Between brackets a directive can ask for more: that an event
has a field, that a field has a value, or that an event is part of an activity of some name.

No event is part of a named activity, and values are looked at only there, so a directive that
asks for one of these counts for nothing. Of those that count for an event, the one with the
longest topic decides, then one that asks for a field, and of two alike the later.

A filter that cannot be read is as good as none: then only errors are logged.
-/

namespace GoTasks

/-- What is wanted of the topics that start with a text, or of all topics, as far as events have
a field, or of all events. -/
structure LogDirective where
  topic? : Option String
  field? : Option String
  level : LogLevel
  deriving DecidableEq, Repr

namespace LogDirective

/-- Whether a directive counts for an event. -/
def covers (d : LogDirective) (e : LogEvent) : Bool :=
  d.topic?.all (·.toList.isPrefixOf e.topic.toList) && d.field?.all e.fieldNames.contains

/-- How closely a directive describes the topics it counts for. -/
def specificity (d : LogDirective) : Nat :=
  match d.topic? with
  | none => 0
  | some t => t.utf8ByteSize + 1

/-- Whether a directive is at least as close to the events it counts for as another. Of two with
one topic each that ask for fields, the one whose field is later in the alphabet is closer. -/
def isAsCloseAs (d other : LogDirective) : Bool :=
  other.specificity < d.specificity ||
    (other.specificity = d.specificity && !decide (d.field?.getD "" < other.field?.getD ""))

/-- Whether a directive can start with a character, except for brackets: a letter, a digit or one
of `-`, `:` and `_`. -/
def isOpening (c : Char) : Bool :=
  c.isAlphanum || c = '-' || c = ':' || c = '_' || Text.inRanges Text.alphanumericRanges c.toNat

/-- Whether characters are a decimal number, perhaps with a point and an exponent. -/
def isDecimal (cs : List Char) : Bool :=
  let whole := cs.takeWhile (·.isDigit)
  let rest := cs.drop whole.length
  let fraction := if rest.head? = some '.' then rest.tail.takeWhile (·.isDigit) else []
  let rest := if rest.head? = some '.' then rest.tail.drop fraction.length else rest
  !(whole ++ fraction).isEmpty &&
    match rest with
    | [] => true
    | c :: exponent =>
      let digits := if exponent.head? = some '+' || exponent.head? = some '-' then exponent.tail
        else exponent
      (c = 'e' || c = 'E') && !digits.isEmpty && digits.all (·.isDigit)

/-- Whether characters are a number, with or without a sign. -/
def isNumber (cs : List Char) : Bool :=
  let unsigned := if cs.head? = some '+' || cs.head? = some '-' then cs.tail else cs
  isDecimal unsigned ||
    ["inf", "infinity", "nan"].contains (String.ofList (unsigned.map (·.toLower)))

/-- Whether characters can be the value of a field. -/
def isValue (cs : List Char) : Bool :=
  isNumber cs || LogPattern.isWellFormed cs

/-- What is asked of a field: that there is one of a name, or that it has a value. -/
structure FieldCondition where
  name : String
  valued : Bool
  deriving DecidableEq, Repr

def FieldCondition.ofChars? (cs : List Char) : Option FieldCondition :=
  let name := String.ofList (cs.takeWhile (· ≠ '='))
  match cs.dropWhile (· ≠ '=') with
  | [] => if cs.isEmpty then none else some ⟨name, false⟩
  | _ :: value => if isValue (value.takeWhile (· ≠ '=')) then some ⟨name, true⟩ else none

/-- What the reader of a directive is in the middle of, with the place where it started. -/
inductive Place where
  | opening
  | topic
  | activity (start : Nat)
  | field (start : Nat)
  | afterField
  | afterBracket
  | level (start : Nat)
  deriving DecidableEq, Repr

/-- All that a directive can say. -/
structure Reading where
  topic? : Option String
  activity? : Option String
  field? : Option FieldCondition
  deriving DecidableEq, Repr

/-- The characters of a text between two places, which are counted in bytes. -/
def cut : Nat → Nat → List Char → List Char
  | _, _, [] => []
  | start, stop, c :: rest =>
    if stop = 0 then []
    else if start = 0 then c :: cut 0 (stop - c.utf8Size) rest
    else cut (start - c.utf8Size) (stop - c.utf8Size) rest

/-- Read one character at a place of a text. -/
def step (text : List Char) (r : Reading) (i : Nat) (c : Char) : Place → Option (Place × Reading)
  | .opening =>
    if c = '[' then some (.activity (i + 1), r)
    else if isOpening c then some (.topic, r)
    else none
  | .topic =>
    let named := { r with topic? := some (String.ofList (cut 0 i text)) }
    if c = '=' then some (.level (i + 1), named)
    else if c = '[' then some (.activity (i + 1), named)
    else some (.topic, r)
  | .activity start =>
    let name := cut start i text
    if c = ']' then some (.afterBracket, { r with activity? := some (String.ofList name) })
    else if c = '{' then
      some (.field (i + 1),
        { r with activity? := if name.isEmpty then none else some (String.ofList name) })
    else some (.activity start, r)
  | .field start =>
    if c = '}' then
      (FieldCondition.ofChars? (cut start i text)).map fun f =>
        (.afterField, { r with field? := some f })
    else some (.field start, r)
  | .afterField => if c = ']' then some (.afterBracket, r) else none
  | .afterBracket => if c = '=' then some (.level (i + 1), r) else none
  | .level start => some (.level start, r)

/-- Read characters from a place of a text on. -/
def scan (text : List Char) (i : Nat) (place : Place) (r : Reading) :
    List Char → Option (Place × Reading)
  | [] => some (place, r)
  | c :: rest => do
    let (place, r) ← step text r i c place
    scan text (i + c.utf8Size) place r rest

/-- The level that is written at the end. Where nothing is written, everything is wanted. -/
def levelOf? (cs : List Char) : Option LogLevel :=
  if cs.isEmpty then some .trace else LogLevel.ofText? (String.ofList cs)

/-- What a directive says that has been read to its end, and the level it wants. A text alone is
a level, or else a topic. -/
def finish (text : List Char) (r : Reading) : Place → Option (Reading × LogLevel)
  | .topic =>
    match LogLevel.ofText? (String.ofList text) with
    | some level => some (r, level)
    | none => some ({ r with topic? := some (String.ofList text) }, .trace)
  | .level start => (levelOf? (cut start (String.ofList text).utf8ByteSize text)).map (r, ·)
  | .afterBracket => some (r, .trace)
  | _ => none

/-- Read all that a directive says. Blanks at its ends are skipped by the reader, but the places
that it counts are places of the whole text. -/
def read? (text : List Char) : Option (Reading × LogLevel) := do
  let (place, r) ← scan text 0 .opening ⟨none, none, none⟩ (Text.trimChars text)
  finish text r place

/-- The directive that something read amounts to, if it can count for events. -/
def ofReading? (r : Reading) (level : LogLevel) : Option LogDirective :=
  if r.activity?.isSome || r.field?.any (·.valued) then none
  else some ⟨r.topic?, r.field?.map (·.name), level⟩

end LogDirective

/-- What is wanted of each event. -/
structure LogFilter where
  directives : List LogDirective
  deriving DecidableEq, Repr

namespace LogFilter

def variableName : String := "GOMK_LOG"

def errorsOnly : LogFilter := ⟨[⟨none, none, .error⟩]⟩

def pieces : List Char → List (List Char)
  | [] => [[]]
  | c :: rest =>
    if c = ',' then [] :: pieces rest
    else
      match pieces rest with
      | [] => [[c]]
      | p :: ps => (c :: p) :: ps

/-- Read a filter. One without directives lets only errors pass. -/
def ofText? (text : String) : Option LogFilter :=
  match ((pieces text.toList).filter (· ≠ [])).mapM LogDirective.read? with
  | none => none
  | some [] => some errorsOnly
  | some readings => some ⟨readings.filterMap fun (r, level) => LogDirective.ofReading? r level⟩

def ofEnvironment (env : Environment) : LogFilter :=
  (((env.getText? variableName).bind Text.Utf8.decode?).bind ofText?).getD errorsOnly

/-- The closer of two directives; the later, if neither is. -/
def closer (best? : Option LogDirective) (d : LogDirective) : Option LogDirective :=
  match best? with
  | none => some d
  | some best => if d.isAsCloseAs best then some d else some best

/-- The level wanted of an event; nothing, if no directive counts for it. -/
def levelFor (filter : LogFilter) (e : LogEvent) : LogLevel :=
  match (filter.directives.filter (·.covers e)).foldl closer none with
  | none => .off
  | some d => d.level

def admits (filter : LogFilter) (e : LogEvent) : Bool :=
  e.level.rank ≤ (filter.levelFor e).rank

@[simp] theorem levelFor_errorsOnly (e : LogEvent) : errorsOnly.levelFor e = .error := by
  simp [errorsOnly, levelFor, LogDirective.covers, closer]

end LogFilter
end GoTasks
