import GoTasks.Host.Shell.Builtin.Basic

/-!
# Variables and positional parameters

The commands that set variables, show them, or give them to the programs that the shell starts.
A variable that is constant cannot be changed any more.
-/

namespace GoTasks.Shell.Builtin

/-- Set a variable for a command, unless that is not possible. -/
def assign (s : State) (line : Nat) (command : String) (name value : Raw) (exported : Bool) :
    Outcome :=
  if !isName name then giveUp s line command (name ++ rawText ": bad variable name")
  else if s.parameters.isConstant name then giveUp s line command (name ++ rawText ": is read only")
  else
    let s := if name = "OPTIND".toList then { s with optionOffset? := none } else s
    .ok (s.setVariable name value exported)

/-- A text between single quotes, as it can be read again. -/
def requoted (cs : Raw) : Raw :=
  let inside := cs.flatMap fun c => if c = '\'' then "'\"'\"'".toList else [c]
  ['\''] ++ inside ++ ['\'']

/-- Some variables as they are shown, in the order of their names, each after some text. -/
def shownVariables (s : State) (before : String) (chosen : Variable → Bool) : Raw :=
  let listed := (s.parameters.named.filter chosen).mergeSort fun a b => a.name.precedes b.name
  listed.flatMap fun v =>
    let value := match v.value? with
      | some value => '=' :: requoted value
      | none => []
    rawText before ++ v.name ++ value ++ ['\n']

/-- The name and the value in an argument, if it has one. -/
def splitArgument (argument : Raw) : Raw × Option Raw :=
  match argument.dropWhile (· ≠ '=') with
  | [] => (argument, none)
  | _ :: value => (argument.takeWhile (· ≠ '='), some value)

/-- Mark variables in some way, each of which may be given a value. Without arguments, show those
that are marked. -/
def mark (command : String) (isMarked : Variable → Bool) (change : Variable → Variable) : Action :=
  fun s line arguments =>
    withOptions s line command "p" arguments fun options rest =>
      if rest.isEmpty || options.contains 'p' then
        .ok ((s.write (shownVariables s (command ++ " ") isMarked)).done 0)
      else do
        let marked ← rest.foldlM (fun s argument => do
          let (name, value?) := splitArgument argument
          let s ← match value? with
            | some value => assign s line command name value false
            | none =>
              if isName name then .ok s
              else giveUp s line command (name ++ rawText ": bad variable name")
          return { s with parameters := s.parameters.change name change }) s
        return marked.done 0

def exportVariables : Action :=
  mark "export" (·.exported) fun v => { v with exported := true }

def makeConstant : Action :=
  mark "readonly" (·.constant) fun v => { v with constant := true }

/-- Forget variables, or functions. -/
def unset : Action := fun s line arguments =>
  withOptions s line "unset" "vf" arguments fun options rest => do
    let forgotten ← rest.foldlM (fun s name => do
      if options.getLast? = some 'f' then
        return { s with functions := s.functions.filter (·.1 ≠ name) }
      else
        let s ← assign s line "unset" name [] false
        let named := s.parameters.named.filter (·.name ≠ name)
        return { s with parameters := { s.parameters with named } }) s
    return forgotten.done 0

/-- Let variables be put back at the end of the function. -/
def makeLocal : Action := fun s line arguments =>
  if s.kept.isEmpty then giveUp s line "local" (rawText "not in a function")
  else do
    let after ← arguments.foldlM (fun s argument => do
      let (name, value?) := splitArgument argument
      let kept := s.keep name
      match value? with
      | some value => assign kept line "local" name value false
      | none =>
        if isName name then return kept
        else giveUp s line "local" (name ++ rawText ": bad variable name")) s
    return after.done 0

/-- Set options and positional parameters, or show the variables. -/
def set : Action := fun s line arguments =>
  if arguments.isEmpty then
    .ok ((s.write (shownVariables s "" (·.value?.isSome))).done 0)
  else
    match readOptions false s.parameters.options arguments with
    | .error message => giveUp s line "set" message
    | .ok r =>
      let options := r.options.filter (· ≠ 'm')
      let s := if options = r.options then s
        else s.complainAs line "set" (rawText "can't access tty; job control turned off")
      let s := { s with parameters := { s.parameters with options } }
      let s := s.write (r.lists.flatMap (optionList options))
      let s := if r.ended || !r.rest.isEmpty then
          { s.setPositional r.rest with optionOffset? := none }
        else s
      .ok (s.done 0)

/-! ## Reading lines -/

def separates (separators : Raw) (g : Glyph) : Bool :=
  !g.literal && separators.contains g.char

/-- Whether a glyph is a blank that separates fields. -/
def isGap (separators : Raw) (g : Glyph) : Bool :=
  separates separators g && FieldBuilder.isBlank g.char

/-- What follows a field: blanks, and with them one other separator. -/
def afterField (separators : Raw) (gs : List Glyph) : List Glyph :=
  match gs.dropWhile (isGap separators) with
  | [] => []
  | g :: rest =>
    if separates separators g then rest.dropWhile (isGap separators) else g :: rest

/-- The last field of a line: all that is left, but for blanks at its end, or a separator if it is
the only one. -/
def lastField (separators : Raw) (gs : List Glyph) : List Glyph :=
  let field := gs.takeWhile (!separates separators ·)
  if (afterField separators (gs.drop field.length)).isEmpty then field
  else (gs.reverse.dropWhile (isGap separators)).reverse

/-- The fields of a line, as many as asked for. -/
def lineFields (separators : Raw) : Nat → List Glyph → List (List Glyph)
  | 0, _ => []
  | 1, gs => [lastField separators gs]
  | n + 2, gs =>
    let field := gs.takeWhile (!separates separators ·)
    field :: lineFields separators (n + 1) (afterField separators (gs.drop field.length))

/-- The glyphs of a line in which a backslash takes away the meaning of the next character, and
whether the line ends with a backslash that does so to the line end. -/
def unescapedLine : Raw → List Glyph × Bool
  | [] => ([], false)
  | ['\\'] => ([], true)
  | '\\' :: c :: rest => (⟨c, true⟩ :: (unescapedLine rest).1, (unescapedLine rest).2)
  | c :: rest => (⟨c, false⟩ :: (unescapedLine rest).1, (unescapedLine rest).2)

/-- Read a line, which may go on in the next ones, at most so many: its glyphs, and whether it has
an end. -/
def readGlyphs (plain : Bool) : Nat → State → List Glyph × Bool × State
  | 0, s => ([], false, s)
  | limit + 1, s =>
    let (bytes, ended, s) := s.takeLine 0
    let line := (raw bytes).filter (· ≠ '\x00')
    if plain then (Piece.glyphsOf false line, ended, s)
    else
      let (gs, goesOn) := unescapedLine line
      if goesOn && ended then
        let (more, ended, s) := readGlyphs plain limit s
        (gs ++ more, ended, s)
      else (gs, ended, s)

/-- The options of the command that reads a line, of which one takes an argument. -/
def readingOptions : List Raw → Except Raw (Bool × List Raw)
  | ['-', 'r'] :: rest => (readingOptions rest).map fun (_, left) => (true, left)
  | ['-', '-'] :: rest => .ok (false, rest)
  | ['-', 'p'] :: _ :: rest => readingOptions rest
  | ('-' :: c :: _) :: _ => .error (rawText "Illegal option -" ++ [c])
  | rest => .ok (false, rest)

/-- Read a line into variables, each of which takes a field, and the last one all that is left.
The command fails if the line has no end. -/
def read : Action := fun s line arguments =>
  match readingOptions arguments with
  | .error message => giveUp s line "read" message
  | .ok (plain, names) =>
    if names.isEmpty then giveUp s line "read" (rawText "arg count")
    else do
      let (gs, ended, s) := readGlyphs plain 1000 s
      let separators := s.parameters.separators
      let fields := lineFields separators names.length (gs.dropWhile (isGap separators))
      let after ← (names.zip fields).foldlM
        (fun s (name, field) => assign s line "read" name (field.map (·.char)) false) s
      return after.done (if ended then 0 else 1)

/-! ## Reading options -/

/-- Where the reading of options stands: the arguments from the current one on, and the letters of
the current group that are left. -/
structure OptionPlace where
  index : Nat
  letters : Raw
  deriving DecidableEq, Repr

/-- The next letter of the options in some arguments, and the place after it. -/
def nextLetter? (arguments : List Raw) (p : OptionPlace) :
    Except OptionPlace (Char × OptionPlace) :=
  match p.letters with
  | c :: cs => .ok (c, { p with letters := cs })
  | [] =>
    match arguments[p.index]? with
    | some ['-', '-'] => .error ⟨p.index + 1, []⟩
    | some ('-' :: c :: cs) => .ok (c, ⟨p.index + 1, cs⟩)
    | _ => .error ⟨p.index, []⟩

/-- Whether a letter is one of those that are described, and whether it takes an argument. -/
def described? (description : Raw) (c : Char) : Option Bool :=
  match description with
  | [] => none
  | d :: ':' :: rest => if c = d then some true else described? rest c
  | d :: rest => if c = d then some false else described? rest c

/-- Read the next option of the positional parameters, or of other arguments, into a variable. -/
def nextOption : Action := fun s line arguments =>
  match arguments with
  | description :: name :: given => do
    let values := if given.isEmpty then s.parameters.positional else given
    let index := ((s.parameters.lookUp "OPTIND".toList).bind number?).getD 1
    let letters := match s.optionOffset? with
      | some offset => (values.getD (index - 2) []).drop offset
      | none => []
    let silent := description.head? = some ':'
    let argumentName := "OPTARG".toList
    let finish := fun (s : State) (p : OptionPlace) (shown : Char) (code : Nat) => do
      let s ← assign s line "getopts" "OPTIND".toList (toString (p.index + 1)).toList false
      let s ← assign s line "getopts" name [shown] false
      let offset? := if p.letters.isEmpty then none
        else some ((values.getD (p.index - 1) []).length - p.letters.length)
      return { s with optionOffset? := offset? }.done code
    let refuse := fun (s : State) (p : OptionPlace) (c shown : Char) (message : String) =>
      if silent then finish (s.setVariable argumentName [c] false) p shown 0
      else
        finish ((s.remark (rawText message)).putBack argumentName none) p '?' 0
    match nextLetter? values ⟨index - 1, letters⟩ with
    | .error p => finish s p '?' 1
    | .ok (c, p) =>
      match described? (if silent then description.tail else description) c with
      | none => refuse s p c '?' ("Illegal option -" ++ c.toString)
      | some false => finish (s.setVariable argumentName [] false) p c 0
      | some true =>
        if !p.letters.isEmpty then
          finish (s.setVariable argumentName p.letters false) ⟨p.index, []⟩ c 0
        else
          match values[p.index]? with
          | some value => finish (s.setVariable argumentName value false) ⟨p.index + 1, []⟩ c 0
          | none => refuse s p c ':' ("No arg for -" ++ c.toString ++ " option")
  | _ => giveUp s line "getopts" (rawText "Usage: getopts optstring var [arg...]")

end GoTasks.Shell.Builtin
