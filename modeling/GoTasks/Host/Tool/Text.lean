import GoTasks.Host.Shell.Condition
import GoTasks.Host.Shell.Format
import GoTasks.Host.Tool.Files

/-!
# Tools for text

Showing files or parts of them, counting, and writing arguments in some form.
-/

namespace GoTasks.Tool

def lineEnd : UInt8 := 0x0A

/-- The lines of a text, each with its end. The last one may have none. -/
def linesOf : Bytes → List Bytes
  | [] => []
  | b :: rest =>
    if b = lineEnd then [b] :: linesOf rest
    else
      match linesOf rest with
      | [] => [[b]]
      | l :: ls => (b :: l) :: ls

/-- The operands of a call, or what stands for the input if there are none. -/
def Call.inputs (c : Call) : List Bytes :=
  if c.operands.isEmpty then [[0x2D]] else c.operands

def digits (n : Nat) : Bytes :=
  Text.Utf8.encode (toString n)

def padded (width n : Nat) : Bytes :=
  List.replicate (width - (digits n).length) 0x20 ++ digits n

def number? (bytes : Bytes) : Option Nat :=
  if bytes.isEmpty || bytes.any fun b => b < 0x30 || 0x39 < b then none
  else some (bytes.foldl (fun n b => n * 10 + (b.toNat - 0x30)) 0)

/-- The number that digits are, after a minus sign if it is negative. -/
def integer? (bytes : Bytes) : Option Int :=
  match bytes with
  | 0x2D :: rest => (number? rest).map fun n => -(n : Int)
  | _ => (number? bytes).map fun n => (n : Int)

/-! ## Showing files -/

/-- The lines of a text with their numbers before them, from one after a number on. -/
def numbered (before : Nat) (text : Bytes) : Bytes :=
  (linesOf text).zipIdx.flatMap fun (line, i) => padded 6 (before + i + 1) ++ [0x09] ++ line

/-- Whether what can be read under a name is the very file that is written to. -/
def Call.writesTo (c : Call) (host : Host) (name : Bytes) : Bool :=
  let read? := if name = [0x2D] then
      ((c.context.channels.lookup 0).bind Channel.readable?).bind host.location?
    else (c.resolve host name).toOption.map (·.1)
  let written? := ((c.context.channels.lookup 1).bind Channel.written?).bind host.location?
  written?.isSome && read? = written?

/-- Show files one after the other. A file that is written to is not shown, unless there is nothing
to show. -/
def Program.concatenate : Program where
  flags := "nu"
  valued := ""
  names := [("number", 'n')]
  needed := 0
  neededName := "operand"
  misused := 1
  run c host :=
    let (ok, _, host) := c.inputs.foldl
      (fun (ok, before, host) name =>
        match c.read name host with
        | .error e => (false, before, c.complainAbout "" (quotedIfNeeded name) e host)
        | .ok (bytes, after) =>
          if !bytes.isEmpty && c.writesTo host name then
            (false, before,
              c.complain (quotedIfNeeded name ++ Text.Utf8.encode ": input file is output file")
                host)
          else
            let shown := if c.has 'n' then numbered before bytes else bytes
            (ok, before + (linesOf bytes).length, c.write shown after))
      (true, 0, host)
    (verdict ok, host)

/-- A part of a text: so many lines or bytes at its start. A negative number is one of those that
are left out at its end. -/
def startOf (bytewise : Bool) (n : Int) (text : Bytes) : Bytes :=
  let parts := if bytewise then text.map fun b => [b] else linesOf text
  (if 0 ≤ n then parts.take n.toNat else parts.take (parts.length - n.natAbs)).flatten

/-- A part of a text: so many lines or bytes at its end, or all from one of them on. -/
def endOf (bytewise fromStart : Bool) (n : Nat) (text : Bytes) : Bytes :=
  let parts := if bytewise then text.map fun b => [b] else linesOf text
  (if fromStart then parts.drop (n - 1) else parts.drop (parts.length - n)).flatten

/-- The options of a call in which a number of lines may be an option itself. -/
def withCount (arguments : List Bytes) : List Bytes :=
  match arguments with
  | ownName :: (0x2D :: d :: ds) :: rest =>
    if (number? (d :: ds)).isSome then ownName :: [0x2D, 0x6E] :: (d :: ds) :: rest else arguments
  | _ => arguments

/-- Show a part of each of some files, with their names if there are several. -/
def showParts (part : Bool → Bytes → Option (Bytes → Bytes)) : Program where
  flags := "q"
  valued := "nc"
  names := []
  needed := 0
  neededName := "operand"
  misused := 1
  run c host :=
    let bytewise := c.has 'c'
    let given := ((c.value? 'c').orElse fun _ => c.value? 'n').getD (digits 10)
    match part bytewise given with
    | none =>
      let unit := if bytewise then "bytes" else "lines"
      let message := Text.Utf8.encode ("invalid number of " ++ unit ++ ": ") ++ quoted given
      (verdict false, c.complain message host)
    | some cut =>
      let several := 1 < c.inputs.length && !c.has 'q'
      let (ok, _, host) := c.inputs.foldl
        (fun (ok, first, host) name =>
          match c.read name host with
          | .error e =>
            let what := quoted name ++ Text.Utf8.encode " for reading"
            (false, first, c.complainAbout "cannot open " what e host)
          | .ok (bytes, host) =>
            let shownName := if name = [0x2D] then Text.Utf8.encode "standard input" else name
            let title := (if first then [] else [lineEnd]) ++
              Text.Utf8.encode "==> " ++ shownName ++ Text.Utf8.encode " <==\n"
            (ok, false, c.write ((if several then title else []) ++ cut bytes) host))
        (true, true, host)
      (verdict ok, host)

def Program.firstLines : Program :=
  showParts fun bytewise given => (integer? given).map (startOf bytewise)

def Program.lastLines : Program :=
  showParts fun bytewise given =>
    match given with
    | 0x2B :: rest => (number? rest).map (endOf bytewise true)
    | _ => (integer? given).map fun n => endOf bytewise false n.natAbs

/-- What can be counted of a text: its lines, words and bytes. -/
structure Counts where
  lines : Nat
  words : Nat
  bytes : Nat
  deriving DecidableEq, Repr

def isGap (b : UInt8) : Bool :=
  b = 0x20 || (0x09 ≤ b && b ≤ 0x0D)

def Counts.ofText (text : Bytes) : Counts where
  lines := text.count lineEnd
  words := (text.splitBy fun a b => isGap a = isGap b).countP (·.head?.any (!isGap ·))
  bytes := text.length

/-- The counts that are asked for, in the order they are shown. -/
def Counts.chosen (c : Call) (n : Counts) : List Nat :=
  let all := !(c.has 'l' || c.has 'w' || c.has 'c' || c.has 'm')
  (if all || c.has 'l' then [n.lines] else []) ++ (if all || c.has 'w' then [n.words] else []) ++
    (if all || c.has 'c' || c.has 'm' then [n.bytes] else [])

def Counts.add (a b : Counts) : Counts :=
  ⟨a.lines + b.lines, a.words + b.words, a.bytes + b.bytes⟩

/-- Count lines, words and bytes of files. -/
def Program.count : Program where
  flags := "lwcm"
  valued := ""
  names := [("lines", 'l'), ("words", 'w'), ("bytes", 'c')]
  needed := 0
  neededName := "operand"
  misused := 1
  run c host :=
    let (ok, found, host) := c.inputs.foldl
      (fun (ok, found, host) name =>
        match c.read name host with
        | .error e => (false, found, c.complainAbout "" (quotedIfNeeded name) e host)
        | .ok (bytes, host) => (ok, found ++ [(name, Counts.ofText bytes)], host))
      (true, ([] : List (Bytes × Counts)), host)
    let total := found.foldl (fun n x => n.add x.2) ⟨0, 0, 0⟩
    let single := c.inputs.length = 1 && (total.chosen c).length = 1
    let width := if single then 1 else if c.inputs.contains [0x2D] then 7
      else (digits total.bytes).length
    let line := fun (n : Counts) (name : Bytes) =>
      List.intercalate [0x20] ((n.chosen c).map (padded width)) ++ name ++ [lineEnd]
    let lines := found.map fun (name, n) =>
      line n (if c.operands.isEmpty then [] else 0x20 :: name)
    let last := if 1 < c.inputs.length then [line total (Text.Utf8.encode " total")] else []
    (verdict ok, c.write (lines ++ last).flatten host)

/-- Write what can be read to the output and into files. -/
def Program.distribute : Program where
  flags := "ai"
  valued := ""
  names := [("append", 'a')]
  needed := 0
  neededName := "operand"
  misused := 1
  run c host :=
    let (bytes, host) := c.context.readAll host
    forEach c.operands
      (fun name host =>
        match host.tree.openFile c.context.cwd ⟨name⟩ (c.has 'a') with
        | .ok (loc, tree) =>
          (true, { host with tree := tree.setBytes loc (tree.bytesAt loc ++ bytes) })
        | .error e => (false, c.complainAbout "" (quotedIfNeeded name) e host))
      (c.write bytes host)

/-! ## Writing arguments -/

def isEchoOption (argument : Bytes) : Bool :=
  match argument with
  | 0x2D :: b :: bs => (b :: bs).all (Text.Utf8.encode "neE").contains
  | _ => false

/-- Write the arguments as they are, or with their escapes replaced. -/
def echoArguments (arguments : List Bytes) (ctx : ProcessContext) (host : Host) :
    WaitStatus × Host :=
  let letters := (arguments.takeWhile isEchoOption).flatten.map fun b => Char.ofNat b.toNat
  let shown := List.intercalate [0x20] (arguments.dropWhile isEchoOption)
  let escaped := (letters.filter fun c => c = 'e' || c = 'E').getLast? = some 'e'
  let (text, goesOn) := if escaped then Shell.unescape (Shell.raw shown)
    else (Shell.raw shown, true)
  let text := if goesOn && !letters.contains 'n' then text ++ ['\n'] else text
  (verdict true, ctx.write 1 (Shell.bytesOf text) host)

def formatArguments (ownName : Bytes) (arguments : List Bytes) (ctx : ProcessContext)
    (host : Host) : WaitStatus × Host :=
  let c : Call := ⟨ownName, [], arguments, ctx⟩
  let operands := if arguments.head? = some [0x2D, 0x2D] then arguments.tail else arguments
  match operands.map Shell.raw with
  | [] => (verdict false, c.explain (Text.Utf8.encode "missing operand") host)
  | pattern :: values =>
    let p := Shell.Printing.ofFormat pattern values
    let host := p.complaints.foldl (fun host text => c.complain (Shell.bytesOf text) host) host
    (verdict p.complaints.isEmpty, c.write (Shell.bytesOf p.written) host)

def testWords (ownName : Bytes) (bracketed : Bool) (arguments : List Bytes) (ctx : ProcessContext)
    (host : Host) : WaitStatus × Host :=
  let c : Call := ⟨ownName, [], arguments, ctx⟩
  let words := arguments.map Shell.raw
  if bracketed && words.getLast? ≠ some [']'] then
    (.exited 2, c.complain (Text.Utf8.encode "missing ']'") host)
  else
    let words := if bracketed then words.dropLast else words
    match Shell.Condition.holds ⟨host.tree, ctx.cwd⟩ words with
    | .ok holds => (verdict holds, host)
    | .error message => (.exited 2, c.complain (Shell.bytesOf message) host)

/-- The numbers from one on, at most so many, up to another one. -/
def numbersFrom (step last : Int) : Nat → Int → List Int
  | 0, _ => []
  | limit + 1, n =>
    if (0 < step && last < n) || (step < 0 && n < last) || step = 0 then []
    else n :: numbersFrom step last limit (n + step)

def Program.sequence : Program where
  flags := "w"
  valued := "s"
  names := []
  needed := 1
  neededName := "operand"
  misused := 1
  run c host :=
    match c.operands.find? fun w => (integer? w).isNone with
    | some word =>
      (verdict false, c.explain
        (Text.Utf8.encode "invalid floating point argument: " ++ quoted word) host)
    | none =>
      let (first, step, last) := match c.operands.filterMap integer? with
        | [last] => (1, 1, last)
        | [first, last] => (first, 1, last)
        | first :: step :: last :: _ => (first, step, last)
        | [] => (1, 1, 0)
      let shown := (numbersFrom step last ((last - first).natAbs + 1) first).map fun n =>
        Text.Utf8.encode (toString n)
      let width := (shown.map List.length).foldl max 0
      let filled := if c.has 'w' then
          shown.map fun n => List.replicate (width - n.length) 0x30 ++ n
        else shown
      let separator := (c.value? 's').getD [lineEnd]
      let text := List.intercalate separator filled
      (verdict true, c.write (if text.isEmpty then [] else text ++ [lineEnd]) host)

/-- A name without an ending, unless it is nothing else. -/
def withoutEnding (ending name : Bytes) : Bytes :=
  if ending.isSuffixOf name && ending ≠ name then name.take (name.length - ending.length) else name

def Program.lastPart : Program where
  flags := "a"
  valued := "s"
  names := [("multiple", 'a')]
  needed := 1
  neededName := "operand"
  misused := 1
  run c host :=
    let several := c.has 'a' || c.has 's'
    if !several && 2 < c.operands.length then
      let surplus := (c.operands.drop 2).headD []
      (verdict false, c.explain (Text.Utf8.encode "extra operand " ++ quoted surplus) host)
    else
      let names := if several then c.operands else c.operands.take 1
      let ending := if several then (c.value? 's').getD [] else (c.operands.drop 1).headD []
      (verdict true,
        c.write (nameLines (names.map fun n => withoutEnding ending (lastPartOf n))) host)

def parentOf (name : Bytes) : Bytes :=
  let trimmed := (FileTree.ownName ⟨name⟩).bytes
  let parts := (Path.segments trimmed).dropLast
  if parts.isEmpty then Path.dot
  else
    let kept := (parts.reverse.dropWhile List.isEmpty).reverse
    if kept.isEmpty then [Path.separator] else Path.joinSegments kept

def Program.parentPart : Program where
  flags := ""
  valued := ""
  names := []
  needed := 1
  neededName := "operand"
  misused := 1
  run c host := (verdict true, c.write (nameLines (c.operands.map parentOf)) host)

end GoTasks.Tool
