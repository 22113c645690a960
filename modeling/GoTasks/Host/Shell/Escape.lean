import GoTasks.Host.Shell.Token

/-!
# Escapes

A backslash introduces a control character, or up to three octal digits; before anything else it
stands for itself. In an argument, a zero before the digits is not counted, and `\c` ends all
output.
-/

namespace GoTasks.Shell

def isOctal (c : Char) : Bool :=
  '0' ≤ c && c ≤ '7'

def octalByte (digits : Raw) : Char :=
  Char.ofNat (digits.foldl (fun n c => n * 8 + (c.toNat - '0'.toNat)) 0 % 256)

def controlCharacter? : Char → Option Char
  | '\\' => some '\\'
  | 'a' => some '\x07'
  | 'b' => some '\x08'
  | 'e' => some '\x1b'
  | 'f' => some '\x0c'
  | 'n' => some '\n'
  | 'r' => some '\x0d'
  | 't' => some '\t'
  | 'v' => some '\x0b'
  | _ => none

/-- The character after a backslash, and how many characters it is written with. -/
def escape (cs : Raw) : Char × Nat :=
  match cs with
  | [] => ('\\', 0)
  | c :: _ =>
    let digits := (cs.take 3).takeWhile isOctal
    if !digits.isEmpty then (octalByte digits, digits.length)
    else
      match controlCharacter? c with
      | some d => (d, 1)
      | none => ('\\', 0)

/-- An argument with its escapes replaced, and whether output goes on after it. -/
def unescape : Raw → Raw × Bool
  | [] => ([], true)
  | '\\' :: 'c' :: _ => ([], false)
  | '\\' :: rest =>
    let digits := match rest with
      | '0' :: d :: more => if isOctal d then d :: more else rest
      | _ => rest
    let (c, n) := escape digits
    let (cs, goesOn) := unescape (rest.drop (n + (rest.length - digits.length)))
    (c :: cs, goesOn)
  | c :: rest =>
    let (cs, goesOn) := unescape rest
    (c :: cs, goesOn)
termination_by cs => cs.length
decreasing_by all_goals simp; try omega

/-- What `echo` writes. A first argument `-n` leaves out the line end. -/
def echoed (arguments : List Raw) : Raw :=
  let (lineEnd, shown) := match arguments with
    | ['-', 'n'] :: rest => ([], rest)
    | _ => (['\n'], arguments)
  let text := shown.foldl
    (fun (done : Raw × Bool × Bool) argument =>
      let (written, goesOn, first) := done
      if !goesOn then done
      else
        let (cs, goesOn) := unescape argument
        (written ++ (if first then [] else [' ']) ++ cs, goesOn, false))
    ([], true, true)
  text.1 ++ (if text.2.1 then lineEnd else [])

end GoTasks.Shell
