import GoTasks.Host.Shell.Builtin.Basic

/-!
# The mask for new files

The mask says what nobody may do with files that are made: three bits for each of their owner, its
group and all others. It is given in octal digits, or by what may be done. Since a host has one
user only, it is merely kept.
-/

namespace GoTasks.Shell.Builtin

def fullMask : Nat := 0o777

/-- Those for whom something may be allowed, each with its bits. -/
def maskHolders : List (Char × Nat) :=
  [('u', 0o700), ('g', 0o070), ('o', 0o007)]

/-- What may be allowed, each with its bits for everybody. -/
def maskRights : List (Char × Nat) :=
  [('r', 0o444), ('w', 0o222), ('x', 0o111)]

def bitsOf (meanings : List (Char × Nat)) (letters : Raw) : Nat :=
  (letters.filterMap fun c => meanings.lookup c).foldl (· ||| ·) 0

/-- What is allowed after changes for some holders, each a sign and letters for rights. -/
def allowedAfter? (holders : Nat) : Nat → Nat → Raw → Option Nat
  | _, allowed, [] => some allowed
  | 0, _, _ => none
  | limit + 1, allowed, sign :: rest =>
    let letters := rest.takeWhile fun c => (maskRights.lookup c).isSome
    let bits := bitsOf maskRights letters &&& holders
    let others := allowed &&& (fullMask - holders)
    let left := rest.drop letters.length
    match sign with
    | '+' => allowedAfter? holders limit (allowed ||| bits) left
    | '-' => allowedAfter? holders limit (allowed &&& (fullMask - bits)) left
    | '=' => allowedAfter? holders limit (others ||| bits) left
    | _ => none

/-- What is allowed after a clause: letters for holders, everybody if there are none, and
changes. -/
def allowedAfterClause? (allowed : Nat) (clause : Raw) : Option Nat :=
  let letters := clause.takeWhile fun c => c = 'a' || (maskHolders.lookup c).isSome
  let holders := if letters.isEmpty || letters.contains 'a' then fullMask
    else bitsOf maskHolders letters
  let changes := clause.drop letters.length
  if changes.isEmpty then none else allowedAfter? holders changes.length allowed changes

/-- The clauses of a text, between commas. -/
def clausesOf : Raw → List Raw
  | [] => [[]]
  | c :: rest =>
    if c = ',' then [] :: clausesOf rest
    else (clausesOf rest).modifyHead (c :: ·)

def octalMask (mask : Nat) : Raw :=
  Layout.padded '0' 4 (Nat.toDigits 8 mask)

/-- What a mask allows, in letters. -/
def allowedText (mask : Nat) : Raw :=
  let shown := maskHolders.map fun (holder, bits) =>
    let rights := maskRights.filter fun (_, right) => mask &&& bits &&& right = 0
    holder :: '=' :: rights.map (·.1)
  Parameters.joinedBy [','] shown

/-- Show the mask, or set it. -/
def mask : Action := fun s line arguments =>
  withOptions s line "umask" "S" arguments fun options rest =>
    match rest with
    | [] =>
      let shown := if options.isEmpty then octalMask s.mask else allowedText s.mask
      .ok ((s.write (shown ++ ['\n'])).done 0)
    | given :: _ =>
      if given.head?.any (·.isDigit) then
        if given.all fun c => '0' ≤ c && c ≤ '7' then
          let value := given.foldl (fun n c => n * 8 + (c.toNat - '0'.toNat)) 0
          .ok ({ s with mask := value &&& fullMask }.done 0)
        else refuseNumber s line "umask" given
      else
        match (clausesOf given).foldlM allowedAfterClause? (fullMask - s.mask) with
        | some allowed => .ok ({ s with mask := fullMask - allowed }.done 0)
        | none => giveUp s line "umask" (rawText "Illegal mode: " ++ given)

end GoTasks.Shell.Builtin
