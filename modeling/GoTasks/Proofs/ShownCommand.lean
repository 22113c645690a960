import GoTasks.Command

/-!
# Shown commands

A command is shown as one line in which nothing is escaped. For tokens without double quotes that is
enough to tell them apart again: a token that starts with a double quote goes on to the next one,
whatever white space lies between, and any other token goes on to the next space.

The reader below takes a line apart by this rule alone, one token at a time. It gives back the
tokens of every such command, so no other tokens are shown in the same way.
-/

namespace GoTasks.ShownLine

/-- A line up to a mark, and what is left of it from the mark on. -/
def upTo (mark : Char) (line : List Char) : List Char × List Char :=
  (line.takeWhile (· ≠ mark), line.dropWhile (· ≠ mark))

/-- The characters of the first token of a line, without the quotes around them, and what comes
after the token. -/
def firstToken : List Char → List Char × List Char
  | [] => ([], [])
  | c :: line =>
    if c = '"' then ((upTo '"' line).1, (upTo '"' line).2.tail)
    else upTo ' ' (c :: line)

/-- What comes after the first token is the end of the line. -/
theorem firstToken_isSuffix (line : List Char) : (firstToken line).2 <:+ line := by
  fun_cases firstToken line with
  | case1 => exact List.suffix_rfl
  | case2 line =>
      have rest : (upTo '"' line).2 <:+ line := List.dropWhile_suffix _
      exact (List.tail_suffix _).trans (rest.trans (List.suffix_cons '"' line))
  | case3 c line => exact List.dropWhile_suffix _

theorem length_lt_of_firstToken {line rest : List Char} {separator : Char}
    (cut : (firstToken line).2 = separator :: rest) : rest.length < line.length := by
  have shorter := (firstToken_isSuffix line).length_le
  rw [cut, List.length_cons] at shorter
  exact shorter

/-- The tokens of a line. One character separates a token from the next. -/
def tokens (line : List Char) : List String :=
  match _cut : (firstToken line).2 with
  | [] => [String.ofList (firstToken line).1]
  | _ :: rest => String.ofList (firstToken line).1 :: tokens rest
termination_by line.length
decreasing_by exact length_lt_of_firstToken _cut

variable {line word rest : List Char} {mark c : Char}

theorem tokens_eq_singleton (cut : firstToken line = (word, [])) :
    tokens line = [String.ofList word] := by
  rw [tokens]
  split
  · rw [cut]
  · next more =>
    rw [cut] at more
    cases more

theorem tokens_eq_cons {separator : Char} (cut : firstToken line = (word, separator :: rest)) :
    tokens line = String.ofList word :: tokens rest := by
  rw [tokens]
  split
  · next ended =>
    rw [cut] at ended
    cases ended
  · next more =>
    rw [cut] at more
    cases more
    rw [cut]

/-- A word without the mark is read up to the mark, or to the end of the line. -/
theorem upTo_append (absent : mark ∉ word) (ends : ∀ c ∈ rest.head?, c = mark) :
    upTo mark (word ++ rest) = (word, rest) := by
  have inside : ∀ c ∈ word, decide (c ≠ mark) = true := by
    intro c member
    exact decide_eq_true fun same => absent (same ▸ member)
  unfold upTo
  rw [List.takeWhile_append_of_pos inside, List.dropWhile_append_of_pos inside]
  cases rest with
  | nil => rw [List.takeWhile_nil, List.dropWhile_nil, List.append_nil]
  | cons c rest =>
      rw [ends c rfl]
      simp

/-- A quotation is a token without its marks. -/
theorem firstToken_quotation (absent : '"' ∉ word) :
    firstToken ('"' :: (word ++ '"' :: rest)) = (word, rest) := by
  have cut : upTo '"' (word ++ '"' :: rest) = (word, '"' :: rest) := by
    apply upTo_append absent
    rintro c ⟨⟩
    rfl
  rw [firstToken, if_pos rfl, cut]
  rfl

/-- A token without quotes goes on to the next space. -/
theorem firstToken_plain (unquoted : c ≠ '"') (solid : ' ' ∉ c :: word)
    (ends : ∀ c ∈ rest.head?, c = ' ') :
    firstToken ((c :: word) ++ rest) = (c :: word, rest) := by
  rw [List.cons_append, firstToken, if_neg unquoted, ← List.cons_append]
  exact upTo_append solid ends

end GoTasks.ShownLine

namespace GoTasks.Command

open ShownLine

/-- A token is read back, with or without quotes around it. -/
theorem firstToken_displayToken {token : String} {rest : List Char}
    (unquoted : '"' ∉ token.toList) (ends : ∀ c ∈ rest.head?, c = ' ') :
    firstToken ((displayToken token).toList ++ rest) = (token.toList, rest) := by
  unfold displayToken
  by_cases quotes : needsQuotes token = true
  · have shown : ("\"" ++ token ++ "\"").toList ++ rest = '"' :: (token.toList ++ '"' :: rest) := by
      simp
    rw [if_pos quotes, shown]
    exact firstToken_quotation unquoted
  · have plain : token ≠ "" ∧ Text.hasBlank token = false := by
      simpa [needsQuotes] using quotes
    have solid : ' ' ∉ token.toList := by
      intro space
      have blank := List.any_eq_false.mp plain.2 ' ' space
      exact blank (by decide)
    have nonempty : token.toList ≠ [] := by
      rw [ne_eq, String.toList_eq_nil_iff]
      exact plain.1
    obtain ⟨c, word, chars⟩ := List.exists_cons_of_ne_nil nonempty
    rw [if_neg quotes, chars]
    rw [chars] at unquoted solid
    exact firstToken_plain (fun same => unquoted (same ▸ List.mem_cons_self)) solid ends

/-- The characters of the line that shows some tokens. -/
def shown (tokens : List String) : List Char :=
  (" ".intercalate (tokens.map displayToken)).toList

theorem shown_singleton (token : String) : shown [token] = (displayToken token).toList := by
  rw [shown, List.map_singleton, String.intercalate_singleton]

/-- What comes after the first of several tokens is a space and a line of the same kind. -/
theorem shown_cons_cons (token next : String) (others : List String) :
    shown (token :: next :: others) =
      (displayToken token).toList ++ ' ' :: shown (next :: others) := by
  unfold shown
  rw [List.map_cons, List.map_cons, String.intercalate_cons_cons]
  simp

/-- Shown tokens are read back from their line, each of them and in order. -/
theorem tokens_shown (token : String) (others : List String)
    (unquoted : ∀ t ∈ token :: others, '"' ∉ t.toList) :
    tokens (shown (token :: others)) = token :: others := by
  induction others generalizing token with
  | nil =>
      have cut : firstToken ((displayToken token).toList ++ []) = (token.toList, []) := by
        apply firstToken_displayToken (unquoted token List.mem_cons_self)
        intro c member
        cases member
      rw [List.append_nil, ← shown_singleton] at cut
      rw [tokens_eq_singleton cut, String.ofList_toList]
  | cons next others ih =>
      have cut : firstToken ((displayToken token).toList ++ ' ' :: shown (next :: others)) =
          (token.toList, ' ' :: shown (next :: others)) := by
        apply firstToken_displayToken (unquoted token List.mem_cons_self)
        rintro c ⟨⟩
        rfl
      rw [← shown_cons_cons] at cut
      rw [tokens_eq_cons cut, String.ofList_toList,
        ih next fun t member => unquoted t (List.mem_cons_of_mem token member)]

theorem tokens_display {c : Command} (unquoted : ∀ token ∈ c.argv, '"' ∉ token.toList) :
    tokens c.display.toList = c.argv :=
  tokens_shown c.program c.arguments unquoted

/-- The line that a command is shown as identifies the command, as far as a line can: commands
without double quotes are shown alike exactly if they have the same program and the same arguments,
as many and in the same order. -/
theorem display_eq_iff {c d : Command} (plain : ∀ token ∈ c.argv, '"' ∉ token.toList)
    (other : ∀ token ∈ d.argv, '"' ∉ token.toList) :
    c.display = d.display ↔ c.argv = d.argv := by
  constructor
  · intro same
    calc c.argv = tokens c.display.toList := (tokens_display plain).symm
      _ = tokens d.display.toList := by rw [same]
      _ = d.argv := tokens_display other
  · intro same
    rw [display, display, same]

/-- One argument with a space in it is told from the two arguments around the space. -/
theorem display_eq_iff_split :
    let joined : Command := ⟨"go", ["test", "", "a b"], .empty, .ofText "/project"⟩
    let split : Command := ⟨"go", ["test", "", "a", "b"], .empty, .ofText "/project"⟩
    (∀ token ∈ joined.argv, '"' ∉ token.toList) ∧ (∀ token ∈ split.argv, '"' ∉ token.toList) ∧
      joined.display ≠ split.display := by
  intro joined split
  have plain : ∀ token ∈ joined.argv, '"' ∉ token.toList := by decide
  have other : ∀ token ∈ split.argv, '"' ∉ token.toList := by decide
  refine ⟨plain, other, fun same => ?_⟩
  have equal : joined.argv = split.argv := (display_eq_iff plain other).mp same
  exact absurd equal (by decide)

/-- A double quote inside a token can look like the end of it: one argument is shown as two empty
ones. -/
example : (⟨"go", ["\" \""], .empty, .ofText "/project"⟩ : Command).display =
    (⟨"go", ["", ""], .empty, .ofText "/project"⟩ : Command).display := by
  decide

end GoTasks.Command
