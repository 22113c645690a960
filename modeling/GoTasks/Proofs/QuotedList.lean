import GoTasks.Text.Utf8

/-!
# Quoted lists

The Go tool takes the value of a flag like `-ldflags` apart into words. Words are separated by
space, and a word that starts with a quotation mark goes on to the next mark of that kind,
whatever lies between. Nothing is escaped, and a mark inside a word means nothing.

The reading goes byte by byte and never looks back, which is why it takes the bytes of a word
along. What it makes of a whole word is stated at the end, for each kind of word.
-/

namespace GoTasks.QuotedList

/-- Whether a byte separates words: the space, the tab and the ends of lines. -/
def isSpace (b : UInt8) : Bool :=
  b = 0x20 || b = 0x09 || b = 0x0A || b = 0x0D

/-- Whether a byte is a quotation mark, double or single. -/
def isQuote (b : UInt8) : Bool :=
  b = 0x22 || b = 0x27

/-- Where the reading stands: between words, or in a word of which some bytes were read. -/
inductive Position where
  | between
  | quoted (quote : UInt8) (read : Bytes)
  | plain (read : Bytes)

/-- The words from a position on, unless a quotation never ends. -/
def splitFrom : Position → Bytes → Option (List Bytes)
  | .between, [] => some []
  | .quoted _ _, [] => none
  | .plain read, [] => some [read]
  | .between, b :: rest =>
    if isSpace b then splitFrom .between rest
    else if isQuote b then splitFrom (.quoted b []) rest
    else splitFrom (.plain [b]) rest
  | .quoted quote read, b :: rest =>
    if b = quote then (splitFrom .between rest).map (read :: ·)
    else splitFrom (.quoted quote (read ++ [b])) rest
  | .plain read, b :: rest =>
    if isSpace b then (splitFrom .between rest).map (read :: ·)
    else splitFrom (.plain (read ++ [b])) rest

/-- The words of a quoted list, unless a quotation never ends. -/
def split (bytes : Bytes) : Option (List Bytes) :=
  splitFrom .between bytes

variable {b quote : UInt8} {word rest : Bytes}

theorem split_cons_space (space : isSpace b) : split (b :: rest) = split rest := by
  rw [split, splitFrom, if_pos space]
  rfl

theorem isSpace_of_isQuote (mark : isQuote quote) : isSpace quote = false := by
  simp only [isQuote, Bool.or_eq_true, decide_eq_true_eq] at mark
  rcases mark with rfl | rfl <;> rfl

/-- The rest of a quotation, from any byte of it on. -/
theorem splitFrom_quoted (read : Bytes) (absent : quote ∉ word) :
    splitFrom (.quoted quote read) (word ++ quote :: rest) =
      (split rest).map ((read ++ word) :: ·) := by
  induction word generalizing read with
  | nil =>
      rw [List.nil_append, splitFrom, if_pos rfl, List.append_nil]
      rfl
  | cons b word ih =>
      rw [List.mem_cons, not_or] at absent
      rw [List.cons_append, splitFrom, if_neg (Ne.symm absent.1), ih _ absent.2,
        List.append_assoc]
      rfl

/-- A quotation is a word without its marks, which need no space after them. -/
theorem split_quoted (mark : isQuote quote) (absent : quote ∉ word) :
    split (quote :: (word ++ quote :: rest)) = (split rest).map (word :: ·) := by
  rw [split, splitFrom, isSpace_of_isQuote mark, if_neg Bool.false_ne_true, if_pos mark]
  exact splitFrom_quoted [] absent

/-- The rest of a plain word, from any byte of it on. -/
theorem splitFrom_plain (read : Bytes) (solid : ∀ b ∈ word, isSpace b = false)
    (ends : ∀ b ∈ rest.head?, isSpace b) :
    splitFrom (.plain read) (word ++ rest) = (split rest).map ((read ++ word) :: ·) := by
  induction word generalizing read with
  | nil =>
      rw [List.nil_append, List.append_nil]
      cases rest with
      | nil => rfl
      | cons b rest =>
          have space : isSpace b := ends b rfl
          rw [splitFrom, if_pos space, split_cons_space space]
          rfl
  | cons b word ih =>
      have inside : isSpace b = false := solid b List.mem_cons_self
      rw [List.cons_append, splitFrom, inside, if_neg Bool.false_ne_true,
        ih _ fun c member => solid c (List.mem_cons_of_mem b member), List.append_assoc]
      rfl

/-- A plain word goes on to the next space. -/
theorem split_plain (unquoted : isQuote b = false)
    (solid : ∀ c ∈ b :: word, isSpace c = false) (ends : ∀ c ∈ rest.head?, isSpace c) :
    split ((b :: word) ++ rest) = (split rest).map ((b :: word) :: ·) := by
  have inside : isSpace b = false := solid b List.mem_cons_self
  rw [split, List.cons_append, splitFrom, inside, if_neg Bool.false_ne_true, unquoted,
    if_neg Bool.false_ne_true]
  exact splitFrom_plain [b] (fun c member => solid c (List.mem_cons_of_mem b member)) ends

end GoTasks.QuotedList
