import GoTasks.Text.Blank
import Mathlib.Data.List.DropRight

/-!
# Trimmed texts

Trimming a text cuts nothing but blanks off its two ends, and leaves a text that neither begins nor
ends with one. So nothing is left exactly of a text that holds nothing but blanks.
-/

namespace GoTasks.Text

/-- Whether a text neither begins nor ends with a blank. The empty text does neither. -/
def IsTrimmed (s : String) : Prop :=
  (∀ c ∈ s.toList.head?, isBlank c = false) ∧ ∀ c ∈ s.toList.getLast?, isBlank c = false

/-- Whether a text without the blanks at its two ends is the given one. -/
def TrimsTo (s trimmed : String) : Prop :=
  IsTrimmed trimmed ∧ ∃ before after, isBlankText before = true ∧ isBlankText after = true ∧
    s = before ++ trimmed ++ after

theorem isTrimmed_empty : IsTrimmed "" := by
  constructor
  · intro c member
    cases member
  · intro c member
    cases member

/-- What begins with one trimmed text and ends with another is trimmed. -/
theorem IsTrimmed.append {a b : String} (first : IsTrimmed a) (last : IsTrimmed b) (some_a : a ≠ "")
    (some_b : b ≠ "") : IsTrimmed (a ++ b) := by
  have nonempty_a : a.toList ≠ [] := by rwa [ne_eq, String.toList_eq_nil_iff]
  have nonempty_b : b.toList ≠ [] := by rwa [ne_eq, String.toList_eq_nil_iff]
  constructor
  · rw [String.toList_append, List.head?_append_of_ne_nil _ nonempty_a]
    exact first.1
  · rw [String.toList_append, List.getLast?_append_of_ne_nil _ nonempty_b]
    exact last.2

/-! ## What trimming leaves -/

theorem trimChars_eq (cs : List Char) :
    trimChars cs = (cs.dropWhile isBlank).rdropWhile isBlank :=
  rfl

theorem trimChars_isPrefix (cs : List Char) : trimChars cs <+: cs.dropWhile isBlank :=
  List.rdropWhile_prefix isBlank _

theorem trimChars_isInfix (cs : List Char) : trimChars cs <:+: cs :=
  (trimChars_isPrefix cs).isInfix.trans (List.dropWhile_suffix isBlank).isInfix

/-- A trimmed text does not begin with a blank. -/
theorem not_isBlank_head?_trimChars (cs : List Char) :
    ∀ c ∈ (trimChars cs).head?, isBlank c = false := by
  intro c first
  obtain ⟨rest, whole⟩ := trimChars_isPrefix cs
  have same : (cs.dropWhile isBlank).head? = some c := by
    rw [← whole, List.head?_append, first]
    rfl
  have stopped := List.head?_dropWhile_not isBlank cs
  rw [same] at stopped
  exact stopped

theorem isTrimmed_trim (s : String) : IsTrimmed (trim s) := by
  rw [IsTrimmed, toList_trim]
  exact ⟨not_isBlank_head?_trimChars _, not_isBlank_getLast_trimChars _⟩

/-- What trimming cuts off is blank. -/
theorem trimsTo_trim (s : String) : TrimsTo s (trim s) := by
  refine ⟨isTrimmed_trim s, String.ofList (s.toList.takeWhile isBlank),
    String.ofList ((s.toList.dropWhile isBlank).rtakeWhile isBlank), ?_, ?_, ?_⟩
  · rw [isBlankText, String.toList_ofList]
    exact List.all_takeWhile
  · rw [isBlankText, String.toList_ofList, List.all_eq_true]
    intro c member
    exact List.mem_rtakeWhile_imp member
  · apply String.toList_injective
    have front : s.toList.takeWhile isBlank ++ s.toList.dropWhile isBlank = s.toList :=
      List.takeWhile_append_dropWhile
    have back : (s.toList.dropWhile isBlank).rdropWhile isBlank ++
        (s.toList.dropWhile isBlank).rtakeWhile isBlank = s.toList.dropWhile isBlank :=
      List.rdropWhile_append_rtakeWhile
    rw [String.toList_append, String.toList_append, String.toList_ofList, String.toList_ofList,
      toList_trim, trimChars_eq, List.append_assoc, back, front]

theorem TrimsTo.eq_empty_iff {s trimmed : String} (trims : TrimsTo s trimmed) :
    trimmed = "" ↔ isBlankText s = true := by
  obtain ⟨⟨first, -⟩, before, after, blank_before, blank_after, rfl⟩ := trims
  unfold isBlankText at *
  rw [String.toList_append, String.toList_append, List.all_append, List.all_append, blank_before,
    blank_after, Bool.true_and, Bool.and_true]
  constructor
  · rintro rfl
    rfl
  · intro blank
    rw [← String.toList_eq_nil_iff]
    cases chars : trimmed.toList with
    | nil => rfl
    | cons c rest =>
        rw [chars] at first blank
        have not_blank := first c rfl
        rw [List.all_cons, not_blank] at blank
        cases blank

/-- Nothing is left exactly if there was nothing but blanks. -/
theorem trim_eq_empty_iff {s : String} : trim s = "" ↔ isBlankText s = true :=
  (trimsTo_trim s).eq_empty_iff

theorem mem_of_mem_trim {s : String} {c : Char} (member : c ∈ (trim s).toList) : c ∈ s.toList := by
  rw [toList_trim] at member
  exact (trimChars_isInfix s.toList).subset member

end GoTasks.Text
