/-!
# Blank characters

White space means the Unicode property `White_Space` everywhere in this library: in the
display of a command, in the quoting of linker flags, in validation, and when the output
of a probe is trimmed.

The property has twenty-five code points. They are given as ranges, so that membership is
a finite check on the scalar value.
-/

namespace GoTasks.Text

/-- The code points with the property `White_Space`, as closed ranges in ascending order. -/
def blankRanges : List (Nat × Nat) :=
  [(0x09, 0x0D), (0x20, 0x20), (0x85, 0x85), (0xA0, 0xA0), (0x1680, 0x1680),
   (0x2000, 0x200A), (0x2028, 0x2029), (0x202F, 0x202F), (0x205F, 0x205F), (0x3000, 0x3000)]

/-- Whether a scalar value lies in one of the given closed ranges. -/
def inRanges (ranges : List (Nat × Nat)) (n : Nat) : Bool :=
  ranges.any fun (lo, hi) => lo ≤ n && n ≤ hi

def isBlank (c : Char) : Bool :=
  inRanges blankRanges c.toNat

def trimChars (cs : List Char) : List Char :=
  ((cs.dropWhile isBlank).reverse.dropWhile isBlank).reverse

/-- A text without the blanks at its two ends. -/
def trim (s : String) : String :=
  String.ofList (trimChars s.toList)

def hasBlank (s : String) : Bool :=
  s.toList.any isBlank

/-- Whether a text holds nothing but blanks; the empty text does. -/
def isBlankText (s : String) : Bool :=
  s.toList.all isBlank

@[simp] theorem toList_trim (s : String) : (trim s).toList = trimChars s.toList := by
  simp [trim]

/-- A trimmed text does not end in a blank. -/
theorem not_isBlank_getLast_trimChars (cs : List Char) :
    ∀ c ∈ (trimChars cs).getLast?, isBlank c = false := by
  intro c hc
  simp only [trimChars, List.getLast?_reverse] at hc
  have := List.head?_dropWhile_not isBlank ((cs.dropWhile isBlank).reverse)
  rw [Option.mem_def.1 hc] at this
  simpa using this

end GoTasks.Text
