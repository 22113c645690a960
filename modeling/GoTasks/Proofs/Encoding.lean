import GoTasks.Text.Utf8

/-!
# Bytes of a text

What cuts a byte string at bytes below 0x80 cuts a text between its characters: such a byte is
always a character of its own and never a part of another one.
-/

namespace GoTasks.Text.Utf8

theorem encode_append (a b : String) : encode (a ++ b) = encode a ++ encode b := by
  rw [encode, String.toList_append, encodeChars, List.flatMap_append]
  rfl

theorem utf8EncodeChar_ascii {c : Char} (ascii : c.toNat < 0x80) :
    String.utf8EncodeChar c = [UInt8.ofNat c.toNat] := by
  have small : c.val.toNat ≤ 0x7F := Nat.le_of_lt_succ ascii
  unfold String.utf8EncodeChar
  exact if_pos small

/-- All bytes of a character above 0x7F are above it. -/
theorem le_of_mem_utf8EncodeChar {c : Char} (high : 0x80 ≤ c.toNat) {b : UInt8}
    (member : b ∈ String.utf8EncodeChar c) : 0x80 ≤ b.toNat := by
  have large : ¬ c.val.toNat ≤ 0x7F := Nat.not_le_of_lt high
  unfold String.utf8EncodeChar at member
  simp only [if_neg large] at member
  split at member
  · simp only [List.mem_cons, List.not_mem_nil, or_false] at member
    rcases member with rfl | rfl <;> simp only [UInt8.toNat_ofNat'] <;> omega
  split at member
  · simp only [List.mem_cons, List.not_mem_nil, or_false] at member
    rcases member with rfl | rfl | rfl <;> simp only [UInt8.toNat_ofNat'] <;> omega
  · simp only [List.mem_cons, List.not_mem_nil, or_false] at member
    rcases member with rfl | rfl | rfl | rfl <;> simp only [UInt8.toNat_ofNat'] <;> omega

theorem mem_utf8EncodeChar_iff {b : UInt8} (ascii : b.toNat < 0x80) {c : Char} :
    b ∈ String.utf8EncodeChar c ↔ c.toNat = b.toNat := by
  by_cases low : c.toNat < 0x80
  · rw [utf8EncodeChar_ascii low, List.mem_singleton, ← UInt8.toNat_inj, UInt8.toNat_ofNat']
    omega
  · constructor
    · intro member
      have high := le_of_mem_utf8EncodeChar (Nat.le_of_not_lt low) member
      omega
    · omega

/-- A byte below 0x80 is found in the bytes of a text exactly where its character is found in
the text. -/
theorem mem_encode_iff {b : UInt8} (ascii : b.toNat < 0x80) {s : String} :
    b ∈ encode s ↔ ∃ c ∈ s.toList, c.toNat = b.toNat := by
  simp only [encode, encodeChars, List.mem_flatMap, mem_utf8EncodeChar_iff ascii]

end GoTasks.Text.Utf8
