import GoTasks.Proofs.Encoding
import Mathlib.Data.List.Basic

/-!
# Pieces of a byte string

The scanner for UTF-8 cuts a byte string into characters and ill-formed pieces. `Cut` says what a
cutting is, without a scanner: each character stands for the bytes that it is written with, each
ill-formed piece for some bytes above 0x7F, and no byte is left out. The pieces that the scanner
finds are a cutting, and those of a text are its characters.

Two laws of the lossy reading follow. It keeps every byte below 0x80 and makes none. And it
changes nothing but what is not a text. The strict reading accepts the bytes of a text and nothing
else, and whether a byte string is one is decided on both sides of a byte below 0x80 on its own.
-/

namespace GoTasks.Text.Utf8

/-- A byte string cut into characters and ill-formed pieces. -/
inductive Cut : Bytes → List (Option Char) → Prop where
  | nil : Cut [] []
  | character (c : Char) {rest : Bytes} {tail : List (Option Char)} (cut : Cut rest tail) :
      Cut (String.utf8EncodeChar c ++ rest) (some c :: tail)
  | illFormed {piece rest : Bytes} {tail : List (Option Char)} (nonempty : piece ≠ [])
      (high : ∀ b ∈ piece, 0x80 ≤ b.toNat) (cut : Cut rest tail) :
      Cut (piece ++ rest) (none :: tail)

/-! ## Inside a character -/

/-- Bytes that a character may go on with, the first of them between two bounds. -/
def Continue (low high : Nat) : Bytes → Prop
  | [] => True
  | b :: bytes => (low ≤ b.toNat ∧ b.toNat ≤ high) ∧ Continue 0x80 0xBF bytes

/-- What a byte adds to the value of the character that it continues. -/
def payload (b : UInt8) : Nat :=
  b.toNat % 64

theorem payload_eq {b : UInt8} (within : 0x80 ≤ b.toNat ∧ b.toNat ≤ 0xBF) :
    b.toNat - 0x80 = payload b := by
  unfold payload
  omega

/-- The value of a character, from its bits so far and the bytes that it goes on with. -/
def assemble (value : Nat) : Bytes → Nat
  | [] => value
  | b :: bytes => assemble (value * 64 + payload b) bytes

variable {value low high more : Nat} {b : UInt8} {read rest : Bytes}

theorem le_of_mem_continue (from_high : 0x80 ≤ low) (continues : Continue low high read) :
    ∀ b ∈ read, 0x80 ≤ b.toNat := by
  induction read generalizing low high with
  | nil => exact fun _ member => absurd member List.not_mem_nil
  | cons first read ih =>
      obtain ⟨⟨le, -⟩, others⟩ := continues
      intro b member
      rcases List.mem_cons.mp member with rfl | member
      · exact Nat.le_trans from_high le
      · exact ih (by decide) others b member

/-- All the bytes that a character needs are there. -/
theorem piecesFrom_inside_append (bounds : 0x80 ≤ low ∧ high ≤ 0xBF)
    (length : read.length = more + 1) (continues : Continue low high read) :
    piecesFrom (.inside value low high more) (read ++ rest) =
      some (Char.ofNat (assemble value read)) :: pieces rest := by
  induction read generalizing value low high more with
  | nil => cases length
  | cons b read ih =>
      obtain ⟨within, others⟩ := continues
      rw [List.cons_append, piecesFrom_cons, step, if_pos within, payload_eq (by omega), assemble]
      have length : read.length = more := by simpa using length
      cases more with
      | zero =>
          rw [List.length_eq_zero_iff.mp length]
          rfl
      | succ more => exact ih (by decide) length others

/-- Inside a character, the bytes that it needs are there, or what is there of them is
ill-formed and the rest is read afresh. -/
theorem piecesFrom_inside (value low high more : Nat) (bytes : Bytes) :
    ∃ read rest, bytes = read ++ rest ∧ Continue low high read ∧
      (read.length = more + 1 ∨
        piecesFrom (.inside value low high more) bytes = none :: pieces rest) := by
  induction bytes generalizing value low high more with
  | nil => exact ⟨[], [], rfl, trivial, .inr rfl⟩
  | cons b bytes ih =>
      by_cases within : low ≤ b.toNat ∧ b.toNat ≤ high
      · cases more with
        | zero => exact ⟨[b], bytes, rfl, ⟨within, trivial⟩, .inl rfl⟩
        | succ more =>
            obtain ⟨read, rest, rfl, continues, ended⟩ :=
              ih (value * 64 + (b.toNat - 0x80)) 0x80 0xBF more
            refine ⟨b :: read, rest, rfl, ⟨within, continues⟩, ?_⟩
            rw [piecesFrom_cons, step, if_pos within]
            exact ended.imp (congrArg (· + 1)) id
      · refine ⟨[], b :: bytes, rfl, trivial, .inr ?_⟩
        rw [piecesFrom_cons, step, if_neg within]
        rfl

/-! ## The start of a character -/

/-- The forms of a character of several bytes: what its first byte says of the others. The
bounds on the second byte leave out values that have a shorter form or are none of a character. -/
inductive Leads (b : UInt8) (value low high : Nat) : Nat → Prop where
  | two (range : 0xC2 ≤ b.toNat ∧ b.toNat < 0xE0) (bits : value = b.toNat - 0xC0)
      (bounds : low = 0x80 ∧ high = 0xBF) : Leads b value low high 0
  | three (range : 0xE0 ≤ b.toNat ∧ b.toNat < 0xF0) (bits : value = b.toNat - 0xE0)
      (bounds : low = (if b.toNat = 0xE0 then 0xA0 else 0x80) ∧
        high = if b.toNat = 0xED then 0x9F else 0xBF) : Leads b value low high 1
  | four (range : 0xF0 ≤ b.toNat ∧ b.toNat < 0xF5) (bits : value = b.toNat - 0xF0)
      (bounds : low = (if b.toNat = 0xF0 then 0x90 else 0x80) ∧
        high = if b.toNat = 0xF4 then 0x8F else 0xBF) : Leads b value low high 2

/-- A first byte leads to its form. -/
theorem start_of_leads (leads : Leads b value low high more) :
    start b = ([], .inside value low high more) := by
  unfold start
  cases leads <;> grind

/-- A byte above 0x7F that leads to no form is ill-formed by itself. -/
theorem start_high (from_high : 0x80 ≤ b.toNat) :
    start b = ([none], .between) ∨ ∃ value low high more, Leads b value low high more := by
  have lt : b.toNat < 0x100 := b.toNat_lt
  by_cases early : b.toNat < 0xC2
  · left
    unfold start
    grind
  by_cases two : b.toNat < 0xE0
  · exact .inr ⟨_, _, _, _, .two ⟨Nat.le_of_not_lt early, two⟩ rfl ⟨rfl, rfl⟩⟩
  by_cases three : b.toNat < 0xF0
  · exact .inr ⟨_, _, _, _, .three ⟨Nat.le_of_not_lt two, three⟩ rfl ⟨rfl, rfl⟩⟩
  by_cases four : b.toNat < 0xF5
  · exact .inr ⟨_, _, _, _, .four ⟨Nat.le_of_not_lt three, four⟩ rfl ⟨rfl, rfl⟩⟩
  · left
    unfold start
    grind

theorem Leads.bounds (leads : Leads b value low high more) : 0x80 ≤ low ∧ high ≤ 0xBF := by
  cases leads <;> grind

theorem toNat_val_ofNat {n : Nat} (valid : n.isValidChar) : (Char.ofNat n).val.toNat = n := by
  rw [Char.ofNat, dif_pos valid]
  rfl

/-- A character is written with the bytes that it was put together from. -/
theorem Leads.utf8EncodeChar_assemble (leads : Leads b value low high more)
    (length : read.length = more + 1) (continues : Continue low high read) :
    String.utf8EncodeChar (Char.ofNat (assemble value read)) = b :: read := by
  cases leads with
  | two range bits bounds =>
      obtain ⟨c, rfl⟩ : ∃ c, read = [c] := List.length_eq_one_iff.mp (by simpa using length)
      obtain ⟨second, -⟩ := continues
      have valid : (value * 64 + payload c).isValidChar := by
        unfold Nat.isValidChar payload
        omega
      have value_eq := toNat_val_ofNat valid
      simp only [assemble]
      generalize Char.ofNat _ = char at value_eq ⊢
      unfold String.utf8EncodeChar
      simp only [value_eq, payload]
      rw [if_neg (by omega), if_pos (by omega)]
      simp only [List.cons.injEq, ← UInt8.toNat_inj, UInt8.toNat_ofNat', and_true]
      omega
  | three range bits bounds =>
      obtain ⟨c, d, rfl⟩ : ∃ c d, read = [c, d] := List.length_eq_two.mp (by simpa using length)
      obtain ⟨second, third, -⟩ := continues
      have valid : ((value * 64 + payload c) * 64 + payload d).isValidChar := by
        unfold Nat.isValidChar payload
        grind
      have tail : 0x80 ≤ c.toNat ∧ c.toNat ≤ 0xBF := by grind
      have value_eq := toNat_val_ofNat valid
      simp only [assemble]
      generalize Char.ofNat _ = char at value_eq ⊢
      unfold String.utf8EncodeChar
      simp only [value_eq, payload]
      rw [if_neg (by grind), if_neg (by grind), if_pos (by grind)]
      simp only [List.cons.injEq, ← UInt8.toNat_inj, UInt8.toNat_ofNat', and_true]
      omega
  | four range bits bounds =>
      obtain ⟨c, d, e, rfl⟩ : ∃ c d e, read = [c, d, e] :=
        List.length_eq_three.mp (by simpa using length)
      obtain ⟨second, third, fourth, -⟩ := continues
      have valid : (((value * 64 + payload c) * 64 + payload d) * 64 +
          payload e).isValidChar := by
        unfold Nat.isValidChar payload
        grind
      have tail : 0x80 ≤ c.toNat ∧ c.toNat ≤ 0xBF := by grind
      have value_eq := toNat_val_ofNat valid
      simp only [assemble]
      generalize Char.ofNat _ = char at value_eq ⊢
      unfold String.utf8EncodeChar
      simp only [value_eq, payload]
      rw [if_neg (by grind), if_neg (by grind), if_neg (by grind)]
      simp only [List.cons.injEq, ← UInt8.toNat_inj, UInt8.toNat_ofNat', and_true]
      omega

/-- A character above 0x7F is written as a first byte that leads to the others. -/
theorem exists_leads {c : Char} (from_high : 0x80 ≤ c.toNat) :
    ∃ b value low high more read, String.utf8EncodeChar c = b :: read ∧
      Leads b value low high more ∧ read.length = more + 1 ∧ Continue low high read ∧
      assemble value read = c.toNat := by
  have valid : c.val.toNat.isValidChar := c.valid
  have large : 0x80 ≤ c.val.toNat := from_high
  have byte (n : Nat) : (UInt8.ofNat n).toNat = n % 256 := UInt8.toNat_ofNat'
  unfold Char.toNat String.utf8EncodeChar
  generalize c.val.toNat = n at valid large
  dsimp only
  unfold Nat.isValidChar at valid
  rw [if_neg (by omega)]
  split
  · refine ⟨_, _, _, _, _, _, rfl, .two ?_ rfl ⟨rfl, rfl⟩, rfl, ⟨?_, trivial⟩, ?_⟩
    · rw [byte]
      omega
    · rw [byte]
      omega
    · simp only [assemble, payload, byte]
      omega
  split
  · refine ⟨_, _, _, _, _, _, rfl, .three ?_ rfl ⟨rfl, rfl⟩, rfl, ⟨?_, ?_, trivial⟩, ?_⟩
    · rw [byte]
      omega
    · simp only [byte]
      grind
    · rw [byte]
      omega
    · simp only [assemble, payload, byte]
      omega
  · refine ⟨_, _, _, _, _, _, rfl, .four ?_ rfl ⟨rfl, rfl⟩, rfl, ⟨?_, ?_, ?_, trivial⟩, ?_⟩
    · rw [byte]
      omega
    · simp only [byte]
      grind
    · rw [byte]
      omega
    · rw [byte]
      omega
    · simp only [assemble, payload, byte]
      omega

/-! ## Whole byte strings -/

/-- A byte below 0x80 writes the character of its value. -/
theorem utf8EncodeChar_ofNat (ascii : b.toNat < 0x80) :
    String.utf8EncodeChar (Char.ofNat b.toNat) = [b] := by
  have valid : b.toNat.isValidChar := .inl (by omega)
  have toNat : (Char.ofNat b.toNat).toNat = b.toNat := toNat_val_ofNat valid
  rw [utf8EncodeChar_ascii (by omega), toNat, UInt8.ofNat_toNat]

theorem pieces_eq_piecesFrom (starts : start b = ([], .inside value low high more))
    (rest : Bytes) : pieces (b :: rest) = piecesFrom (.inside value low high more) rest := by
  rw [pieces, piecesFrom_cons, step, starts]
  rfl

/-- The pieces that the scanner finds are a cutting of the whole byte string. -/
theorem cut_pieces (bytes : Bytes) : Cut bytes (pieces bytes) := by
  induction length : bytes.length using Nat.strongRecOn generalizing bytes with
  | ind n ih =>
      cases bytes with
      | nil => exact .nil
      | cons b rest =>
          have shorter (tail : Bytes) (le : tail.length ≤ rest.length) :
              Cut tail (pieces tail) := by
            refine ih tail.length ?_ tail rfl
            rw [← length, List.length_cons]
            omega
          by_cases ascii : b.toNat < 0x80
          · have cut := Cut.character (Char.ofNat b.toNat) (shorter rest (Nat.le_refl _))
            rwa [utf8EncodeChar_ofNat ascii, ← pieces_cons_ascii ascii] at cut
          have from_high : 0x80 ≤ b.toNat := Nat.le_of_not_lt ascii
          rcases start_high from_high with alone | ⟨value, low, high, more, leads⟩
          · have bad : pieces (b :: rest) = none :: pieces rest := by
              rw [pieces, piecesFrom_cons, step, alone]
              rfl
            rw [bad]
            exact .illFormed (List.cons_ne_nil b []) (by simpa using from_high)
              (shorter rest (Nat.le_refl _))
          · obtain ⟨read, tail, rfl, continues, ended⟩ :=
              piecesFrom_inside value low high more rest
            have cut := shorter tail (by simp)
            rw [pieces_eq_piecesFrom (start_of_leads leads)]
            rcases ended with all_there | bad
            · rw [piecesFrom_inside_append leads.bounds all_there continues]
              have char := Cut.character (Char.ofNat (assemble value read)) cut
              rwa [leads.utf8EncodeChar_assemble all_there continues, List.cons_append] at char
            · rw [bad]
              refine Cut.illFormed (List.cons_ne_nil b read) ?_ cut
              intro c member
              rcases List.mem_cons.mp member with rfl | member
              · exact from_high
              · exact le_of_mem_continue leads.bounds.1 continues c member

/-- A character that was written is read back as it was. -/
theorem pieces_utf8EncodeChar_append (c : Char) (rest : Bytes) :
    pieces (String.utf8EncodeChar c ++ rest) = some c :: pieces rest := by
  by_cases ascii : c.toNat < 0x80
  · have small : (UInt8.ofNat c.toNat).toNat = c.toNat := by
      rw [UInt8.toNat_ofNat']
      omega
    rw [utf8EncodeChar_ascii ascii, List.singleton_append, pieces_cons_ascii (by omega), small,
      Char.ofNat_toNat]
  · obtain ⟨b, value, low, high, more, read, written, leads, length, continues, assembled⟩ :=
      exists_leads (Nat.le_of_not_lt ascii)
    rw [written, List.cons_append, pieces_eq_piecesFrom (start_of_leads leads),
      piecesFrom_inside_append leads.bounds length continues, assembled, Char.ofNat_toNat]

/-- The pieces of a text are its characters. -/
theorem pieces_encodeChars (cs : List Char) : pieces (encodeChars cs) = cs.map some := by
  induction cs with
  | nil => rfl
  | cons c cs ih =>
      rw [encodeChars, List.flatMap_cons, pieces_utf8EncodeChar_append, List.map_cons]
      exact congrArg _ ih

/-- A text is shown as it is. -/
@[simp] theorem lossy_encode (s : String) : lossy (encode s) = s := by
  rw [lossy, lossyChars, encode, pieces_encodeChars, List.map_map]
  exact (congrArg String.ofList (List.map_id s.toList)).trans String.ofList_toList

theorem encode_inj {a b : String} : encode a = encode b ↔ a = b := by
  constructor
  · intro same
    rw [← lossy_encode a, same, lossy_encode]
  · exact congrArg encode

/-! ## The lossy reading -/

/-- What stands for an ill-formed piece has no byte below 0x80. -/
theorem le_of_mem_replacement (member : b ∈ String.utf8EncodeChar replacement) :
    0x80 ≤ b.toNat :=
  le_of_mem_utf8EncodeChar (by decide) member

theorem encode_lossy_eq (bytes : Bytes) :
    encode (lossy bytes) =
      (pieces bytes).flatMap fun piece => String.utf8EncodeChar (piece.getD replacement) := by
  rw [encode, lossy, String.toList_ofList, encodeChars, lossyChars, List.flatMap_map]

/-- A byte below 0x80 is shown exactly where it stands. -/
theorem mem_encode_lossy_iff (ascii : b.toNat < 0x80) {bytes : Bytes} :
    b ∈ encode (lossy bytes) ↔ b ∈ bytes := by
  rw [encode_lossy_eq]
  have cut := cut_pieces bytes
  generalize pieces bytes = found at cut
  induction cut with
  | nil => rfl
  | character c cut ih =>
      rw [List.flatMap_cons, List.mem_append, List.mem_append]
      exact or_congr_right ih
  | illFormed nonempty high cut ih =>
      have shown : b ∉ String.utf8EncodeChar replacement := fun member =>
        absurd (le_of_mem_replacement member) (Nat.not_le_of_lt ascii)
      have there : b ∉ _ := fun member => absurd (high b member) (Nat.not_le_of_lt ascii)
      rw [List.flatMap_cons, List.mem_append, List.mem_append]
      exact or_congr (iff_of_false shown there) ih

/-- What is shown without a byte above 0x7F is shown as it is. -/
theorem encode_lossy_eq_self {bytes : Bytes} (ascii : ∀ b ∈ encode (lossy bytes), b.toNat < 0x80) :
    encode (lossy bytes) = bytes := by
  rw [encode_lossy_eq] at ascii ⊢
  have cut := cut_pieces bytes
  generalize pieces bytes = found at cut ascii
  induction cut with
  | nil => rfl
  | character c cut ih =>
      rw [List.flatMap_cons] at ascii ⊢
      rw [ih fun b member => ascii b (List.mem_append_right _ member)]
      rfl
  | illFormed nonempty high cut ih =>
      have member : (0xEF : UInt8) ∈ String.utf8EncodeChar replacement := by decide
      have small := ascii 0xEF (List.mem_append_left _ member)
      exact absurd small (by decide)

theorem pieces_append_cons (ascii : b.toNat < 0x80) (before after : Bytes) :
    pieces (before ++ b :: after) =
      pieces before ++ some (Char.ofNat b.toNat) :: pieces after :=
  piecesFrom_append_ascii ascii before after .between fun _ _ _ _ same => nomatch same

/-- What stands before and after a byte below 0x80 is shown on its own. -/
theorem encode_lossy_append_cons (ascii : b.toNat < 0x80) (before after : Bytes) :
    encode (lossy (before ++ b :: after)) =
      encode (lossy before) ++ b :: encode (lossy after) := by
  simp only [encode_lossy_eq, pieces_append_cons ascii, List.flatMap_append, List.flatMap_cons,
    Option.getD_some, utf8EncodeChar_ofNat ascii, List.singleton_append]

/-! ## The strict reading -/

/-- Whether a byte string is that of a text. -/
def WellFormed (bytes : Bytes) : Prop :=
  ∃ s, bytes = encode s

theorem wellFormed_encode (s : String) : WellFormed (encode s) :=
  ⟨s, rfl⟩

theorem mapM_id_eq_some_iff {found : List (Option Char)} {cs : List Char} :
    found.mapM id = some cs ↔ found = cs.map some := by
  induction found generalizing cs with
  | nil => cases cs <;> simp
  | cons piece found ih =>
      cases cs with
      | nil => simp [Option.bind_eq_some_iff]
      | cons c cs => simp [Option.bind_eq_some_iff, ih]

/-- A cutting without ill-formed pieces is that of a text. -/
theorem Cut.eq_encodeChars {bytes : Bytes} {cs : List Char} (cut : Cut bytes (cs.map some)) :
    bytes = encodeChars cs := by
  induction cs generalizing bytes with
  | nil =>
      cases cut
      rfl
  | cons c cs ih =>
      cases cut with
      | character _ cut => rw [ih cut, encodeChars, encodeChars, List.flatMap_cons]

/-- The strict reading gives the text that was written. -/
theorem decode?_eq_some_iff {bytes : Bytes} {s : String} :
    decode? bytes = some s ↔ bytes = encode s := by
  unfold decode?
  constructor
  · intro read
    obtain ⟨cs, characters, rfl⟩ := Option.map_eq_some_iff.mp read
    have cut := cut_pieces bytes
    rw [mapM_id_eq_some_iff.mp characters] at cut
    rw [encode, String.toList_ofList]
    exact cut.eq_encodeChars
  · rintro rfl
    rw [encode, pieces_encodeChars, mapM_id_eq_some_iff.mpr rfl, Option.map_some,
      String.ofList_toList]

theorem isSome_decode?_iff {bytes : Bytes} : (decode? bytes).isSome ↔ WellFormed bytes := by
  simp only [Option.isSome_iff_exists, decode?_eq_some_iff, WellFormed]

instance (bytes : Bytes) : Decidable (WellFormed bytes) :=
  decidable_of_iff _ isSome_decode?_iff

/-- What is not a text has an ill-formed piece. -/
theorem wellFormed_iff_not_mem {bytes : Bytes} : WellFormed bytes ↔ none ∉ pieces bytes := by
  constructor
  · rintro ⟨s, rfl⟩
    simp [encode, pieces_encodeChars]
  · intro whole
    have characters : (lossyChars bytes).map some = pieces bytes := by
      rw [lossyChars, List.map_map]
      refine (List.map_congr_left fun piece member => ?_).trans (List.map_id _)
      cases piece with
      | none => exact absurd member whole
      | some c => rfl
    have cut := cut_pieces bytes
    rw [← characters] at cut
    refine ⟨lossy bytes, ?_⟩
    rw [encode, lossy, String.toList_ofList]
    exact cut.eq_encodeChars

/-- What stands before and after a byte below 0x80 is a text if the whole is. -/
theorem wellFormed_append_cons_iff (ascii : b.toNat < 0x80) (before after : Bytes) :
    WellFormed (before ++ b :: after) ↔ WellFormed before ∧ WellFormed after := by
  simp [wellFormed_iff_not_mem, pieces_append_cons ascii]

theorem wellFormed_cons_iff (ascii : b.toNat < 0x80) {bytes : Bytes} :
    WellFormed (b :: bytes) ↔ WellFormed bytes := by
  have nothing : WellFormed [] := wellFormed_encode ""
  have split := wellFormed_append_cons_iff ascii [] bytes
  rwa [List.nil_append, and_iff_right nothing] at split

end GoTasks.Text.Utf8
