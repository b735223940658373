/-
# ControlLink.Proofs.Text.Utf8 — reading a text gives back what was written

Each of the one to four byte forms of a character is read back as that character
(`decodeOnto_utf8EncodeChar`), so a text is read back from its bytes (`decode?_encode`). A
character above U+007F is written without a byte of ASCII (`le_of_mem_utf8EncodeChar`), so a reader
that looks for ASCII bytes only never stops inside one.
-/
import ControlLink.Text.Utf8

namespace ControlLink.Text.Utf8

set_option autoImplicit false

/-! ## The bytes of a character -/

/-- The four forms. -/
theorem utf8EncodeChar_eq (c : Char) : String.utf8EncodeChar c =
    if c.toNat ≤ 0x7F then [UInt8.ofNat c.toNat]
    else if c.toNat ≤ 0x7FF then
      [UInt8.ofNat (c.toNat / 64 % 32 + 192), UInt8.ofNat (c.toNat % 64 + 128)]
    else if c.toNat ≤ 0xFFFF then
      [UInt8.ofNat (c.toNat / 4096 % 16 + 224), UInt8.ofNat (c.toNat / 64 % 64 + 128),
        UInt8.ofNat (c.toNat % 64 + 128)]
    else
      [UInt8.ofNat (c.toNat / 262144 % 8 + 240), UInt8.ofNat (c.toNat / 4096 % 64 + 128),
        UInt8.ofNat (c.toNat / 64 % 64 + 128), UInt8.ofNat (c.toNat % 64 + 128)] := rfl

theorem utf8EncodeChar_of_ascii {c : Char} (ascii : c.toNat ≤ 0x7F) :
    String.utf8EncodeChar c = [UInt8.ofNat c.toNat] := by
  rw [utf8EncodeChar_eq, if_pos ascii]

theorem toNat_ofNat_of_lt {n : Nat} (small : n < 256) : (UInt8.ofNat n).toNat = n := by
  rw [UInt8.toNat_ofNat', Nat.mod_eq_of_lt small]

theorem le_of_mem_utf8EncodeChar {c : Char} {b : UInt8} (above : 0x7F < c.toNat)
    (member : b ∈ String.utf8EncodeChar c) : 0x80 ≤ b := by
  have continuation (n : Nat) : (0x80 : UInt8) ≤ UInt8.ofNat (n % 64 + 128) := by
    rw [UInt8.le_iff_toNat_le, toNat_ofNat_of_lt (by omega)]
    exact Nat.le_add_left _ _
  have lead (n : Nat) (marked : 128 ≤ n) (small : n < 256) : (0x80 : UInt8) ≤ UInt8.ofNat n := by
    rw [UInt8.le_iff_toNat_le, toNat_ofNat_of_lt small]
    exact marked
  rw [utf8EncodeChar_eq, if_neg (by omega)] at member
  split at member
  · simp only [List.mem_cons, List.not_mem_nil, or_false] at member
    rcases member with rfl | rfl
    · exact lead _ (by omega) (by omega)
    · exact continuation _
  · split at member
    · simp only [List.mem_cons, List.not_mem_nil, or_false] at member
      rcases member with rfl | rfl | rfl
      · exact lead _ (by omega) (by omega)
      · exact continuation _
      · exact continuation _
    · simp only [List.mem_cons, List.not_mem_nil, or_false] at member
      rcases member with rfl | rfl | rfl | rfl
      · exact lead _ (by omega) (by omega)
      · exact continuation _
      · exact continuation _
      · exact continuation _

/-! ## Reading the forms -/

section Forms

variable {a b : UInt8} {v : Nat}

theorem isContinuation_ofNat (n : Nat) : isContinuation (UInt8.ofNat (n % 64 + 128)) = true := by
  have value : (UInt8.ofNat (n % 64 + 128)).toNat = n % 64 + 128 := toNat_ofNat_of_lt (by omega)
  simp only [isContinuation, Bool.and_eq_true, decide_eq_true_eq, UInt8.le_iff_toNat_le, value]
  exact ⟨Nat.le_add_left _ _, by show n % 64 + 128 ≤ 191; omega⟩

theorem low_ofNat (n : Nat) : low (UInt8.ofNat (n % 64 + 128)) = n % 64 := by
  rw [low, toNat_ofNat_of_lt (by omega)]
  omega

theorem two?_form (above : 0x7F < v) (below : v ≤ 0x7FF) :
    two? (UInt8.ofNat (v / 64 % 32 + 192)) (UInt8.ofNat (v % 64 + 128)) = some (Char.ofNat v) := by
  have lead : (UInt8.ofNat (v / 64 % 32 + 192)).toNat = v / 64 % 32 + 192 :=
    toNat_ofNat_of_lt (by omega)
  have least : (0xC2 : UInt8) ≤ UInt8.ofNat (v / 64 % 32 + 192) := by
    rw [UInt8.le_iff_toNat_le, lead]
    show 194 ≤ _
    omega
  have greatest : UInt8.ofNat (v / 64 % 32 + 192) ≤ (0xDF : UInt8) := by
    rw [UInt8.le_iff_toNat_le, lead]
    show _ ≤ 223
    omega
  rw [two?, if_pos ⟨least, greatest, isContinuation_ofNat v⟩, lead, low_ofNat]
  congr 2
  omega

/-- A lead byte of a longer form leads no two-byte form. -/
theorem two?_eq_none (long : 0xDF < a) : two? a b = none := by
  apply if_neg
  rintro ⟨-, short, -⟩
  exact absurd short (UInt8.not_le.2 long)

theorem three?_form (above : 0x7FF < v) (below : v ≤ 0xFFFF) (scalar : v.isValidChar) :
    three? (UInt8.ofNat (v / 4096 % 16 + 224)) (UInt8.ofNat (v / 64 % 64 + 128))
      (UInt8.ofNat (v % 64 + 128)) = some (Char.ofNat v) := by
  have lead : (UInt8.ofNat (v / 4096 % 16 + 224)).toNat = v / 4096 % 16 + 224 :=
    toNat_ofNat_of_lt (by omega)
  have value : (v / 4096 % 16 + 224) % 16 * 4096 + v / 64 % 64 * 64 + v % 64 = v := by omega
  have least : (0xE0 : UInt8) ≤ UInt8.ofNat (v / 4096 % 16 + 224) := by
    rw [UInt8.le_iff_toNat_le, lead]
    exact Nat.le_add_left _ _
  have greatest : UInt8.ofNat (v / 4096 % 16 + 224) ≤ (0xEF : UInt8) := by
    rw [UInt8.le_iff_toNat_le, lead]
    show _ ≤ 239
    omega
  simp only [three?, lead, low_ofNat, value]
  refine if_pos ⟨least, greatest, isContinuation_ofNat _, isContinuation_ofNat _, above, ?_⟩
  unfold Nat.isValidChar at scalar
  omega

/-- A lead byte of a longer form leads no three-byte form. -/
theorem three?_eq_none {c : UInt8} (long : 0xEF < a) : three? a b c = none := by
  apply if_neg
  rintro ⟨-, short, -⟩
  exact absurd short (UInt8.not_le.2 long)

theorem four?_form (above : 0xFFFF < v) (below : v ≤ 0x10FFFF) :
    four? (UInt8.ofNat (v / 262144 % 8 + 240)) (UInt8.ofNat (v / 4096 % 64 + 128))
      (UInt8.ofNat (v / 64 % 64 + 128)) (UInt8.ofNat (v % 64 + 128)) = some (Char.ofNat v) := by
  have lead : (UInt8.ofNat (v / 262144 % 8 + 240)).toNat = v / 262144 % 8 + 240 :=
    toNat_ofNat_of_lt (by omega)
  have value : (v / 262144 % 8 + 240) % 8 * 262144 + v / 4096 % 64 * 4096 + v / 64 % 64 * 64 +
      v % 64 = v := by omega
  have least : (0xF0 : UInt8) ≤ UInt8.ofNat (v / 262144 % 8 + 240) := by
    rw [UInt8.le_iff_toNat_le, lead]
    exact Nat.le_add_left _ _
  have greatest : UInt8.ofNat (v / 262144 % 8 + 240) ≤ (0xF4 : UInt8) := by
    rw [UInt8.le_iff_toNat_le, lead]
    show _ ≤ 244
    omega
  simp only [four?, lead, low_ofNat, value]
  exact if_pos ⟨least, greatest, isContinuation_ofNat _, isContinuation_ofNat _,
    isContinuation_ofNat _, above, below⟩

end Forms

/-! ## Texts -/

section Steps

variable {a b c d : UInt8} {done : List Char} {rest : Bytes} {char : Char}

theorem decodeOnto_one (ascii : a < 0x80) :
    decodeOnto done (a :: rest) = decodeOnto (Char.ofNat a.toNat :: done) rest := by
  rw [decodeOnto.eq_def]
  exact if_pos ascii

theorem decodeOnto_two (marked : ¬ a < 0x80) (read : two? a b = some char) :
    decodeOnto done (a :: b :: rest) = decodeOnto (char :: done) rest := by
  rw [decodeOnto.eq_def]
  simp only [if_neg marked, read]

theorem decodeOnto_three (marked : ¬ a < 0x80) (long : two? a b = none)
    (read : three? a b c = some char) :
    decodeOnto done (a :: b :: c :: rest) = decodeOnto (char :: done) rest := by
  rw [decodeOnto.eq_def]
  simp only [if_neg marked, long, read]

theorem decodeOnto_four (marked : ¬ a < 0x80) (long : two? a b = none)
    (longer : three? a b c = none) (read : four? a b c d = some char) :
    decodeOnto done (a :: b :: c :: d :: rest) = decodeOnto (char :: done) rest := by
  rw [decodeOnto.eq_def]
  simp only [if_neg marked, long, longer, read]

end Steps

/-- **A character is read back.** -/
theorem decodeOnto_utf8EncodeChar (done : List Char) (char : Char) (rest : Bytes) :
    decodeOnto done (String.utf8EncodeChar char ++ rest) = decodeOnto (char :: done) rest := by
  have above (least : Nat) {n : Nat} (greater : least < n) (small : n < 256) :
      UInt8.ofNat least < UInt8.ofNat n := by
    rw [UInt8.lt_iff_toNat_lt, toNat_ofNat_of_lt small, toNat_ofNat_of_lt (by omega)]
    exact greater
  have marked {n : Nat} (greater : 0x7F < n) (small : n < 256) : ¬ UInt8.ofNat n < 0x80 := by
    rw [UInt8.lt_iff_toNat_lt, toNat_ofNat_of_lt small]
    exact Nat.not_lt.2 greater
  have scalar : char.toNat.isValidChar := char.valid
  have bound : char.toNat ≤ 0x10FFFF := by
    unfold Nat.isValidChar at scalar
    omega
  have back : Char.ofNat char.toNat = char := Char.ofNat_toNat char
  rw [utf8EncodeChar_eq]
  split
  · rename_i ascii
    have value : (UInt8.ofNat char.toNat).toNat = char.toNat := toNat_ofNat_of_lt (by omega)
    have small : UInt8.ofNat char.toNat < 0x80 := by
      rw [UInt8.lt_iff_toNat_lt, value]
      exact Nat.lt_succ_of_le ascii
    have read : decodeOnto done (UInt8.ofNat char.toNat :: rest) =
        decodeOnto (Char.ofNat (UInt8.ofNat char.toNat).toNat :: done) rest := decodeOnto_one small
    rwa [value, back] at read
  split
  · have read := two?_form (v := char.toNat) (by omega) (by omega)
    rw [back] at read
    exact decodeOnto_two (marked (by omega) (by omega)) read
  split
  · have read := three?_form (v := char.toNat) (by omega) (by omega) scalar
    rw [back] at read
    exact decodeOnto_three (marked (by omega) (by omega))
      (two?_eq_none (above 0xDF (by omega) (by omega))) read
  · have read := four?_form (v := char.toNat) (by omega) bound
    rw [back] at read
    exact decodeOnto_four (marked (by omega) (by omega))
      (two?_eq_none (above 0xDF (by omega) (by omega)))
      (three?_eq_none (above 0xEF (by omega) (by omega))) read

theorem encode_cons (c : Char) (text : List Char) :
    encode (c :: text) = String.utf8EncodeChar c ++ encode text := List.flatMap_cons

theorem encode_append (text more : List Char) :
    encode (text ++ more) = encode text ++ encode more := List.flatMap_append

theorem encode_cons_of_ascii {c : Char} (ascii : c.toNat ≤ 0x7F) (text : List Char) :
    encode (c :: text) = UInt8.ofNat c.toNat :: encode text := by
  rw [encode_cons, utf8EncodeChar_of_ascii ascii]
  rfl

theorem decodeOnto_encode (done text : List Char) :
    decodeOnto done (encode text) = some (done.reverse ++ text) := by
  induction text generalizing done with
  | nil => simp [encode, decodeOnto]
  | cons c text ih =>
      rw [encode_cons, decodeOnto_utf8EncodeChar, ih, List.reverse_cons, List.append_assoc]
      rfl

/-- **A text is read back from its bytes.** -/
@[simp] theorem decode?_encode (text : List Char) : decode? (encode text) = some text :=
  decodeOnto_encode [] text

/-! ## Lengths -/

theorem length_encode_nil : (encode []).length = 0 := rfl

theorem length_encode_cons (c : Char) (text : List Char) :
    (encode (c :: text)).length = c.utf8Size + (encode text).length := by
  rw [encode_cons, List.length_append, String.length_utf8EncodeChar]

theorem length_encode_append (text more : List Char) :
    (encode (text ++ more)).length = (encode text).length + (encode more).length := by
  rw [encode_append, List.length_append]

theorem length_encode_toList (text : String) : (encode text.toList).length = text.utf8ByteSize := by
  rw [← String.size_toByteArray, ← String.utf8Encode_toList, List.utf8Encode]
  simp [encode]

theorem length_encode_of_ascii {text : List Char} (ascii : ∀ c ∈ text, c.toNat ≤ 0x7F) :
    (encode text).length = text.length := by
  induction text with
  | nil => rfl
  | cons c text ih =>
      obtain ⟨first, others⟩ := List.forall_mem_cons.1 ascii
      rw [encode_cons_of_ascii first, List.length_cons, ih others, List.length_cons]

end ControlLink.Text.Utf8
