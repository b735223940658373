/-
# ControlLink.Proofs.Json.Text — strings and integers are read as they were written

A string is written character by character, and each piece is read back as its character
(`spells_escape`): as a short escape, as four hexadecimal digits, or as its own bytes, none of which
is a quote, a backslash or a control character. So the reader of a string stops at its closing quote
and nowhere else (`stringBody_quoted`).

An integer is written in decimal digits without a leading zero. They are read up to the first byte
that is no digit (`unsignedNumber_digits`), so what follows a number must not go on with one
(`Ends`).
-/
import ControlLink.Json.Parser
import ControlLink.Json.Printer
import ControlLink.Proofs.Text.Utf8

namespace ControlLink

set_option autoImplicit false

namespace Text.Hex

theorem digit?_lowerDigit : ∀ d < 16, digit? (lowerDigit d) = some d := by decide

theorem toNat_lowerDigit_le : ∀ d < 16, (lowerDigit d).toNat ≤ 0x7F := by decide

/-- Four digits, from the most significant down. -/
theorem lower_four (n : Nat) : lower 4 n =
    [lowerDigit (n / 4096 % 16), lowerDigit (n / 256 % 16), lowerDigit (n / 16 % 16),
      lowerDigit (n % 16)] := by
  simp only [lower, List.nil_append, List.cons_append, Nat.div_div_eq_div_mul]

end Text.Hex

namespace Json

open Decimal Text Text.Utf8

/-! ## Escapes -/

theorem hexFour?_lowerDigit {a b c d : Nat} (a_lt : a < 16) (b_lt : b < 16) (c_lt : c < 16)
    (d_lt : d < 16) :
    hexFour? (UInt8.ofNat (Hex.lowerDigit a).toNat) (UInt8.ofNat (Hex.lowerDigit b).toNat)
      (UInt8.ofNat (Hex.lowerDigit c).toNat) (UInt8.ofNat (Hex.lowerDigit d).toNat) =
      some ((a * 16 + b) * 256 + (c * 16 + d)) := by
  have value {n : Nat} (small : n < 16) :
      Hex.digit? (Char.ofNat (UInt8.ofNat (Hex.lowerDigit n).toNat).toNat) = some n := by
    have ascii := Hex.toNat_lowerDigit_le n small
    rw [toNat_ofNat_of_lt (by omega), Char.ofNat_toNat, Hex.digit?_lowerDigit n small]
  simp only [hexFour?, value a_lt, value b_lt, value c_lt, value d_lt]
  rfl

theorem hexEscape_lower {n : Nat} (small : n < 0x10000) (rest : Bytes) :
    hexEscape (encode (Hex.lower 4 n) ++ rest) = .ok (n, rest) := by
  have ascii (m : Nat) : (Hex.lowerDigit (m % 16)).toNat ≤ 0x7F :=
    Hex.toNat_lowerDigit_le _ (Nat.mod_lt _ (by decide))
  have whole : (n / 4096 % 16 * 16 + n / 256 % 16) * 256 + (n / 16 % 16 * 16 + n % 16) = n := by
    omega
  rw [Hex.lower_four, encode_cons_of_ascii (ascii _), encode_cons_of_ascii (ascii _),
    encode_cons_of_ascii (ascii _), encode_cons_of_ascii (ascii _)]
  simp only [encode, List.flatMap_nil, List.cons_append, List.nil_append, hexEscape]
  rw [hexFour?_lowerDigit (by omega) (by omega) (by omega) (by omega), whole]

/-- The escape of a character that is no surrogate. -/
theorem unicodeEscape_lower {n : Nat} (small : n < 0xD800) (rest : Bytes) :
    unicodeEscape (encode (Hex.lower 4 n) ++ rest) = .ok (Char.ofNat n, rest) := by
  simp only [unicodeEscape, hexEscape_lower (show n < 0x10000 by omega)]
  rw [if_neg (by omega), if_neg (by omega)]

/-! ## Strings -/

/-- A byte that stands for itself in a string. -/
def IsPlain (b : UInt8) : Prop := b ≠ '"'.toUInt8 ∧ b ≠ '\\'.toUInt8 ∧ 0x20 ≤ b

theorem stringBytes_plain {b : UInt8} (plain : IsPlain b) (fuel : Nat) (done rest : Bytes) :
    stringBytes (fuel + 1) done (b :: rest) = stringBytes fuel (b :: done) rest := by
  obtain ⟨no_quote, no_escape, printable⟩ := plain
  rw [stringBytes, if_neg no_quote, if_neg no_escape, if_neg (UInt8.not_lt.2 printable)]

theorem stringBytes_plain_append {bytes : Bytes} (plain : ∀ b ∈ bytes, IsPlain b) (fuel : Nat)
    (done rest : Bytes) :
    stringBytes (fuel + bytes.length) done (bytes ++ rest) =
      stringBytes fuel (bytes.reverse ++ done) rest := by
  induction bytes generalizing done with
  | nil => rfl
  | cons b bytes ih =>
      obtain ⟨first, others⟩ := List.forall_mem_cons.1 plain
      rw [List.length_cons, ← Nat.add_assoc, List.cons_append, stringBytes_plain first, ih others,
        List.reverse_cons, List.append_assoc]
      rfl

theorem stringBytes_escape {c : Char} {input rest : Bytes} (read : escaped input = .ok (c, rest))
    (fuel : Nat) (done : Bytes) :
    stringBytes (fuel + 1) done ('\\'.toUInt8 :: input) =
      stringBytes fuel ((String.utf8EncodeChar c).reverse ++ done) rest := by
  rw [stringBytes, if_neg (by decide), if_pos rfl, read]

/-- Inside a string these bytes are read as this character, in no more steps than there are
bytes. -/
def Spells (bytes : Bytes) (c : Char) : Prop :=
  ∃ steps, steps ≤ bytes.length ∧ ∀ (fuel : Nat) (done rest : Bytes),
    stringBytes (fuel + steps) done (bytes ++ rest) =
      stringBytes fuel ((String.utf8EncodeChar c).reverse ++ done) rest

theorem spells_of_escaped {c : Char} {bytes : Bytes}
    (read : ∀ rest, escaped (bytes ++ rest) = .ok (c, rest)) :
    Spells ('\\'.toUInt8 :: bytes) c :=
  ⟨1, Nat.succ_le_succ (Nat.zero_le _), fun fuel done rest =>
    stringBytes_escape (read rest) fuel done⟩

/-- A character that needs no escape spells itself. -/
theorem spells_utf8EncodeChar {c : Char} (no_quote : c ≠ '"') (no_escape : c ≠ '\\')
    (printable : 0x20 ≤ c.toNat) : Spells (String.utf8EncodeChar c) c := by
  refine ⟨_, Nat.le_refl _, fun fuel done rest => stringBytes_plain_append ?_ fuel done rest⟩
  by_cases ascii : c.toNat ≤ 0x7F
  · have other {d : Char} (differs : c ≠ d) (small : d.toNat ≤ 0x7F) :
        UInt8.ofNat c.toNat ≠ UInt8.ofNat d.toNat := by
      intro same
      apply differs
      have values := congrArg UInt8.toNat same
      rw [toNat_ofNat_of_lt (by omega), toNat_ofNat_of_lt (by omega)] at values
      rw [← Char.ofNat_toNat c, values, Char.ofNat_toNat]
    rw [utf8EncodeChar_of_ascii ascii]
    intro b member
    obtain rfl := List.mem_singleton.1 member
    refine ⟨other no_quote (by decide), other no_escape (by decide), ?_⟩
    rw [UInt8.le_iff_toNat_le, toNat_ofNat_of_lt (by omega)]
    exact printable
  · intro b member
    have marked := UInt8.le_iff_toNat_le.1 (le_of_mem_utf8EncodeChar (by omega) member)
    have high : 128 ≤ b.toNat := marked
    refine ⟨?_, ?_, ?_⟩
    · rintro rfl
      exact absurd high (by decide)
    · rintro rfl
      exact absurd high (by decide)
    · rw [UInt8.le_iff_toNat_le]
      exact Nat.le_trans (by decide) high

/-- **Every character is read back from its piece of a string.** -/
theorem spells_escape (c : Char) : Spells (encode (escape c)) c := by
  rw [escape]
  split
  · subst c
    exact spells_of_escaped fun rest => rfl
  rename_i no_quote
  split
  · subst c
    exact spells_of_escaped fun rest => rfl
  rename_i no_escape
  split
  · rename_i printable
    have self : encode [c] = String.utf8EncodeChar c := List.append_nil _
    rw [self]
    exact spells_utf8EncodeChar no_quote no_escape printable
  rename_i control
  split
  · subst c
    exact spells_of_escaped fun rest => rfl
  split
  · subst c
    exact spells_of_escaped fun rest => rfl
  split
  · subst c
    exact spells_of_escaped fun rest => rfl
  split
  · subst c
    exact spells_of_escaped fun rest => rfl
  split
  · subst c
    exact spells_of_escaped fun rest => rfl
  have text : encode ('\\' :: 'u' :: Hex.lower 4 c.toNat) =
      '\\'.toUInt8 :: 'u'.toUInt8 :: encode (Hex.lower 4 c.toNat) := rfl
  rw [text]
  apply spells_of_escaped
  intro rest
  rw [List.cons_append, escaped, if_pos rfl, unicodeEscape_lower (by omega), Char.ofNat_toNat]

theorem stringBytes_flatMap_escape (text : List Char) (fuel : Nat) (done rest : Bytes)
    (enough : (encode (text.flatMap escape)).length < fuel) :
    stringBytes fuel done (encode (text.flatMap escape) ++ '"'.toUInt8 :: rest) =
      .ok (done.reverse ++ encode text, rest) := by
  induction text generalizing fuel done with
  | nil =>
      obtain ⟨fuel, rfl⟩ : ∃ more, fuel = more + 1 := ⟨fuel - 1, by omega⟩
      exact congrArg (fun bytes => Except.ok (bytes, rest)) (List.append_nil _).symm
  | cons c text ih =>
      obtain ⟨steps, few, read⟩ := spells_escape c
      rw [List.flatMap_cons, encode_append, List.length_append] at enough
      obtain ⟨fuel, rfl⟩ : ∃ more, fuel = more + steps := ⟨fuel - steps, by omega⟩
      rw [List.flatMap_cons, encode_append, List.append_assoc, read, ih _ _ (by omega),
        List.reverse_append, List.reverse_reverse, List.append_assoc, encode_cons]

/-- The bytes of a string behind its opening quote. -/
theorem encode_quoted (text : String) (rest : Bytes) : encode (quoted text) ++ rest =
    '"'.toUInt8 :: (encode (text.toList.flatMap escape) ++ '"'.toUInt8 :: rest) := by
  rw [quoted, List.cons_append, encode_cons, encode_append, List.append_assoc, List.append_assoc]
  rfl

/-- **A string is read back from its text.** -/
theorem stringBody_quoted (text : String) (rest : Bytes) :
    stringBody (encode (text.toList.flatMap escape) ++ '"'.toUInt8 :: rest) = .ok (text, rest) := by
  have read := stringBytes_flatMap_escape text.toList
    (encode (text.toList.flatMap escape) ++ '"'.toUInt8 :: rest).length [] rest
    (by rw [List.length_append, List.length_cons]; omega)
  rw [stringBody, read]
  simp only [List.reverse_nil, List.nil_append, decode?_encode, String.ofList_toList]

/-! ## Integers -/

/-- What follows a number neither goes on with its digits nor adds a fraction or an exponent. -/
def Ends (rest : Bytes) : Prop :=
  ∀ b ∈ rest.head?, isDigitByte b = false ∧ b ≠ '.'.toUInt8 ∧ b ≠ 'e'.toUInt8 ∧ b ≠ 'E'.toUInt8

theorem ends_nil : Ends [] := nofun

/-- The byte of a digit. -/
theorem isDigitByte_ofNat {c : Char} (decimal : c.isDigit = true) :
    isDigitByte (UInt8.ofNat c.toNat) = true := by
  obtain ⟨least, greatest⟩ := Char.isDigit_iff_toNat.1 decimal
  have small : c.toNat ≤ 57 := greatest
  simp only [isDigitByte, Bool.and_eq_true, decide_eq_true_eq, UInt8.le_iff_toNat_le]
  rw [toNat_ofNat_of_lt (by omega)]
  exact ⟨least, greatest⟩

/-- The digits at the front of a text in front of anything else. -/
theorem takeDigits_append {cs : List Char} (decimal : ∀ c ∈ cs, c.isDigit = true) {rest : Bytes}
    (ends : Ends rest) :
    takeDigits (encode cs ++ rest) = (cs.map (·.toNat - 48), rest) := by
  induction cs with
  | nil =>
      cases rest with
      | nil => rfl
      | cons b rest =>
          have other := (ends b rfl).1
          simp [takeDigits, encode, other]
  | cons c cs ih =>
      obtain ⟨first, others⟩ := List.forall_mem_cons.1 decimal
      have small : c.toNat ≤ 57 := (Char.isDigit_iff_toNat.1 first).2
      have value : (UInt8.ofNat c.toNat).toNat = c.toNat := toNat_ofNat_of_lt (by omega)
      obtain ⟨taken, left⟩ := Prod.mk.inj (ih others)
      rw [encode_cons_of_ascii (by omega), List.cons_append, takeDigits,
        List.takeWhile_cons_of_pos (isDigitByte_ofNat first),
        List.dropWhile_cons_of_pos (isDigitByte_ofNat first), List.map_cons, value, taken, left]
      rfl

theorem le_ofDigitChars (cs : List Char) (start : Nat) : start ≤ Nat.ofDigitChars 10 cs start := by
  induction cs generalizing start with
  | nil => exact Nat.le_refl _
  | cons c cs ih =>
      rw [Nat.ofDigitChars_cons]
      exact Nat.le_trans (by omega) (ih _)

/-- A number of 64 bits is read without dropping a digit. -/
theorem appendDigits_of_lt (cs : List Char) (start : Nat)
    (fits : Nat.ofDigitChars 10 cs start < 0x10000000000000000) :
    appendDigits start (cs.map (·.toNat - 48)) = (Nat.ofDigitChars 10 cs start, 0) := by
  induction cs generalizing start with
  | nil => rfl
  | cons c cs ih =>
      rw [Nat.ofDigitChars_cons, Nat.mul_comm] at fits ⊢
      have room : start * 10 + (c.toNat - 48) < 1 <<< 64 :=
        Nat.lt_of_le_of_lt (le_ofDigitChars cs _) fits
      rw [List.map_cons, appendDigits, if_pos room]
      exact ih _ fits

theorem digits_isDigit (n : Nat) : ∀ c ∈ digits n, c.isDigit = true := fun _ member =>
  Nat.isDigit_of_mem_toDigits (by decide) (by decide) member

/-- Only zero is written with a zero in front. -/
theorem head_digits_ne {n : Nat} (positive : 0 < n) (tail : List Char) :
    digits n ≠ '0' :: tail := by
  induction n using Nat.strongRecOn generalizing tail with
  | ind n ih =>
      by_cases small : n < 10
      · have single : ∀ d < 10, 0 < d → Nat.digitChar d ≠ '0' := by decide
        rw [digits, Nat.toDigits_of_lt_base small]
        intro same
        exact single n small positive (List.head_eq_of_cons_eq same)
      · have split : digits n = digits (n / 10) ++ [(n % 10).digitChar] :=
          Nat.toDigits_of_base_le (by decide) (Nat.le_of_not_lt small)
        rw [split]
        cases high : digits (n / 10) with
        | nil => exact absurd high Nat.toDigits_ne_nil
        | cons c high' =>
            intro same
            obtain rfl := List.head_eq_of_cons_eq same
            exact ih (n / 10) (by omega) (by omega) high' high

theorem unsignedNumber_of_taken (negative : Bool) {input rest : Bytes} {digit significand : Nat}
    {others : List Nat} (taken : takeDigits input = (digit :: others, rest))
    (no_zero : digit = 0 → others = [])
    (read : appendDigits 0 (digit :: others) = (significand, 0)) :
    unsignedNumber negative input = afterInteger negative significand 0 rest := by
  unfold unsignedNumber
  rw [taken]
  cases digit with
  | zero =>
      rw [no_zero rfl] at read ⊢
      cases input <;> simp only [read]
  | succ digit => cases input <;> simp only [read]

/-- **The digits of a number of 64 bits are read as that number**, up to what follows them. -/
theorem unsignedNumber_digits (negative : Bool) {n : Nat} (fits : n < 0x10000000000000000)
    {rest : Bytes} (ends : Ends rest) :
    unsignedNumber negative (encode (digits n) ++ rest) = afterInteger negative n 0 rest := by
  have taken := takeDigits_append (digits_isDigit n) ends
  have value : Nat.ofDigitChars 10 (digits n) 0 = n := Nat.ofDigitChars_ten_toDigits
  have read : appendDigits 0 ((digits n).map (·.toNat - 48)) = (n, 0) := by
    rw [appendDigits_of_lt _ _ (by rw [value]; exact fits), value]
  cases written : digits n with
  | nil => exact absurd written Nat.toDigits_ne_nil
  | cons c cs =>
      have no_zero : c.toNat - 48 = 0 → cs.map (·.toNat - 48) = [] := by
        intro low
        have least : 48 ≤ c.toNat :=
          (Char.isDigit_iff_toNat.1 (digits_isDigit n c (written ▸ List.mem_cons_self))).1
        have code : c.toNat = 48 := by omega
        have zero : c = '0' := Char.toNat_inj.1 code
        rcases Nat.eq_zero_or_pos n with rfl | positive
        · cases written
          rfl
        · exact absurd (zero ▸ written) (head_digits_ne positive cs)
      rw [written] at taken read
      exact unsignedNumber_of_taken negative taken no_zero read

theorem afterInteger_of_ends (negative : Bool) (significand dropped : Nat) {rest : Bytes}
    (ends : Ends rest) :
    afterInteger negative significand dropped rest =
      (wholeNumber negative significand dropped).map (·, rest) := by
  cases rest with
  | nil => rfl
  | cons b rest =>
      obtain ⟨-, no_point, no_small, no_capital⟩ := ends b rfl
      rw [afterInteger, if_neg no_point, if_neg (not_or.2 ⟨no_small, no_capital⟩)]

theorem wholeNumber_of_fits {negative : Bool} {n : Nat} {value : Int} (fits : Fits value)
    (signed : (if negative then -n else n : Int) = value)
    (no_minus_zero : ¬ (negative = true ∧ n = 0)) :
    wholeNumber negative n 0 = .ok (.integer value fits) := by
  subst signed
  rw [wholeNumber, if_pos ⟨rfl, no_minus_zero⟩, Number.ofInt?, dif_pos fits]

/-- **An integer without a sign is read back from its digits.** -/
theorem unsignedNumber_of_nonneg {n : Int} (fits : Fits n) (nonneg : 0 ≤ n) {rest : Bytes}
    (ends : Ends rest) :
    unsignedNumber false (encode (digits n.natAbs) ++ rest) = .ok (.integer n fits, rest) := by
  have bounds := fits
  unfold Fits at bounds
  have value : wholeNumber false n.natAbs 0 = .ok (.integer n fits) :=
    wholeNumber_of_fits fits (Int.natAbs_of_nonneg nonneg) (by simp)
  rw [unsignedNumber_digits false (by omega) ends, afterInteger_of_ends _ _ _ ends, value]
  rfl

/-- **A negative integer is read back from its digits** behind the sign. -/
theorem unsignedNumber_of_neg {n : Int} (fits : Fits n) (negative : n < 0) {rest : Bytes}
    (ends : Ends rest) :
    unsignedNumber true (encode (digits n.natAbs) ++ rest) = .ok (.integer n fits, rest) := by
  have bounds := fits
  unfold Fits at bounds
  have value : wholeNumber true n.natAbs 0 = .ok (.integer n fits) :=
    wholeNumber_of_fits fits (by rw [if_pos rfl]; omega) (by omega)
  rw [unsignedNumber_digits true (by omega) ends, afterInteger_of_ends _ _ _ ends, value]
  rfl

end Json

end ControlLink
