/-
# ControlLink.Proofs.Config.Address — what an address looks like

An address is four numbers of at most three digits, so it is short (`of_isAddress`). A prefix length
is a small number with any number of zeros in front (`of_isPrefixLength`), and so a network is short
up to those zeros (`checkNetwork_eq_ok_iff`, `of_checkNetwork`). Neither holds a character
that a document would escape (`Plain`).
-/
import ControlLink.Config.Validation
import ControlLink.Proofs.Decimal.Numeral
import ControlLink.Proofs.Text.Parts
import ControlLink.Proofs.Text.Utf8

namespace ControlLink.Config

set_option autoImplicit false

open Decimal

/-! ## Characters -/

/-- The characters of addresses and prefix lengths. -/
def Plain (text : List Char) : Prop := ∀ c ∈ text, isDigit c = true ∨ c = '.' ∨ c = '/' ∨ c = '+'

theorem plain_append {text more : List Char} : Plain (text ++ more) ↔ Plain text ∧ Plain more :=
  List.forall_mem_append

theorem plain_cons {c : Char} {text : List Char} :
    Plain (c :: text) ↔ (isDigit c = true ∨ c = '.' ∨ c = '/' ∨ c = '+') ∧ Plain text :=
  List.forall_mem_cons

theorem plain_of_decimal {text : List Char} (decimal : ∀ c ∈ text, isDigit c = true) : Plain text :=
  fun c member => .inl (decimal c member)

theorem plain_nil : Plain [] := nofun

theorem Plain.printable {text : List Char} (plain : Plain text) {c : Char} (member : c ∈ text) :
    0x20 ≤ c.toNat ∧ c.toNat ≤ 0x7F ∧ c ≠ '"' ∧ c ≠ '\\' := by
  rcases plain c member with digit | rfl | rfl | rfl
  · obtain ⟨least, greatest⟩ := isDigit_iff.1 digit
    refine ⟨by omega, by omega, ?_, ?_⟩
    · rintro rfl
      exact absurd least (by decide)
    · rintro rfl
      exact absurd greatest (by decide)
  · decide
  · decide
  · decide

theorem Plain.utf8ByteSize_eq {text : String} (plain : Plain text.toList) :
    text.utf8ByteSize = text.toList.length := by
  rw [← Text.Utf8.length_encode_toList,
    Text.Utf8.length_encode_of_ascii fun c member => (plain.printable member).2.1]

/-! ## Addresses -/

theorem of_octet? {text : List Char} (octet : (octet? text).isSome = true) :
    text.length ≤ 3 ∧ ∀ c ∈ text, isDigit c = true := by
  unfold octet? at octet
  split at octet
  · cases octet
  · split at octet
    next short =>
      cases read : numeral? text with
      | none => simp [read] at octet
      | some n => exact ⟨short, (numeral?_eq_some_iff.1 read).2.1⟩
    next => cases octet

/-- **An address is short and plain.** -/
theorem of_isAddress {text : List Char} (address : isAddress text = true) :
    text.length ≤ 15 ∧ Plain text := by
  unfold isAddress at address
  split at address
  next a b c d parts =>
    have whole := Text.intercalate_fields '.' text
    rw [parts, List.intercalate_cons_cons, List.intercalate_cons_cons, List.intercalate_cons_cons,
      List.intercalate_singleton] at whole
    simp only [List.all_cons, List.all_nil, Bool.and_true, Bool.and_eq_true] at address
    obtain ⟨first, second, third, fourth⟩ := address
    obtain ⟨a_short, a_decimal⟩ := of_octet? first
    obtain ⟨b_short, b_decimal⟩ := of_octet? second
    obtain ⟨c_short, c_decimal⟩ := of_octet? third
    obtain ⟨d_short, d_decimal⟩ := of_octet? fourth
    have point : Plain ['.'] := plain_cons.2 ⟨by decide, plain_nil⟩
    rw [← whole]
    constructor
    · simp only [List.length_append, List.length_singleton]
      omega
    · simp only [plain_append]
      exact ⟨⟨plain_of_decimal a_decimal, point⟩, ⟨plain_of_decimal b_decimal, point⟩,
        ⟨plain_of_decimal c_decimal, point⟩, plain_of_decimal d_decimal⟩
  next => cases address

theorem checkAddress_eq_ok_iff {field : Field} {text : String} :
    checkAddress field text = .ok () ↔ isAddress text.toList = true := by
  unfold checkAddress
  split <;> simp [*]

/-! ## Networks -/

/-- **A prefix length is short and plain but for the zeros in front of its number.** -/
theorem of_isPrefixLength {text : List Char} (valid : isPrefixLength text = true) :
    Plain text ∧ ∃ sign zeros number, text = sign ++ (List.replicate zeros '0' ++ number) ∧
      sign.length ≤ 1 ∧ number.length ≤ 2 := by
  obtain ⟨n, read⟩ := Option.isSome_iff_exists.1 valid
  obtain ⟨small, sign, digits, rfl, signed, value⟩ := bounded?_eq_some_iff.1 read
  obtain ⟨-, decimal, rfl⟩ := numeral?_eq_some_iff.1 value
  obtain ⟨zeros, number, rfl, short⟩ := exists_zeros 2 decimal (by omega)
  refine ⟨?_, sign, zeros, number, rfl, ?_, short⟩
  · refine plain_append.2 ⟨?_, plain_of_decimal decimal⟩
    rcases signed with rfl | rfl
    · exact plain_nil
    · exact plain_cons.2 ⟨by decide, plain_nil⟩
  · rcases signed with rfl | rfl <;> decide

theorem checkNetwork_eq_ok_iff {field : Field} {text : String} :
    checkNetwork field text = .ok () ↔ ∃ address length, text.toList = address ++ '/' :: length ∧
      '/' ∉ address ∧ isAddress address = true ∧ isPrefixLength length = true := by
  unfold checkNetwork
  cases cut : Text.cut? '/' text.toList with
  | none =>
      refine iff_of_false nofun ?_
      rintro ⟨address, length, whole, absent, -⟩
      rw [Text.cut?_eq_some_iff.2 ⟨whole, absent⟩] at cut
      cases cut
  | some parts =>
      obtain ⟨address, length⟩ := parts
      have known := Text.cut?_eq_some_iff.1 cut
      constructor
      · intro checked
        refine ⟨address, length, known.1, known.2, ?_⟩
        cases valid : isAddress address with
        | false => simp [valid] at checked
        | true =>
            cases counted : isPrefixLength length with
            | false => simp [valid, counted] at checked
            | true => exact ⟨rfl, rfl⟩
      · rintro ⟨front, back, whole, absent, valid, counted⟩
        rw [Text.cut?_eq_some_iff.2 ⟨whole, absent⟩] at cut
        cases cut
        simp [valid, counted]

/-- **All of a network but the zeros in front of its prefix length takes 19 bytes.** -/
theorem of_checkNetwork {field : Field} {text : String}
    (checked : checkNetwork field text = .ok ()) :
    Plain text.toList ∧ ∃ address sign zeros number,
      text.toList = address ++ '/' :: (sign ++ (List.replicate zeros '0' ++ number)) ∧
        isAddress address = true ∧ sign.length ≤ 1 ∧ number.length ≤ 2 ∧
        text.utf8ByteSize ≤ 19 + zeros := by
  obtain ⟨address, length, whole, -, valid, counted⟩ := checkNetwork_eq_ok_iff.1 checked
  obtain ⟨short, address_plain⟩ := of_isAddress valid
  obtain ⟨length_plain, sign, zeros, number, rfl, signed, few⟩ := of_isPrefixLength counted
  have plain : Plain text.toList := by
    rw [whole]
    exact plain_append.2 ⟨address_plain, plain_cons.2 ⟨by decide, length_plain⟩⟩
  refine ⟨plain, address, sign, zeros, number, whole, valid, signed, few, ?_⟩
  rw [plain.utf8ByteSize_eq, whole]
  simp only [List.length_append, List.length_cons, List.length_replicate]
  omega

end ControlLink.Config
