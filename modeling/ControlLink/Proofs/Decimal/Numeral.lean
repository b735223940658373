/-
# ControlLink.Proofs.Decimal.Numeral — what a numeral is

A numeral is a text of one or more digits, and its value is that of its digits in the decimal system
(`numeral?_eq_some_iff`). A bounded field takes a plus sign in front (`bounded?_eq_some_iff`). Zeros
in front do not count, so a small value does not make a short numeral: it only has few digits behind
its zeros (`exists_zeros`).
-/
import ControlLink.Decimal.Numeral
import Mathlib.Algebra.Ring.Nat

namespace ControlLink.Decimal

set_option autoImplicit false

theorem isDigit_iff {c : Char} : isDigit c = true ↔ 48 ≤ c.toNat ∧ c.toNat ≤ 57 := by
  rw [isDigit, Bool.and_eq_true, decide_eq_true_eq, decide_eq_true_eq]
  rfl

theorem digit?_eq_some_iff {c : Char} {d : Nat} :
    digit? c = some d ↔ isDigit c = true ∧ c.toNat - 48 = d := by
  unfold digit? isDigit
  split
  next decimal => simp [decimal]
  next other => simpa using fun least greatest => absurd ⟨least, greatest⟩ other

theorem extend?_eq_some_iff {value n : Nat} {text : List Char} : extend? value text = some n ↔
    (∀ c ∈ text, isDigit c = true) ∧ Nat.ofDigitChars 10 text value = n := by
  induction text generalizing value with
  | nil => simp [extend?]
  | cons c rest ih =>
      rw [extend?, List.forall_mem_cons, Nat.ofDigitChars_cons]
      cases read : digit? c with
      | none =>
          have other : ¬ isDigit c = true := fun decimal => by
            rw [digit?_eq_some_iff.2 ⟨decimal, rfl⟩] at read
            cases read
          simp [other]
      | some d =>
          obtain ⟨decimal, rfl⟩ := digit?_eq_some_iff.1 read
          simp only [ih, decimal, true_and]
          rfl

/-- **A numeral is one or more digits.** -/
theorem numeral?_eq_some_iff {text : List Char} {n : Nat} : numeral? text = some n ↔
    text ≠ [] ∧ (∀ c ∈ text, isDigit c = true) ∧ Nat.ofDigitChars 10 text 0 = n := by
  cases text with
  | nil => simp [numeral?]
  | cons c rest => simp [numeral?, extend?_eq_some_iff]

theorem bounded?_plus (bound : Nat) (rest : List Char) :
    bounded? bound ('+' :: rest) = (numeral? rest).filter (· ≤ bound) := by
  simp only [bounded?]
  cases numeral? rest with
  | none => rfl
  | some n => simp [Option.filter]

theorem bounded?_unsigned (bound : Nat) {text : List Char} (unsigned : ∀ rest, text ≠ '+' :: rest) :
    bounded? bound text = (numeral? text).filter (· ≤ bound) := by
  unfold bounded?
  split
  next rest => exact absurd rfl (unsigned rest)
  next =>
    simp only
    cases numeral? text with
    | none => rfl
    | some n => simp [Option.filter]

/-- **A bounded numeral is a numeral with an optional plus sign in front.** -/
theorem bounded?_eq_some_iff {bound n : Nat} {text : List Char} : bounded? bound text = some n ↔
    n ≤ bound ∧ ∃ sign digits, text = sign ++ digits ∧ (sign = [] ∨ sign = ['+']) ∧
      numeral? digits = some n := by
  constructor
  · intro read
    by_cases signed : ∃ rest, text = '+' :: rest
    · obtain ⟨rest, rfl⟩ := signed
      rw [bounded?_plus, Option.filter_eq_some_iff, decide_eq_true_eq] at read
      exact ⟨read.2, ['+'], rest, rfl, .inr rfl, read.1⟩
    · rw [bounded?_unsigned bound (fun rest same => signed ⟨rest, same⟩),
        Option.filter_eq_some_iff, decide_eq_true_eq] at read
      exact ⟨read.2, [], text, rfl, .inl rfl, read.1⟩
  · rintro ⟨inside, sign, digits, rfl, rfl | rfl, read⟩
    · have unsigned : ∀ rest, digits ≠ '+' :: rest := by
        rintro rest rfl
        cases read
      rw [List.nil_append, bounded?_unsigned bound unsigned, Option.filter_eq_some_iff]
      exact ⟨read, decide_eq_true inside⟩
    · rw [List.singleton_append, bounded?_plus, Option.filter_eq_some_iff]
      exact ⟨read, decide_eq_true inside⟩

theorem mul_pow_le_ofDigitChars (text : List Char) (value : Nat) :
    value * 10 ^ text.length ≤ Nat.ofDigitChars 10 text value := by
  induction text generalizing value with
  | nil => simp
  | cons c rest ih =>
      rw [Nat.ofDigitChars_cons, List.length_cons, Nat.pow_succ]
      refine Nat.le_trans ?_ (ih _)
      rw [Nat.mul_comm (10 ^ rest.length), ← Nat.mul_assoc, Nat.mul_comm value]
      exact Nat.mul_le_mul_right _ (Nat.le_add_right _ _)

/-- A small value has few digits behind the zeros in front. -/
theorem exists_zeros {text : List Char} (width : Nat) (decimal : ∀ c ∈ text, isDigit c = true)
    (small : Nat.ofDigitChars 10 text 0 < 10 ^ width) :
    ∃ zeros significant, text = List.replicate zeros '0' ++ significant ∧
      significant.length ≤ width := by
  induction text with
  | nil => exact ⟨0, [], rfl, Nat.zero_le _⟩
  | cons c rest ih =>
      obtain ⟨first, others⟩ := List.forall_mem_cons.1 decimal
      obtain ⟨least, greatest⟩ := isDigit_iff.1 first
      by_cases zero : c = '0'
      · subst zero
        obtain ⟨zeros, significant, rfl, short⟩ := ih others small
        exact ⟨zeros + 1, significant, rfl, short⟩
      · refine ⟨0, c :: rest, rfl, ?_⟩
        have positive : 1 ≤ c.toNat - 48 := by
          have other : c.toNat ≠ 48 := fun same => zero (Char.toNat_inj.1 same)
          omega
        have bounded : 10 ^ rest.length < 10 ^ width := by
          calc
            10 ^ rest.length ≤ (c.toNat - 48) * 10 ^ rest.length :=
                Nat.le_mul_of_pos_left _ positive
            _ ≤ Nat.ofDigitChars 10 rest (c.toNat - 48) := mul_pow_le_ofDigitChars rest _
            _ < 10 ^ width := by
              rw [Nat.ofDigitChars_cons, Nat.mul_zero, Nat.zero_add] at small
              exact small
        exact (Nat.pow_lt_pow_iff_right (by decide)).1 bounded

end ControlLink.Decimal
