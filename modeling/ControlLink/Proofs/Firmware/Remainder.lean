/-
# ControlLink.Proofs.Firmware.Remainder — the checksum is the remainder of a division

Bits are the coefficients of a polynomial over GF(2), from the highest power down (`descending`).
A register counts by its polynomial with the lowest bit first (`reflected`), and of that only what
is left modulo the generator (`held`), in the ring where the generator is zero. There a bit is
shifted out by a multiplication with the indeterminate (`held_shiftOut`): the constant that the
register takes in for a bit that is set is what the highest power is worth. A byte adds itself
behind what is held (`held_absorb`), so in the end the register holds the whole string behind its
initial bits (`held_foldl`), and as its polynomial has a lower degree than the generator, it is the
remainder (`reflected_eq_mod`).
-/
import ControlLink.Firmware.Image
import Mathlib.Algebra.Field.ZMod
import Mathlib.RingTheory.AdjoinRoot

namespace ControlLink.Firmware

set_option autoImplicit false

open Polynomial

/-! ## Bits as coefficients -/

/-- The bits of a word, the least significant first. -/
def lowFirst {width : Nat} (word : BitVec width) : List Bool :=
  List.ofFn fun i : Fin width => word[i]

/-- The bits of the bytes in order, each byte with the least significant first. -/
def bits (data : Bytes) : List Bool := data.flatMap fun b => lowFirst b.toBitVec

def coefficient (bit : Bool) : ZMod 2 := if bit then 1 else 0

/-- The polynomial whose coefficients are these bits in descending order. -/
noncomputable def descending : List Bool → (ZMod 2)[X]
  | [] => 0
  | bit :: rest => C (coefficient bit) * X ^ rest.length + descending rest

/-- The word of the low coefficients of a polynomial, each at the place of its power. -/
noncomputable def lowWord : (width : Nat) → (ZMod 2)[X] → BitVec width
  | 0, _ => 0#0
  | width + 1, p => (lowWord width p).cons (p.coeff width == 1)

@[simp] theorem length_lowFirst {width : Nat} (word : BitVec width) :
    (lowFirst word).length = width := List.length_ofFn

@[simp] theorem length_bits (data : Bytes) : (bits data).length = 8 * data.length := by
  simp [bits, List.length_flatMap, Nat.mul_comm]

theorem bits_cons (b : UInt8) (data : Bytes) :
    bits (b :: data) = lowFirst b.toBitVec ++ bits data := List.flatMap_cons

theorem coefficient_xor (a b : Bool) : coefficient (a ^^ b) = coefficient a + coefficient b := by
  revert a b
  decide

theorem coefficient_beq_one (bit : Bool) : (coefficient bit == 1) = bit := by
  revert bit
  decide

theorem descending_append (front back : List Bool) :
    descending (front ++ back) = descending front * X ^ back.length + descending back := by
  induction front with
  | nil => simp [descending]
  | cons bit front ih =>
      rw [List.cons_append, descending, ih, descending, List.length_append]
      ring

theorem descending_replicate_true (count : Nat) :
    descending (List.replicate count true) = ∑ i ∈ Finset.range count, X ^ i := by
  induction count with
  | zero => rfl
  | succ count ih =>
      rw [List.replicate_succ, descending, ih, List.length_replicate, Finset.sum_range_succ,
        coefficient, if_pos rfl, C_1, one_mul, add_comm]

/-- The last bit is the lowest coefficient. -/
theorem coeff_descending (list : List Bool) (power : Nat) :
    (descending list).coeff power = coefficient (list.reverse[power]?.getD false) := by
  induction list with
  | nil => simp [descending, coefficient]
  | cons bit rest ih =>
      rw [descending, coeff_add, ih, coeff_C_mul_X_pow, List.reverse_cons, List.getElem?_append,
        List.length_reverse]
      rcases Nat.lt_trichotomy power rest.length with below | rfl | above
      · rw [if_neg (Nat.ne_of_lt below), if_pos below, zero_add]
      · simp [coefficient]
      · have beyond : 0 < power - rest.length := Nat.sub_pos_of_lt above
        rw [if_neg (Nat.ne_of_gt above), if_neg (Nat.lt_asymm above), zero_add,
          List.getElem?_eq_none (by rw [List.length_reverse]; exact Nat.le_of_lt above),
          List.getElem?_eq_none (by rw [List.length_singleton]; exact beyond)]

theorem degree_descending_lt (list : List Bool) : (descending list).degree < list.length := by
  rw [degree_lt_iff_coeff_zero]
  intro power above
  rw [coeff_descending, List.getElem?_eq_none (by rwa [List.length_reverse])]
  rfl

theorem getLsbD_lowWord (width : Nat) (p : (ZMod 2)[X]) (i : Nat) :
    (lowWord width p).getLsbD i = (decide (i < width) && p.coeff i == 1) := by
  induction width with
  | zero => simp [lowWord]
  | succ width ih =>
      rw [lowWord, BitVec.getLsbD_cons, ih]
      split
      next here => simp [here]
      next elsewhere => simp [show i < width + 1 ↔ i < width by omega]

/-! ## Words as polynomials -/

/-- A word as a polynomial in which its lowest bit belongs to the highest power. -/
noncomputable def reflected {width : Nat} (word : BitVec width) : (ZMod 2)[X] :=
  descending (lowFirst word)

section Reflected

variable {width : Nat}

theorem coeff_reflected (word : BitVec width) (power : Nat) :
    (reflected word).coeff power = coefficient (word.getMsbD power) := by
  rw [reflected, coeff_descending]
  congr 1
  by_cases inside : power < width
  · simp [lowFirst, inside, BitVec.getMsbD_eq_getLsbD, ← BitVec.getLsbD_eq_getElem]
  · simp [lowFirst, inside, BitVec.getMsbD_eq_getLsbD]

theorem degree_reflected_lt (word : BitVec width) : (reflected word).degree < width := by
  have degree := degree_descending_lt (lowFirst word)
  rwa [length_lowFirst] at degree

theorem reflected_xor (a b : BitVec width) :
    reflected (a ^^^ b) = reflected a + reflected b := by
  ext power
  rw [coeff_add, coeff_reflected, coeff_reflected, coeff_reflected, BitVec.getMsbD_xor,
    coefficient_xor]

/-- A word is read back from its polynomial. -/
theorem reverse_lowWord_reflected (word : BitVec width) :
    (lowWord width (reflected word)).reverse = word := by
  apply BitVec.eq_of_getMsbD_eq
  intro i inside
  rw [BitVec.getMsbD_reverse, getLsbD_lowWord, coeff_reflected, coefficient_beq_one,
    decide_eq_true inside, Bool.true_and]

/-- The bit that leaves a word at its low end is worth the power behind its highest. -/
theorem X_mul_reflected (word : BitVec width) : X * reflected word =
    reflected (word >>> 1) + C (coefficient (word.getLsbD 0)) * X ^ width := by
  ext power
  rw [coeff_add, coeff_C_mul_X_pow, coeff_reflected, BitVec.getMsbD_ushiftRight]
  cases power with
  | zero =>
      cases width with
      | zero => simp [coefficient]
      | succ width => simp [coefficient]
  | succ power =>
      rw [coeff_X_mul, coeff_reflected, Nat.add_sub_cancel]
      rcases Nat.lt_trichotomy (power + 1) width with inside | rfl | outside
      · simp [inside, Nat.ne_of_lt inside]
      · simp [coefficient, BitVec.getMsbD_eq_getLsbD]
      · simp [coefficient, BitVec.getMsbD_of_ge, Nat.ne_of_gt outside, Nat.lt_asymm outside,
          Nat.le_of_lt_succ outside]

/-- A byte at the low end of a register. -/
theorem reflected_byte (b : UInt8) :
    reflected b.toUInt32.toBitVec = reflected b.toBitVec * X ^ 24 := by
  ext power
  rw [coeff_mul_X_pow', coeff_reflected, coeff_reflected, UInt8.toBitVec_toUInt32,
    BitVec.getMsbD_setWidth]
  by_cases high : 24 ≤ power
  · simp [high]
  · simp [high, coefficient]

end Reflected

/-! ## The generator -/

/-- The generator of the checksum of IEEE 802.3. -/
noncomputable def generator : (ZMod 2)[X] :=
  X ^ 32 + X ^ 26 + X ^ 23 + X ^ 22 + X ^ 16 + X ^ 12 + X ^ 11 + X ^ 10 + X ^ 8 + X ^ 7 + X ^ 5 +
    X ^ 4 + X ^ 2 + X + 1

/-- The constant of the register is the generator without its highest power. -/
theorem generator_eq : generator = X ^ 32 - reflected polynomial.toBitVec := by
  have list : lowFirst polynomial.toBitVec =
      [false, false, false, false, false, true, false, false, true, true, false, false, false,
        false, false, true, false, false, false, true, true, true, false, true, true, false, true,
        true, false, true, true, true] := by decide
  simp only [generator, CharTwo.sub_eq_add, reflected, list, descending, coefficient, if_true,
    Bool.false_eq_true, if_false, C_0, C_1, List.length_cons, List.length_nil, zero_mul, zero_add]
  ring

theorem degree_generator : generator.degree = (32 : Nat) := by
  rw [generator_eq, degree_sub_eq_left_of_degree_lt, degree_X_pow]
  rw [degree_X_pow]
  exact degree_reflected_lt polynomial.toBitVec

/-! ## The register -/

open AdjoinRoot (root mk)

/-- What a register holds: its polynomial, up to multiples of the generator. -/
noncomputable def held (register : UInt32) : AdjoinRoot generator :=
  mk generator (reflected register.toBitVec)

theorem held_xor (a b : UInt32) : held (a ^^^ b) = held a + held b := by
  rw [held, UInt32.toBitVec_xor, reflected_xor, map_add]
  rfl

theorem held_polynomial : held polynomial = root generator ^ 32 := by
  have zero : mk generator (X ^ 32 - reflected polynomial.toBitVec) = 0 := by
    rw [← generator_eq, AdjoinRoot.mk_self]
  rw [map_sub, map_pow, AdjoinRoot.mk_X, sub_eq_zero] at zero
  exact zero.symm

/-- A register with all bits set. -/
theorem held_ones : held 0xFFFFFFFF = mk generator (∑ i ∈ Finset.range 32, X ^ i) := by
  have list : lowFirst (0xFFFFFFFF : UInt32).toBitVec = List.replicate 32 true := by decide
  rw [held, reflected, list, descending_replicate_true]

theorem low_bit_iff (register : UInt32) :
    register &&& 1 = 1 ↔ register.toBitVec.getLsbD 0 = true := by
  have low : (register &&& 1).toBitVec =
      (BitVec.ofBool (register.toBitVec.getLsbD 0)).setWidth 32 := by
    rw [UInt32.toBitVec_and]
    exact BitVec.and_one_eq_setWidth_ofBool_getLsbD
  rw [← UInt32.toBitVec_inj, low]
  cases register.toBitVec.getLsbD 0 <;> decide

/-- **A bit is shifted out by a multiplication.** -/
theorem held_shiftOut (register : UInt32) :
    held (shiftOut register) = root generator * held register := by
  have shifted : (register >>> 1).toBitVec = register.toBitVec >>> 1 := by
    rw [UInt32.toBitVec_shiftRight]
    rfl
  have product : root generator * held register = held (register >>> 1) +
      mk generator (C (coefficient (register.toBitVec.getLsbD 0))) * root generator ^ 32 := by
    rw [held, ← AdjoinRoot.mk_X, ← map_mul, X_mul_reflected, held, shifted, map_add, map_mul,
      map_pow]
  rw [product, shiftOut]
  split
  next set =>
    rw [(low_bit_iff register).1 set, held_xor, held_polynomial]
    simp [coefficient]
  next clear =>
    rw [Bool.eq_false_of_not_eq_true (mt (low_bit_iff register).2 clear)]
    simp [coefficient]

theorem held_shiftOutMany (count : Nat) (register : UInt32) :
    held (shiftOutMany count register) = root generator ^ count * held register := by
  induction count generalizing register with
  | zero => simp [shiftOutMany]
  | succ count ih => rw [shiftOutMany, ih, held_shiftOut, pow_succ, mul_assoc]

/-- **A byte is taken in behind what is held.** -/
theorem held_absorb (register : UInt32) (b : UInt8) : held (absorb register b) =
    root generator ^ 8 * held register + mk generator (reflected b.toBitVec * X ^ 32) := by
  have byte : held b.toUInt32 = mk generator (reflected b.toBitVec) * root generator ^ 24 := by
    rw [held, reflected_byte, map_mul, map_pow, AdjoinRoot.mk_X]
  rw [absorb, held_shiftOutMany, held_xor, byte, map_mul, map_pow, AdjoinRoot.mk_X]
  ring

/-- **A byte string is taken in behind what is held.** -/
theorem held_foldl (data : Bytes) (register : UInt32) : held (data.foldl absorb register) =
    root generator ^ (8 * data.length) * held register +
      mk generator (descending (bits data) * X ^ 32) := by
  induction data generalizing register with
  | nil => simp [bits, descending]
  | cons b data ih =>
      rw [List.foldl_cons, ih, held_absorb, bits_cons, descending_append, length_bits,
        List.length_cons]
      simp only [map_mul, map_add, map_pow, AdjoinRoot.mk_X, reflected]
      ring

/-- The polynomial of a register is the remainder of each polynomial that it holds. -/
theorem reflected_eq_mod {register : UInt32} {p : (ZMod 2)[X]}
    (same : held register = mk generator p) : reflected register.toBitVec = p % generator := by
  have low : (reflected register.toBitVec).degree < generator.degree := by
    rw [degree_generator]
    exact degree_reflected_lt register.toBitVec
  have nonzero : generator ≠ 0 := ne_zero_of_degree_gt low
  rw [← mod_eq_of_dvd_sub (AdjoinRoot.mk_eq_mk.1 same), (mod_eq_self_iff nonzero).2 low]

/-- **The checksum is the complement of a remainder, with its bits reversed.** What is divided is
the byte string, with room for the remainder behind it, and the initial bits of the register at its
front. -/
theorem crc32_eq_remainder (data : Bytes) :
    crc32 data = ~~~ UInt32.ofBitVec (lowWord 32 ((descending (bits data) * X ^ 32 +
      (∑ i ∈ Finset.range 32, X ^ i) * X ^ (8 * data.length)) % generator)).reverse := by
  have final : held (data.foldl absorb 0xFFFFFFFF) = mk generator (descending (bits data) * X ^ 32 +
      (∑ i ∈ Finset.range 32, X ^ i) * X ^ (8 * data.length)) := by
    rw [held_foldl, held_ones]
    simp only [map_add, map_mul, map_pow, AdjoinRoot.mk_X]
    ring
  rw [← reflected_eq_mod final, reverse_lowWord_reflected]
  rfl

end ControlLink.Firmware
