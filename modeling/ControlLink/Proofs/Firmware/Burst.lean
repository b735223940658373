/-
# ControlLink.Proofs.Firmware.Burst — the checksum tells short bursts of damage

Two byte strings of one length have the same checksum only if the generator divides the polynomial
of the bits in which they differ (`generator_dvd_of_crc32_eq`): the room for the remainder does not
matter, as the indeterminate has no divisor in common with the generator. If those bits lie close to
each other, the polynomial is one of low degree up to a power of the indeterminate, and of these the
generator divides only zero (`silent_of_generator_dvd`). So a burst of damage that is not longer
than the checksum is always detected.
-/
import ControlLink.Proofs.Firmware.Remainder

namespace ControlLink.Firmware

set_option autoImplicit false

open Polynomial

/-! ## Differences -/

/-- No bit is set. -/
def Silent (list : List Bool) : Prop := ∀ bit ∈ list, bit = false

theorem silent_append {front back : List Bool} :
    Silent (front ++ back) ↔ Silent front ∧ Silent back := List.forall_mem_append

theorem silent_of_getElem? {list : List Bool} (clear : ∀ place : Nat, list[place]? ≠ some true) :
    Silent list := by
  intro bit member
  obtain ⟨place, found⟩ := List.mem_iff_getElem?.1 member
  cases bit with
  | false => rfl
  | true => exact absurd found (clear place)

theorem descending_of_silent {list : List Bool} (silent : Silent list) : descending list = 0 := by
  ext power
  rw [coeff_descending, coeff_zero]
  cases found : list.reverse[power]? with
  | none => rfl
  | some bit =>
      rw [silent bit (List.mem_reverse.1 (List.mem_of_getElem? found))]
      rfl

theorem silent_of_descending {list : List Bool} (zero : descending list = 0) : Silent list := by
  have reversed : Silent list.reverse := by
    refine silent_of_getElem? fun power set => ?_
    have coefficient_zero := coeff_descending list power
    rw [zero, coeff_zero, set] at coefficient_zero
    exact absurd coefficient_zero (by decide)
  exact fun bit member => reversed bit (List.mem_reverse.2 member)

/-- Where two lists of bits differ. -/
def differences (a b : List Bool) : List Bool := a.zipWith (· ^^ ·) b

theorem descending_differences {a b : List Bool} (same : a.length = b.length) :
    descending (differences a b) = descending a + descending b := by
  induction a generalizing b with
  | nil => simp [differences, descending, List.length_eq_zero_iff.1 same.symm]
  | cons bit a ih =>
      cases b with
      | nil => cases same
      | cons other b =>
          have rest : a.length = b.length := Nat.succ.inj same
          have number : (differences a b).length = b.length := by simp [differences, rest]
          have first : differences (bit :: a) (other :: b) =
              (bit ^^ other) :: differences a b := rfl
          rw [first, descending, ih rest, number, descending, descending, coefficient_xor, C_add,
            rest]
          ring

theorem eq_of_silent_differences {a b : List Bool} (same : a.length = b.length)
    (silent : Silent (differences a b)) : a = b := by
  apply List.ext_getElem same
  intro place inside within
  have differ : (a[place] ^^ b[place]) ∈ differences a b := List.mem_iff_getElem.2
    ⟨place, by rw [differences, List.length_zipWith]; omega, List.getElem_zipWith⟩
  exact bne_eq_false_iff_eq.1 (silent _ differ)

/-! ## Byte strings as bits -/

theorem bits_append (front back : Bytes) : bits (front ++ back) = bits front ++ bits back :=
  List.flatMap_append

theorem lowFirst_inj {width : Nat} {a b : BitVec width} (same : lowFirst a = lowFirst b) :
    a = b := by
  apply BitVec.eq_of_getElem_eq
  intro place inside
  exact congrFun (List.ofFn_injective same) ⟨place, inside⟩

theorem bits_inj {a b : Bytes} (length : a.length = b.length) (same : bits a = bits b) : a = b := by
  induction a generalizing b with
  | nil => exact (List.length_eq_zero_iff.1 length.symm).symm
  | cons byte a ih =>
      cases b with
      | nil => cases length
      | cons other b =>
          rw [bits_cons, bits_cons] at same
          obtain ⟨first, rest⟩ := List.append_inj same (by simp)
          rw [UInt8.toBitVec_inj.1 (lowFirst_inj first), ih (Nat.succ.inj length) rest]

/-- The places of the bits in which two byte strings of one length differ. -/
def damage (sent received : Bytes) : List Nat :=
  (List.range (8 * sent.length)).filter fun place => (bits sent)[place]? != (bits received)[place]?

theorem mem_damage_of_differences {sent received : Bytes} {place : Nat}
    (set : (differences (bits received) (bits sent))[place]? = some true) :
    place ∈ damage sent received := by
  obtain ⟨bit, other, found, original, differ⟩ := List.getElem?_zipWith_eq_some.1 set
  obtain ⟨inside, -⟩ := List.getElem?_eq_some_iff.1 original
  rw [length_bits] at inside
  have apart : other ≠ bit := by
    rintro rfl
    simp at differ
  refine List.mem_filter.2 ⟨List.mem_range.2 inside, ?_⟩
  rw [found, original]
  simpa using apart

/-! ## Division by the generator -/

theorem isCoprime_generator_X : IsCoprime generator X := by
  refine ⟨1, -(X ^ 31 + X ^ 25 + X ^ 22 + X ^ 21 + X ^ 15 + X ^ 11 + X ^ 10 + X ^ 9 + X ^ 7 +
    X ^ 6 + X ^ 4 + X ^ 3 + X + 1), ?_⟩
  rw [generator]
  ring

/-- **The generator divides no short burst.** -/
theorem silent_of_generator_dvd {list : List Bool} {start : Nat}
    (burst : ∀ place, list[place]? = some true → start ≤ place ∧ place < start + 32)
    (divides : generator ∣ descending list) : Silent list := by
  let front := list.take start
  let middle := (list.drop start).take 32
  let back := (list.drop start).drop 32
  have parts : list = front ++ (middle ++ back) := by
    rw [List.take_append_drop, List.take_append_drop]
  have front_silent : Silent front := by
    refine silent_of_getElem? fun place set => ?_
    rw [List.getElem?_take] at set
    split at set
    next before => exact absurd (burst place set).1 (Nat.not_le.2 before)
    next => cases set
  have back_silent : Silent back := by
    refine silent_of_getElem? fun place set => ?_
    rw [List.getElem?_drop, List.getElem?_drop] at set
    have within := (burst _ set).2
    omega
  have shifted : descending list = descending middle * X ^ back.length := by
    rw [parts, descending_append, descending_append, descending_of_silent front_silent,
      descending_of_silent back_silent, zero_mul, zero_add, add_zero]
  have short : (descending middle).degree < generator.degree := by
    rw [degree_generator]
    refine lt_of_lt_of_le (degree_descending_lt middle) ?_
    exact Nat.cast_le.2 (List.length_take_le 32 _)
  have middle_silent : Silent middle := by
    rw [shifted] at divides
    exact silent_of_descending (eq_zero_of_dvd_of_degree_lt
      (isCoprime_generator_X.pow_right.dvd_of_dvd_mul_right divides) short)
  rw [parts, silent_append, silent_append]
  exact ⟨front_silent, middle_silent, back_silent⟩

theorem generator_dvd_of_crc32_eq {sent received : Bytes} (length : received.length = sent.length)
    (same : crc32 received = crc32 sent) :
    generator ∣ descending (differences (bits received) (bits sent)) := by
  have registers : received.foldl absorb 0xFFFFFFFF = sent.foldl absorb 0xFFFFFFFF :=
    UInt32.not_inj.1 same
  have strings := congrArg held registers
  rw [held_foldl, held_foldl, length] at strings
  have divides := AdjoinRoot.mk_eq_mk.1 (add_left_cancel strings)
  rw [← sub_mul] at divides
  have apart := isCoprime_generator_X.pow_right.dvd_of_dvd_mul_right divides
  rwa [CharTwo.sub_eq_add, ← descending_differences (by simp [length])] at apart

theorem crc32_ne_of_burst {sent received : Bytes} {start : Nat}
    (length : received.length = sent.length) (damaged : received ≠ sent)
    (burst : ∀ place ∈ damage sent received, start ≤ place ∧ place < start + 32) :
    crc32 received ≠ crc32 sent := by
  intro same
  have silent : Silent (differences (bits received) (bits sent)) :=
    silent_of_generator_dvd (fun place set => burst place (mem_damage_of_differences set))
      (generator_dvd_of_crc32_eq length same)
  exact damaged (bits_inj length (eq_of_silent_differences (by simp [length]) silent))

/-- Damage to some bytes is damage to bits of theirs only. -/
theorem damage_replaced {front old new back : Bytes} (length : new.length = old.length)
    {place : Nat} (member : place ∈ damage (front ++ old ++ back) (front ++ new ++ back)) :
    8 * front.length ≤ place ∧ place < 8 * front.length + 8 * old.length := by
  obtain ⟨-, differ⟩ := List.mem_filter.1 member
  rw [bits_append, bits_append, bits_append, bits_append] at differ
  have reach : (bits front ++ bits new).length = (bits front ++ bits old).length := by simp [length]
  constructor
  · by_contra before
    have inside : place < (bits front).length := by rw [length_bits]; omega
    rw [List.append_assoc, List.getElem?_append_left inside, List.append_assoc,
      List.getElem?_append_left inside] at differ
    exact absurd differ (by simp)
  · by_contra behind
    have outside : (bits front ++ bits old).length ≤ place := by
      rw [List.length_append, length_bits, length_bits]
      omega
    rw [List.getElem?_append_right outside, List.getElem?_append_right (reach ▸ outside),
      reach] at differ
    exact absurd differ (by simp)

/-- **The checksum detects every burst of damage of at most 32 bits**, wherever it is, and so no
image that is damaged in up to four bytes in a row has the checksum that is announced for it. -/
theorem burst_detected :
    (∀ (sent received : Bytes) (start : Nat), received.length = sent.length → received ≠ sent →
      (∀ place ∈ damage sent received, start ≤ place ∧ place < start + 32) →
      crc32 received ≠ crc32 sent) ∧
    ∀ (image : Image) (front old new back : Bytes), image.data = front ++ old ++ back →
      new.length = old.length → old.length ≤ 4 → new ≠ old →
      ∃ checksum, image.startCommand = .updateStart (UInt32.ofNat image.size) checksum ∧
        crc32 (front ++ new ++ back) ≠ checksum := by
  refine ⟨fun sent received start length damaged burst =>
    crc32_ne_of_burst length damaged burst, ?_⟩
  intro image front old new back data length short damaged
  refine ⟨crc32 image.data, rfl, ?_⟩
  have burst : ∀ place ∈ damage (front ++ old ++ back) (front ++ new ++ back),
      8 * front.length ≤ place ∧ place < 8 * front.length + 32 := by
    intro place member
    have within := damage_replaced length member
    omega
  rw [data]
  refine crc32_ne_of_burst (by simp [length]) ?_ burst
  intro same
  exact damaged (List.append_cancel_left (List.append_cancel_right same))

/-- A burst of 32 bits that starts inside a byte, and four bytes of an image that are all wrong. -/
theorem burst_detected_inverted :
    (∀ place ∈ damage [0xE9, 0x03, 0x02, 0x20, 0xB0] [0x19, 0xFC, 0xFD, 0xDF, 0xBF],
      4 ≤ place ∧ place < 4 + 32) ∧
    crc32 [0x19, 0xFC, 0xFD, 0xDF, 0xBF] ≠ crc32 [0xE9, 0x03, 0x02, 0x20, 0xB0] ∧
    ∃ image checksum, Image.ofBytes [0xE9, 0x03, 0x02, 0x20, 0xB0] = .ok image ∧
      image.startCommand = .updateStart 5 checksum ∧
      crc32 [0xE9, 0xFC, 0xFD, 0xDF, 0x4F] ≠ checksum := by
  have burst : ∀ place ∈ damage [0xE9, 0x03, 0x02, 0x20, 0xB0] [0x19, 0xFC, 0xFD, 0xDF, 0xBF],
      4 ≤ place ∧ place < 4 + 32 := by decide
  obtain ⟨strings, images⟩ := burst_detected
  let image : Image := ⟨[0xE9, 0x03, 0x02, 0x20, 0xB0], by decide, by decide⟩
  obtain ⟨checksum, announced, detected⟩ :=
    images image [0xE9] [0x03, 0x02, 0x20, 0xB0] [0xFC, 0xFD, 0xDF, 0x4F] [] rfl rfl (by decide)
      (by decide)
  exact ⟨burst, strings _ _ 4 rfl (by decide) burst, image, checksum, rfl, announced, detected⟩

end ControlLink.Firmware
