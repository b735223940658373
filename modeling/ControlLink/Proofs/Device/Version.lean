/-
# ControlLink.Proofs.Device.Version — which texts name a version

A text names a version if it is three numbers between dots, behind any number of `v` and with white
space around it all (`Names`). A number is written in one or more decimal digits, zeros in front
allowed, with a plus sign before them or not, and fits a byte (`Part`).

`version_texts` says that reading accepts exactly these texts, each with the version that it names,
and gives one and the same refusal for all others; and that the text written of a version is one of
them, and names that version. Each step of reading is undone by a part of `Names`: white space
(`Text.exists_trim`), the `v` in front (`exists_marks`), the dots (`Text.intercalate_fields`) and
the numbers (`byte?_eq_some_iff`).
-/
import ControlLink.Device.Version
import ControlLink.Proofs.Decimal.Numeral
import ControlLink.Proofs.Text.Parts

namespace ControlLink.Device.Version

set_option autoImplicit false

open Decimal Text

/-! ## The texts -/

/-- A text of a number in a version. -/
inductive Part (n : UInt8) : List Char → Prop where
  | digits {sign decimals : List Char} : sign = [] ∨ sign = ['+'] → decimals ≠ [] →
      (∀ c ∈ decimals, isDigit c = true) → Nat.ofDigitChars 10 decimals 0 = n.toNat →
      Part n (sign ++ decimals)

/-- A text of a version. -/
inductive Names (version : Version) : List Char → Prop where
  | parts {before major minor patch after : List Char} (marks : Nat) :
      (∀ c ∈ before, isBlank c = true) → (∀ c ∈ after, isBlank c = true) →
      Part version.major major → Part version.minor minor → Part version.patch patch →
      Names version (before ++ (List.replicate marks 'v' ++
        (major ++ '.' :: (minor ++ '.' :: patch))) ++ after)

section Parts

variable {n : UInt8} {text : List Char}

/-- **A number is read exactly from its texts.** -/
theorem byte?_eq_some_iff : byte? text = some n ↔ Part n text := by
  have bound := n.toNat_lt
  rw [byte?, Option.map_eq_some_iff]
  constructor
  · rintro ⟨value, read, rfl⟩
    obtain ⟨fits, sign, decimals, rfl, signed, number⟩ := bounded?_eq_some_iff.1 read
    obtain ⟨some, decimal, rfl⟩ := numeral?_eq_some_iff.1 number
    have same := UInt8.toNat_ofNat_of_lt' (Nat.lt_succ_of_le fits)
    exact .digits signed some decimal same.symm
  · rintro ⟨signed, some, decimal, same⟩
    have number := numeral?_eq_some_iff.2 ⟨some, decimal, same⟩
    refine ⟨n.toNat, bounded?_eq_some_iff.2 ⟨?_, _, _, rfl, signed, number⟩, UInt8.ofNat_toNat⟩
    omega

/-- In a number there are digits and perhaps a sign, but none of the characters around numbers. -/
theorem Part.plain (part : Part n text) {c : Char} (member : c ∈ text) :
    c ≠ '.' ∧ c ≠ 'v' ∧ isBlank c = false := by
  obtain ⟨signed, -, decimal, -⟩ := part
  rcases List.mem_append.1 member with inSign | inDigits
  · rcases signed with rfl | rfl
    · cases inSign
    · cases List.mem_singleton.1 inSign
      decide
  · obtain ⟨least, greatest⟩ := isDigit_iff.1 (decimal c inDigits)
    refine ⟨?_, ?_, ?_⟩
    · rintro rfl
      exact absurd least (by decide)
    · rintro rfl
      exact absurd greatest (by decide)
    · simp only [isBlank, Bool.or_eq_false_iff, Bool.and_eq_false_iff, decide_eq_false_iff_not,
        beq_eq_false_iff_ne]
      omega

theorem Part.dot_notMem (part : Part n text) : '.' ∉ text :=
  fun member => (part.plain member).1 rfl

theorem Part.ne_nil (part : Part n text) : text ≠ [] := by
  obtain ⟨-, some, -, -⟩ := part
  exact List.append_ne_nil_of_right_ne_nil _ some

/-- What is written of a number is read as that number. -/
theorem part_digits (n : UInt8) : Part n (digits n.toNat) := by
  have decimal (c : Char) (member : c ∈ digits n.toNat) : isDigit c = true :=
    isDigit_iff.2 (Char.isDigit_iff_toNat.1
      (Nat.isDigit_of_mem_toDigits (by decide) (by decide) member))
  exact .digits (.inl rfl) Nat.toDigits_ne_nil decimal Nat.ofDigitChars_ten_toDigits

end Parts

/-! ## Reading -/

/-- All the `v` in front are taken off. -/
theorem dropWhile_marks {n : UInt8} {part : List Char} (number : Part n part) (marks : Nat)
    (rest : List Char) :
    (List.replicate marks 'v' ++ (part ++ rest)).dropWhile (· == 'v') = part ++ rest := by
  rw [List.dropWhile_append_of_pos fun c member => by simp [List.eq_of_mem_replicate member]]
  cases part with
  | nil => exact absurd rfl number.ne_nil
  | cons c part => simp [(number.plain List.mem_cons_self).2.1]

/-- Nothing but `v` is taken off in front. -/
theorem exists_marks (text : List Char) : ∃ marks,
    text = List.replicate marks 'v' ++ text.dropWhile (· == 'v') := by
  have marked : ∀ c ∈ text.takeWhile (· == 'v'), c = 'v' := fun c member =>
    eq_of_beq (List.all_eq_true.1 List.all_takeWhile c member)
  refine ⟨(text.takeWhile (· == 'v')).length, ?_⟩
  rw [← List.eq_replicate_of_mem marked, List.takeWhile_append_dropWhile]

theorem ofText?_of_fields {text major minor patch : List Char}
    (cut : fields '.' ((trim text).dropWhile (· == 'v')) = [major, minor, patch])
    (version : Version) : ofText? text = some version ↔
      Part version.major major ∧ Part version.minor minor ∧ Part version.patch patch := by
  rw [ofText?, cut, ← byte?_eq_some_iff, ← byte?_eq_some_iff, ← byte?_eq_some_iff]
  obtain ⟨a, b, c⟩ := version
  cases first : byte? major <;> cases second : byte? minor <;> cases third : byte? patch <;>
    simp [first, second, third]

/-- **A text is read as a version exactly if it names it.** -/
theorem ofText?_eq_some_iff {text : List Char} {version : Version} :
    ofText? text = some version ↔ Names version text := by
  constructor
  · intro read
    obtain ⟨before, after, whole, blank, blank'⟩ := exists_trim text
    obtain ⟨marks, marked⟩ := exists_marks (trim text)
    have joined := intercalate_fields '.' ((trim text).dropWhile (· == 'v'))
    unfold ofText? at read
    split at read
    next major minor patch cut =>
      obtain ⟨first, second, third⟩ := (ofText?_of_fields cut version).1
        (by rw [ofText?, cut]; exact read)
      rw [cut, List.intercalate_cons_cons, List.intercalate_cons_cons,
        List.intercalate_singleton] at joined
      rw [whole, marked, ← joined]
      simpa using Names.parts marks blank blank' first second third
    next => cases read
  · rintro @⟨before, major, minor, patch, after, marks, blank, blank', first, second, third⟩
    have solid : ∀ c ∈ List.replicate marks 'v' ++ (major ++ '.' :: (minor ++ '.' :: patch)),
        isBlank c = false := by
      intro c member
      simp only [List.mem_append, List.mem_cons] at member
      rcases member with member | member | rfl | member | rfl | member
      · rw [List.eq_of_mem_replicate member]
        decide
      · exact (first.plain member).2.2
      · decide
      · exact (second.plain member).2.2
      · decide
      · exact (third.plain member).2.2
    refine (ofText?_of_fields ?_ version).2 ⟨first, second, third⟩
    rw [trim_append blank blank' solid, dropWhile_marks first,
      fields_append_cons first.dot_notMem, fields_append_cons second.dot_notMem,
      fields_of_notMem third.dot_notMem]

theorem parse_eq_ok_iff {text : String} {version : Version} :
    parse text = .ok version ↔ Names version text.toList := by
  rw [← ofText?_eq_some_iff, parse]
  cases ofText? text.toList <;> simp

theorem names_text (version : Version) : Names version version.text := by
  have named := Names.parts 0 (fun _ member => absurd member List.not_mem_nil)
    (fun _ member => absurd member List.not_mem_nil) (part_digits version.major)
    (part_digits version.minor) (part_digits version.patch)
  simpa [text] using named

/-- **The texts of versions.** What is written of a version is read as that version. A text is read
as a version exactly if it names it: three numbers between dots, each a byte in decimal digits with
or without a plus sign, behind any number of `v` and between white space. Any other text is refused
as invalid, by its own wording. -/
theorem version_texts :
    (∀ version : Version, parse version.display = .ok version) ∧
    ∀ text : String, (∀ version, parse text = .ok version ↔ Names version text.toList) ∧
      ∀ error, parse text = .error error ↔
        error = .invalidData (.invalidVersion text) ∧ ∀ version, ¬ Names version text.toList := by
  refine ⟨fun version => ?_, fun text => ⟨fun version => parse_eq_ok_iff, fun error => ?_⟩⟩
  · rw [parse_eq_ok_iff, display, String.toList_ofList]
    exact names_text version
  · simp only [← ofText?_eq_some_iff, parse]
    cases read : ofText? text.toList with
    | some version => simp
    | none => simp [eq_comm]

end ControlLink.Device.Version
