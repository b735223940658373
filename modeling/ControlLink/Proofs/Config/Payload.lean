/-
# ControlLink.Proofs.Config.Payload — only its size keeps a document from being sent

The compact text of a document has no control characters: strings escape them, and everything else
is written in ASCII (`visible_compact`). In UTF-8 a text without NUL holds no byte that would end a
payload (`isSentinel_of_mem_encode`). So of the checks of a payload only that of its size can refuse
a document (`refused_only_by_size`).
-/
import ControlLink.Config.Payload
import ControlLink.Proofs.Json.Text
import ControlLink.Proofs.Transfer.Write

namespace ControlLink

set_option autoImplicit false

/-! ## Bytes -/

namespace Text.Utf8

open Wire

theorem isSentinel_ofNat {n : Nat} (positive : 0 < n) (below : n < 0xF5) :
    isSentinel (UInt8.ofNat n) = false := by
  have value : (UInt8.ofNat n).toNat = n := toNat_ofNat_of_lt (by omega)
  have some_bit : UInt8.ofNat n ≠ 0 := by
    intro zero
    rw [zero] at value
    exact Nat.ne_of_lt positive value
  have low : ¬ (0xF5 : UInt8) ≤ UInt8.ofNat n := by
    rw [UInt8.le_iff_toNat_le, value]
    exact Nat.not_le.2 below
  simp [isSentinel, some_bit, low]

theorem isSentinel_of_mem_utf8EncodeChar {c : Char} (some_char : 0 < c.toNat) {byte : UInt8}
    (member : byte ∈ String.utf8EncodeChar c) : isSentinel byte = false := by
  have last : c.toNat ≤ 0x10FFFF := by
    have valid : c.toNat < 0xD800 ∨ 0xDFFF < c.toNat ∧ c.toNat < 0x110000 := c.valid
    omega
  have continuation (n : Nat) : isSentinel (UInt8.ofNat (n % 64 + 128)) = false :=
    isSentinel_ofNat (by omega) (by omega)
  rw [utf8EncodeChar_eq] at member
  split at member
  · rw [List.mem_singleton.1 member]
    exact isSentinel_ofNat some_char (by omega)
  · split at member
    · simp only [List.mem_cons, List.not_mem_nil, or_false] at member
      rcases member with rfl | rfl
      · exact isSentinel_ofNat (by omega) (by omega)
      · exact continuation _
    · split at member
      · simp only [List.mem_cons, List.not_mem_nil, or_false] at member
        rcases member with rfl | rfl | rfl
        · exact isSentinel_ofNat (by omega) (by omega)
        · exact continuation _
        · exact continuation _
      · -- The highest character needs no more than the lead byte 0xF4.
        simp only [List.mem_cons, List.not_mem_nil, or_false] at member
        rcases member with rfl | rfl | rfl | rfl
        · exact isSentinel_ofNat (by omega) (by omega)
        · exact continuation _
        · exact continuation _
        · exact continuation _

/-- A text without NUL comes out of a transfer whole. -/
theorem isSentinel_of_mem_encode {text : List Char} (some_chars : ∀ c ∈ text, 0 < c.toNat)
    {byte : UInt8} (member : byte ∈ encode text) : isSentinel byte = false := by
  obtain ⟨c, inside, written⟩ := List.mem_flatMap.1 member
  exact isSentinel_of_mem_utf8EncodeChar (some_chars c inside) written

end Text.Utf8

/-! ## Characters -/

namespace Text

/-- No control characters. -/
def Visible (text : List Char) : Prop := ∀ c ∈ text, 0x20 ≤ c.toNat

instance (text : List Char) : Decidable (Visible text) :=
  List.decidableBAll (fun c : Char => 0x20 ≤ c.toNat) text

theorem visible_nil : Visible [] := nofun

theorem visible_cons {c : Char} {text : List Char} :
    Visible (c :: text) ↔ 0x20 ≤ c.toNat ∧ Visible text := List.forall_mem_cons

theorem visible_append {text more : List Char} :
    Visible (text ++ more) ↔ Visible text ∧ Visible more := List.forall_mem_append

theorem Visible.of_subset {text part : List Char} (visible : Visible text) (subset : part ⊆ text) :
    Visible part := fun c member => visible c (subset member)

theorem visible_replicate {c : Char} (visible : 0x20 ≤ c.toNat) (count : Nat) :
    Visible (List.replicate count c) := by
  intro other member
  rwa [List.eq_of_mem_replicate member]

end Text

namespace Decimal

open Text

theorem visible_digits (n : Nat) : Visible (digits n) := by
  intro c member
  obtain ⟨least, -⟩ := Char.isDigit_iff_toNat.1 (Json.digits_isDigit n c member)
  exact Nat.le_trans (by decide) least

theorem visible_ofNat (k : Nat) (power : Int) : Visible (Scientific.ofNat k power).digits := by
  refine (visible_digits k).of_subset fun c member => ?_
  have kept := List.dropWhile_subset _ (List.mem_reverse.1 member)
  exact List.mem_reverse.1 kept

theorem visible_shortestFrom (x : Binary64) (point : Int) (more count : Nat) :
    Visible (shortestFrom x point more count).digits := by
  induction more generalizing count with
  | zero => exact visible_ofNat _ _
  | succ more ih =>
      rw [shortestFrom]
      split
      · exact visible_ofNat _ _
      · exact ih _

theorem visible_exponentText (layout : Layout) (exponent : Int) :
    Visible (exponentText layout exponent) := by
  unfold exponentText
  split
  · exact visible_cons.2 ⟨by decide, visible_digits _⟩
  · split
    · exact visible_cons.2 ⟨by decide, visible_digits _⟩
    · exact visible_digits _

theorem Scientific.visible_text {s : Scientific} (visible : Visible s.digits) (layout : Layout) :
    Visible (s.text layout) := by
  have zeros (count : Nat) : Visible (List.replicate count '0') :=
    visible_replicate (by decide) count
  unfold Scientific.text
  simp only
  split
  · split
    · exact visible_append.2 ⟨visible_append.2 ⟨visible, zeros _⟩, by decide⟩
    · exact visible_append.2 ⟨visible.of_subset (List.take_subset _ _),
        visible_cons.2 ⟨by decide, visible.of_subset (List.drop_subset _ _)⟩⟩
  · split
    · exact visible_cons.2 ⟨by decide, visible_cons.2 ⟨by decide,
        visible_append.2 ⟨zeros _, visible⟩⟩⟩
    · refine visible_append.2 ⟨?_, visible_cons.2 ⟨by decide, visible_exponentText _ _⟩⟩
      split
      next first second rest same =>
        rw [same] at visible
        obtain ⟨one, others⟩ := visible_cons.1 visible
        exact visible_cons.2 ⟨one, visible_cons.2 ⟨by decide, others⟩⟩
      next => exact visible

theorem Binary64.visible_text (x : Binary64) (layout : Layout) : Visible (x.text layout) := by
  have magnitude : Visible (if x.isZero then ['0', '.', '0'] else (shortest x).text layout) := by
    split
    · decide
    · exact Scientific.visible_text (visible_shortestFrom _ _ _ _) layout
  unfold Binary64.text
  simp only
  split
  · exact visible_cons.2 ⟨by decide, magnitude⟩
  · exact magnitude

end Decimal

/-! ## Documents -/

namespace Json

open Text Decimal

theorem visible_lower (width n : Nat) : Visible (Hex.lower width n) := by
  have digit : ∀ d < 16, 0x20 ≤ (Hex.lowerDigit d).toNat := by decide
  induction width generalizing n with
  | zero => exact visible_nil
  | succ width ih =>
      rw [Hex.lower]
      refine visible_append.2 ⟨ih _, visible_cons.2 ⟨digit _ ?_, visible_nil⟩⟩
      exact Nat.mod_lt _ (by decide)

theorem visible_escape (c : Char) : Visible (escape c) := by
  unfold escape
  split
  · decide
  split
  · decide
  split
  next visible => exact visible_cons.2 ⟨visible, visible_nil⟩
  -- The control characters, each with an escape of its own or with its code.
  split
  · decide
  split
  · decide
  split
  · decide
  split
  · decide
  split
  · decide
  · exact visible_cons.2 ⟨by decide, visible_cons.2 ⟨by decide, visible_lower 4 _⟩⟩

theorem visible_quoted (text : String) : Visible (quoted text) := by
  have inside : Visible (text.toList.flatMap escape) := by
    intro c member
    obtain ⟨original, -, written⟩ := List.mem_flatMap.1 member
    exact visible_escape original c written
  exact visible_cons.2 ⟨by decide, visible_append.2 ⟨inside, by decide⟩⟩

theorem visible_integerText (n : Int) : Visible (integerText n) := by
  unfold integerText
  split
  · exact visible_cons.2 ⟨by decide, visible_digits _⟩
  · exact visible_digits _

/-- A member is as visible as its value. -/
theorem visible_member (key : String) {value : List Char} (visible : Visible value) :
    Visible (quoted key ++ ':' :: value) :=
  visible_append.2 ⟨visible_quoted key, visible_cons.2 ⟨by decide, visible⟩⟩

mutual

/-- **Compact text has no control characters.** -/
theorem visible_compact (document : Json) : Visible document.compact := by
  cases document with
  | null => decide
  | bool value => cases value <;> decide
  | number value =>
      cases value with
      | integer n fits => exact visible_integerText n
      | real x finite => exact x.visible_text layout
  | string value => exact visible_quoted value
  | array items =>
      cases items with
      | nil => decide
      | cons item rest =>
          exact visible_cons.2 ⟨by decide,
            visible_append.2 ⟨visible_compact item, visible_compactItems rest⟩⟩
  | object members =>
      cases members with
      | nil => decide
      | cons member rest =>
          obtain ⟨key, value⟩ := member
          exact visible_cons.2 ⟨by decide, visible_append.2
            ⟨visible_member key (visible_compact value), visible_compactMembers rest⟩⟩

theorem visible_compactItems (items : List Json) : Visible (compactItems items) := by
  cases items with
  | nil => decide
  | cons item rest =>
      exact visible_cons.2 ⟨by decide,
        visible_append.2 ⟨visible_compact item, visible_compactItems rest⟩⟩

theorem visible_compactMembers (members : List (String × Json)) :
    Visible (compactMembers members) := by
  cases members with
  | nil => decide
  | cons member rest =>
      obtain ⟨key, value⟩ := member
      exact visible_cons.2 ⟨by decide, visible_append.2
        ⟨visible_member key (visible_compact value), visible_compactMembers rest⟩⟩

end

end Json

namespace Config

open Wire

theorem isSentinel_eq_false_iff {byte : UInt8} :
    isSentinel byte = false ↔ byte ≠ 0 ∧ byte ≤ 0xF4 := by
  have bound : ¬ (0xF5 : UInt8) ≤ byte ↔ byte ≤ 0xF4 := by
    rw [UInt8.le_iff_toNat_le, UInt8.le_iff_toNat_le, Nat.not_le]
    exact Nat.lt_succ_iff
  rw [← bound]
  simp [isSentinel]

/-- **Compact text holds no byte that ends a payload.** -/
theorem isSentinel_of_mem_compact (document : Json) {byte : UInt8}
    (member : byte ∈ Text.Utf8.encode document.compact) : isSentinel byte = false := by
  have some_chars : ∀ c ∈ document.compact, 0 < c.toNat := fun c member =>
    Nat.lt_of_lt_of_le (by decide) (document.visible_compact c member)
  exact Text.Utf8.isSentinel_of_mem_encode some_chars member

/-- **A document whose text is not too long can be sent.** -/
theorem checkPayload_compact {document : Json}
    (fits : (Text.Utf8.encode document.compact).length ≤ payloadLimit) :
    ∃ count, checkPayload (Text.Utf8.encode document.compact) = .ok count := by
  obtain ⟨count, counted⟩ := forLength_of_length_le fits
  exact ⟨count, checkPayload_eq_ok_iff.2
    ⟨fits, fun _ member => isSentinel_of_mem_compact document member, counted⟩⟩

/-- A document whose text is too long is refused with its size. -/
theorem toPayload_of_large {document : Json}
    (large : payloadLimit < (Text.Utf8.encode document.compact).length) :
    toPayload document = .error
      (.configTooLarge (Text.Utf8.encode document.compact).length payloadLimit) := by
  simp only [toPayload, checkPayload, if_pos large, RequestError.ofWire]

/-- **Only its size keeps a document from being sent.** Its payload is its compact text, which holds
no byte that would end it, and a transfer can be made of every payload. -/
theorem refused_only_by_size (document : Json) :
    (toPayload document =
      if (Text.Utf8.encode document.compact).length ≤ 4096 then
        .ok (Text.Utf8.encode document.compact)
      else .error (.configTooLarge (Text.Utf8.encode document.compact).length 4096)) ∧
    (∀ byte ∈ Text.Utf8.encode document.compact, byte ≠ 0 ∧ byte ≤ 0xF4) ∧
    ∀ payload, toPayload document = .ok payload →
      ∃ transfer, Transfer.WriteTransfer.ofPayload payload = .ok transfer := by
  refine ⟨?_, fun byte member => ?_, fun payload sendable => ?_⟩
  · split
    next fits =>
      obtain ⟨count, checked⟩ := checkPayload_compact fits
      exact toPayload_eq_ok_iff.2 ⟨rfl, count, checked⟩
    next large => exact toPayload_of_large (Nat.not_le.1 large)
  · exact isSentinel_eq_false_iff.1 (isSentinel_of_mem_compact document member)
  · obtain ⟨-, count, checked⟩ := toPayload_eq_ok_iff.1 sendable
    exact Transfer.WriteTransfer.made_of_checkPayload checked

/-- NUL and the last character there is, in a key and in a value, and a number with a fraction. -/
theorem refused_only_by_size_outermost :
    let outermost := String.ofList ['\x00', Char.ofNat 0x10FFFF]
    let document : Json := .object
      [(outermost, .array [.string outermost, .number (.real ⟨0x3FE0000000000000⟩ (by decide))])]
    let payload := Text.Utf8.encode document.compact
    payload.length = 33 ∧ toPayload document = .ok payload ∧
      (∀ byte ∈ payload, byte ≠ 0 ∧ byte ≤ 0xF4) ∧
      ∃ transfer, Transfer.WriteTransfer.ofPayload payload = .ok transfer := by
  intro outermost document payload
  have size : payload.length = 33 := by decide +kernel
  obtain ⟨sent, clean, made⟩ := refused_only_by_size document
  rw [if_pos (by show payload.length ≤ 4096; omega)] at sent
  exact ⟨size, sent, clean, made payload sent⟩

end Config

end ControlLink
