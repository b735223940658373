/-
# ControlLink.Proofs.Json.Spacing — a document is read back however its text is spaced

`Spaced` relates a document to its texts: strings and integers as they are written, the marks around
them, and in between gaps of blanks, any or none (`Gap`). The numbers are integers, since reading any
other rounds. Each text is read back as its document up to `depthLimit` levels of nesting, and refused as
too deep beyond it (`parse_spaced`); this needs the keys in order (`Ordered`), since reading an
object puts its members in order.

`Reads fuel` says what each of the readers that call each other makes of such text with so much
fuel; it is carried from `fuel` to `fuel + 1`, since every reader takes a byte before it calls
another one. What a reader answers depends on the room it has left only through `within`.
-/
import ControlLink.Proofs.Json.Text

namespace ControlLink.Json

set_option autoImplicit false

open Decimal Text.Utf8

/-! ## Texts with gaps -/

/-- Blanks where a text may have some, or none. -/
structure Gap where
  text : List Char
  blank : ∀ c ∈ text, c = ' ' ∨ c = '\t' ∨ c = '\n' ∨ c = '\r'

/-- What stands behind the key of a member. -/
def behindKey (before after : Gap) (text : List Char) : List Char :=
  before.text ++ (':' :: after.text ++ text)

mutual

/-- A text of a document whose numbers are integers. -/
inductive Spaced : Json → List Char → Prop
  | null : Spaced null "null".toList
  | bool (value : Bool) : Spaced (bool value) (boolText value)
  | integer (n : Int) (fits : Fits n) : Spaced (number (.integer n fits)) (integerText n)
  | string (value : String) : Spaced (string value) (quoted value)
  | emptyArray (gap : Gap) : Spaced (array []) ('[' :: gap.text ++ [']'])
  | array (gap : Gap) {item : Json} {rest : List Json} {text more : List Char}
      (first : Spaced item text) (others : SpacedItems rest more) :
      Spaced (array (item :: rest)) ('[' :: gap.text ++ text ++ more)
  | emptyObject (gap : Gap) : Spaced (object []) ('{' :: gap.text ++ ['}'])
  | object (gap before after : Gap) (key : String) {value : Json} {rest : List (String × Json)}
      {text more : List Char} (first : Spaced value text) (others : SpacedMembers rest more) :
      Spaced (object ((key, value) :: rest))
        ('{' :: gap.text ++ quoted key ++ behindKey before after text ++ more)

/-- A text of the items after the first, up to the closing bracket. -/
inductive SpacedItems : List Json → List Char → Prop
  | nil (gap : Gap) : SpacedItems [] (gap.text ++ [']'])
  | cons (gap gap' : Gap) {item : Json} {rest : List Json} {text more : List Char}
      (first : Spaced item text) (others : SpacedItems rest more) :
      SpacedItems (item :: rest) (gap.text ++ (',' :: gap'.text ++ text ++ more))

/-- A text of the members after the first, up to the closing brace. -/
inductive SpacedMembers : List (String × Json) → List Char → Prop
  | nil (gap : Gap) : SpacedMembers [] (gap.text ++ ['}'])
  | cons (gap gap' before after : Gap) (key : String) {value : Json}
      {rest : List (String × Json)} {text more : List Char} (first : Spaced value text)
      (others : SpacedMembers rest more) :
      SpacedMembers ((key, value) :: rest)
        (gap.text ++ (',' :: gap'.text ++ quoted key ++ behindKey before after text ++ more))

end

/-! ## Room for nesting -/

/-- What a reader with so much room answers for something that nests so deep. -/
def within {α : Type} (room depth : Nat) (read : α) : Except ParseError α :=
  if depth ≤ room then .ok read else .error .tooDeep

section Within

variable {α β : Type} {room d e : Nat}

theorem within_zero (read : α) : within room 0 read = .ok read := if_pos (Nat.zero_le _)

theorem within_succ (read : α) : within (room + 1) (d + 1) read = within room d read := by
  simp only [within, Nat.add_le_add_iff_right]

theorem within_one (read : α) : within (room + 1) 1 read = .ok read :=
  (within_succ read).trans (within_zero read)

theorem within_bind {read : α} {next : α → Except ParseError β} {result : β}
    (continued : next read = within room e result) :
    (within room d read >>= next) = within room (max d e) result := by
  unfold within at continued ⊢
  by_cases first : d ≤ room
  · rw [if_pos first]
    show next read = _
    rw [continued]
    simp only [Nat.max_le, first, true_and]
  · rw [if_neg first, if_neg fun both => first (Nat.max_le.1 both).1]
    rfl

theorem within_map (read : α) (f : α → β) :
    (within room d read >>= fun read => .ok (f read)) = within room d (f read) := by
  unfold within
  split <;> rfl

end Within

/-! ## What the readers do -/

theorem skipBlanks_of_not_blank {b : UInt8} (dark : isBlank b = false) (rest : Bytes) :
    skipBlanks (b :: rest) = b :: rest := by
  rw [skipBlanks, List.dropWhile_cons_of_neg (by simp [dark])]

theorem Gap.isBlank_of_mem (gap : Gap) {b : UInt8} (member : b ∈ encode gap.text) :
    isBlank b = true := by
  obtain ⟨c, held, written⟩ := List.mem_flatMap.1 member
  rcases gap.blank c held with rfl | rfl | rfl | rfl <;>
    (obtain rfl := List.mem_singleton.1 written; rfl)

theorem skipBlanks_gap (gap : Gap) (input : Bytes) :
    skipBlanks (encode gap.text ++ input) = skipBlanks input :=
  List.dropWhile_append_of_pos fun _ member => gap.isBlank_of_mem member

/-- A text that begins with something else than a blank or a closing bracket. -/
def Opens (input : Bytes) : Prop :=
  ∃ b rest, input = b :: rest ∧ isBlank b = false ∧ b ≠ ']'.toUInt8

section Readers

variable {fuel room : Nat} {input : Bytes}

theorem value_gap (gap : Gap) :
    value fuel room (encode gap.text ++ input) = value fuel room input := by
  cases fuel with
  | zero => rfl
  | succ fuel => rw [value, value, skipBlanks_gap]

theorem items_gap (done : List Json) (gap : Gap) :
    items fuel room done (encode gap.text ++ input) = items fuel room done input := by
  cases fuel with
  | zero => rfl
  | succ fuel => rw [items, items, skipBlanks_gap]

theorem members_gap (done : List (String × Json)) (gap : Gap) :
    members fuel room done (encode gap.text ++ input) = members fuel room done input := by
  cases fuel with
  | zero => rfl
  | succ fuel => rw [members, members, skipBlanks_gap]

/-- A byte of a digit begins a number. -/
theorem value_digit {b : UInt8} (decimal : isDigitByte b = true) :
    value (fuel + 1) room (b :: input) =
      unsignedNumber false (b :: input) >>= fun read => .ok (number read.1, read.2) := by
  have range : '0'.toUInt8.toNat ≤ b.toNat ∧ b.toNat ≤ '9'.toUInt8.toNat := by
    simpa only [isDigitByte, Bool.and_eq_true, decide_eq_true_eq, UInt8.le_iff_toNat_le]
      using decimal
  have least : 48 ≤ b.toNat := range.1
  have greatest : b.toNat ≤ 57 := range.2
  have listed : b = 48 ∨ b = 49 ∨ b = 50 ∨ b = 51 ∨ b = 52 ∨ b = 53 ∨ b = 54 ∨ b = 55 ∨ b = 56 ∨
      b = 57 := by
    simp only [← UInt8.toNat_inj]
    show b.toNat = 48 ∨ b.toNat = 49 ∨ b.toNat = 50 ∨ b.toNat = 51 ∨ b.toNat = 52 ∨
      b.toNat = 53 ∨ b.toNat = 54 ∨ b.toNat = 55 ∨ b.toNat = 56 ∨ b.toNat = 57
    omega
  rcases listed with rfl | rfl | rfl | rfl | rfl | rfl | rfl | rfl | rfl | rfl <;> rfl

theorem value_minus : value (fuel + 1) room ('-'.toUInt8 :: input) =
    unsignedNumber true input >>= fun read => .ok (number read.1, read.2) := rfl

theorem value_quote : value (fuel + 1) room ('"'.toUInt8 :: input) =
    stringBody input >>= fun read => .ok (string read.1, read.2) := rfl

theorem value_emptyArray (gap : Gap) :
    value (fuel + 1) (room + 1) ('['.toUInt8 :: (encode gap.text ++ ']'.toUInt8 :: input)) =
      .ok (array [], input) := by
  have code : Char.ofNat '['.toUInt8.toNat = '[' := rfl
  rw [value, skipBlanks_of_not_blank rfl]
  simp only [code, skipBlanks_gap,
    skipBlanks_of_not_blank (show isBlank ']'.toUInt8 = false from rfl), if_pos]

theorem value_bracket (gap : Gap) (opens : Opens input) :
    value (fuel + 1) (room + 1) ('['.toUInt8 :: (encode gap.text ++ input)) =
      value fuel room input >>= fun first =>
        items fuel room [first.1] first.2 >>= fun read => .ok (array read.1, read.2) := by
  obtain ⟨b, rest, rfl, dark, no_end⟩ := opens
  have code : Char.ofNat '['.toUInt8.toNat = '[' := rfl
  rw [value, skipBlanks_of_not_blank rfl]
  simp only [code, skipBlanks_gap, skipBlanks_of_not_blank dark, if_neg no_end, value_gap]
  cases value fuel room (b :: rest) with
  | error error => rfl
  | ok first => cases items fuel room [first.1] first.2 <;> rfl

theorem items_comma (done : List Json) (gap : Gap) (opens : Opens input) :
    items (fuel + 1) room done (','.toUInt8 :: (encode gap.text ++ input)) =
      value fuel room input >>= fun read => items fuel room (read.1 :: done) read.2 := by
  obtain ⟨b, rest, rfl, dark, no_end⟩ := opens
  rw [items, skipBlanks_of_not_blank rfl]
  simp only [skipBlanks_gap, skipBlanks_of_not_blank dark, if_neg no_end, value_gap]
  cases value fuel room (b :: rest) <;> rfl

theorem value_emptyObject (gap : Gap) :
    value (fuel + 1) (room + 1) ('\x7b'.toUInt8 :: (encode gap.text ++ '\x7d'.toUInt8 :: input)) =
      .ok (object [], input) := by
  have code : Char.ofNat '\x7b'.toUInt8.toNat = '\x7b' := rfl
  rw [value, skipBlanks_of_not_blank rfl]
  simp only [code, skipBlanks_gap,
    skipBlanks_of_not_blank (show isBlank '\x7d'.toUInt8 = false from rfl), if_pos]

theorem value_brace (gap : Gap) :
    value (fuel + 1) (room + 1) ('\x7b'.toUInt8 :: (encode gap.text ++ '"'.toUInt8 :: input)) =
      member fuel room input >>= fun first =>
        members fuel room [first.1] first.2 >>= fun read => .ok (object read.1, read.2) := by
  have code : Char.ofNat '\x7b'.toUInt8.toNat = '\x7b' := rfl
  rw [value, skipBlanks_of_not_blank rfl]
  simp only [code, skipBlanks_gap,
    skipBlanks_of_not_blank (show isBlank '"'.toUInt8 = false from rfl)]
  rw [if_neg (by decide), if_pos trivial]
  cases member fuel room input with
  | error error => rfl
  | ok first => cases members fuel room [first.1] first.2 <;> rfl

theorem member_colon {key : String} (gap gap' : Gap) {rest : Bytes}
    (named : stringBody input =
      .ok (key, encode gap.text ++ ':'.toUInt8 :: (encode gap'.text ++ rest))) :
    member (fuel + 1) room input =
      value fuel room rest >>= fun read => .ok ((key, read.1), read.2) := by
  rw [member, named]
  simp only [skipBlanks_gap, skipBlanks_of_not_blank (show isBlank ':'.toUInt8 = false from rfl),
    if_pos, value_gap]
  cases value fuel room rest <;> rfl

theorem members_comma (done : List (String × Json)) (gap : Gap) :
    members (fuel + 1) room done
        (','.toUInt8 :: (encode gap.text ++ '"'.toUInt8 :: input)) =
      member fuel room input >>= fun read =>
        members fuel room (insert read.1.1 read.1.2 done) read.2 := by
  rw [members, skipBlanks_of_not_blank rfl]
  simp only [skipBlanks_gap, skipBlanks_of_not_blank (show isBlank '"'.toUInt8 = false from rfl)]
  rw [if_neg (by decide), if_pos trivial, if_pos trivial]
  cases member fuel room input <;> rfl

/-- Something that nests is refused without room. -/
theorem value_zero {b : UInt8} (opening : b = '['.toUInt8 ∨ b = '\x7b'.toUInt8) :
    value (fuel + 1) 0 (b :: input) = .error .tooDeep := by
  rcases opening with rfl | rfl <;> rfl

end Readers

/-- A member behind all others is put at the end. -/
theorem insert_of_pairwise {key : String} {value : Json} {done : List (String × Json)}
    (ordered : (done ++ [(key, value)]).Pairwise (·.1 < ·.1)) :
    insert key value done = done ++ [(key, value)] := by
  induction done with
  | nil => rfl
  | cons first done ih =>
      obtain ⟨k, v⟩ := first
      obtain ⟨before, others⟩ := List.pairwise_cons.1 ordered
      have smaller : k < key := before (key, value) (List.mem_append_right _ List.mem_cons_self)
      have differs : k ≠ key := by
        rintro rfl
        exact String.lt_irrefl k smaller
      rw [insert, if_neg (String.lt_asymm smaller), if_neg differs, ih others]
      rfl

/-! ## The bytes of a text -/

theorem encode_integerText_of_neg {n : Int} (negative : n < 0) :
    encode (integerText n) = '-'.toUInt8 :: encode (digits n.natAbs) := by
  rw [integerText, if_pos negative]
  rfl

theorem encode_integerText_of_nonneg {n : Int} (nonneg : 0 ≤ n) :
    ∃ b rest, isDigitByte b = true ∧ encode (integerText n) = b :: rest ∧
      encode (digits n.natAbs) = b :: rest := by
  rw [integerText, if_neg (Int.not_lt.2 nonneg)]
  cases written : digits n.natAbs with
  | nil => exact absurd written Nat.toDigits_ne_nil
  | cons c cs =>
      have decimal := digits_isDigit n.natAbs c (written ▸ List.mem_cons_self)
      have small : c.toNat ≤ 57 := (Char.isDigit_iff_toNat.1 decimal).2
      exact ⟨_, _, isDigitByte_ofNat decimal, encode_cons_of_ascii (by omega) cs,
        encode_cons_of_ascii (by omega) cs⟩

theorem value_integer {fuel room : Nat} {n : Int} (fits : Fits n) {rest : Bytes}
    (ends : Ends rest) :
    value (fuel + 1) room (encode (integerText n) ++ rest) =
      .ok (number (.integer n fits), rest) := by
  by_cases negative : n < 0
  · rw [encode_integerText_of_neg negative, List.cons_append, value_minus,
      unsignedNumber_of_neg fits negative ends]
    rfl
  · have nonneg := Int.not_lt.1 negative
    obtain ⟨b, others, decimal, written, text⟩ := encode_integerText_of_nonneg nonneg
    have read := unsignedNumber_of_nonneg fits nonneg ends
    rw [text] at read
    rw [written, List.cons_append, value_digit decimal, ← List.cons_append, read]
    rfl

/-- The bytes of a member behind its opening quote. -/
def memberBytes (key : String) (behind : List Char) : Bytes :=
  encode (key.toList.flatMap escape) ++ '"'.toUInt8 :: encode behind

/-- An item behind the mark in front of it. -/
theorem encode_item {mark : Char} (ascii : mark.toNat ≤ 0x7F) (gap : Gap)
    (text more : List Char) :
    encode (mark :: gap.text ++ text ++ more) =
      UInt8.ofNat mark.toNat :: (encode gap.text ++ (encode text ++ encode more)) := by
  rw [List.cons_append, List.cons_append, encode_cons_of_ascii ascii, List.append_assoc,
    encode_append, encode_append]

/-- A member behind the mark in front of it. -/
theorem encode_member {mark : Char} (ascii : mark.toNat ≤ 0x7F) (gap : Gap) (key : String)
    (behind more : List Char) :
    encode (mark :: gap.text ++ quoted key ++ behind ++ more) =
      UInt8.ofNat mark.toNat ::
        (encode gap.text ++ '"'.toUInt8 :: (memberBytes key behind ++ encode more)) := by
  rw [List.append_assoc _ behind, encode_item ascii, encode_append, encode_quoted, memberBytes,
    List.append_assoc, List.cons_append]

/-- An array or an object without anything in it. -/
theorem encode_emptied {mark closing : Char} (ascii : mark.toNat ≤ 0x7F)
    (ascii' : closing.toNat ≤ 0x7F) (gap : Gap) (rest : Bytes) :
    encode (mark :: gap.text ++ [closing]) ++ rest =
      UInt8.ofNat mark.toNat :: (encode gap.text ++ UInt8.ofNat closing.toNat :: rest) := by
  rw [List.cons_append, encode_cons_of_ascii ascii, encode_append, encode_cons_of_ascii ascii',
    List.cons_append, List.append_assoc]
  rfl

theorem encode_behindKey (before after : Gap) (text : List Char) :
    encode (behindKey before after text) =
      encode before.text ++ ':'.toUInt8 :: (encode after.text ++ encode text) := by
  rw [behindKey, encode_append, List.cons_append, encode_cons_of_ascii (by decide), encode_append]
  rfl

theorem ends_of_blank {b : UInt8} (blank : isBlank b = true) (rest : Bytes) : Ends (b :: rest) := by
  rintro _ ⟨⟩
  simp only [isBlank, Bool.or_eq_true, beq_iff_eq] at blank
  rcases blank with ((rfl | rfl) | rfl) | rfl <;> decide

/-- What follows an item or a member begins with a comma, a closing bracket or a blank. -/
theorem ends_gap (gap : Gap) {rest : Bytes} (ends : Ends rest) :
    Ends (encode gap.text ++ rest) := by
  cases written : encode gap.text with
  | nil => exact ends
  | cons b others =>
      exact ends_of_blank (gap.isBlank_of_mem (written ▸ List.mem_cons_self)) _

/-- What closes an item or a member ends the number in it. -/
theorem ends_of_head {b : UInt8} (closing : b = ','.toUInt8 ∨ b = ']'.toUInt8 ∨ b = '\x7d'.toUInt8)
    (rest : Bytes) : Ends (b :: rest) := by
  rintro _ ⟨⟩
  rcases closing with rfl | rfl | rfl <;> decide

theorem SpacedItems.ends {more : List Json} {text : List Char} (spaced : SpacedItems more text)
    (rest : Bytes) : Ends (encode text ++ rest) := by
  cases spaced with
  | nil gap =>
      rw [encode_append, List.append_assoc]
      exact ends_gap gap (ends_of_head (.inr (.inl rfl)) rest)
  | cons gap gap' first others =>
      rw [encode_append, encode_item (by decide), List.append_assoc]
      exact ends_gap gap (ends_of_head (.inl rfl) _)

theorem SpacedMembers.ends {more : List (String × Json)} {text : List Char}
    (spaced : SpacedMembers more text) (rest : Bytes) : Ends (encode text ++ rest) := by
  cases spaced with
  | nil gap =>
      rw [encode_append, List.append_assoc]
      exact ends_gap gap (ends_of_head (.inr (.inr rfl)) rest)
  | cons gap gap' before after key first others =>
      rw [encode_append, encode_member (by decide), List.append_assoc]
      exact ends_gap gap (ends_of_head (.inl rfl) _)

theorem not_blank_of_isDigitByte {b : UInt8} (decimal : isDigitByte b = true) :
    isBlank b = false := by
  rw [Bool.eq_false_iff]
  intro blank
  simp only [isBlank, Bool.or_eq_true, beq_iff_eq] at blank
  rcases blank with ((rfl | rfl) | rfl) | rfl <;> exact absurd decimal (by decide)

theorem Spaced.opens {document : Json} {text : List Char} (spaced : Spaced document text)
    (rest : Bytes) : Opens (encode text ++ rest) := by
  cases spaced with
  | null => exact ⟨_, _, rfl, by decide, by decide⟩
  | bool value => cases value <;> exact ⟨_, _, rfl, by decide, by decide⟩
  | integer n fits =>
      by_cases negative : n < 0
      · rw [encode_integerText_of_neg negative]
        exact ⟨_, _, rfl, by decide, by decide⟩
      · obtain ⟨b, others, decimal, written, -⟩ :=
          encode_integerText_of_nonneg (Int.not_lt.1 negative)
        rw [written]
        refine ⟨_, _, rfl, not_blank_of_isDigitByte decimal, ?_⟩
        rintro rfl
        exact absurd decimal (by decide)
  | string value =>
      rw [encode_quoted]
      exact ⟨_, _, rfl, by decide, by decide⟩
  | emptyArray gap => exact ⟨_, _, rfl, by decide, by decide⟩
  | array gap first others => exact ⟨_, _, rfl, by decide, by decide⟩
  | emptyObject gap => exact ⟨_, _, rfl, by decide, by decide⟩
  | object gap before after key first others => exact ⟨_, _, rfl, by decide, by decide⟩

/-! ## Reading it -/

/-- With so much fuel a text is read as the document it is of, as far as there is room. -/
structure Reads (fuel : Nat) : Prop where
  value {document : Json} {text : List Char} (spaced : Spaced document text) (room : Nat)
    {rest : Bytes} (ordered : document.Ordered) (ends : Ends rest)
    (enough : (encode text).length < fuel) :
    value fuel room (encode text ++ rest) = within room document.depth (document, rest)
  items {more : List Json} {text : List Char} (spaced : SpacedItems more text) (room : Nat)
    (done : List Json) (rest : Bytes) (ordered : OrderedItems more)
    (enough : (encode text).length < fuel) :
    items fuel room done (encode text ++ rest) =
      within room (depthItems more) (done.reverse ++ more, rest)
  member {value : Json} {text : List Char} (spaced : Spaced value text) (room : Nat)
    (key : String) (before after : Gap) {rest : Bytes} (ordered : value.Ordered) (ends : Ends rest)
    (enough : (memberBytes key (behindKey before after text)).length < fuel) :
    member fuel room (memberBytes key (behindKey before after text) ++ rest) =
      within room value.depth ((key, value), rest)
  members {more : List (String × Json)} {text : List Char} (spaced : SpacedMembers more text)
    (room : Nat) (done : List (String × Json)) (rest : Bytes)
    (sorted : (done ++ more).Pairwise (·.1 < ·.1)) (ordered : OrderedMembers more)
    (enough : (encode text).length < fuel) :
    members fuel room done (encode text ++ rest) =
      within room (depthMembers more) (done ++ more, rest)

section Step

variable {fuel : Nat}

theorem value_array (reads : Reads fuel) (gap : Gap) {item : Json} {more : List Json}
    {text others : List Char} (first : Spaced item text) (spaced : SpacedItems more others)
    (room : Nat) (rest : Bytes) (ordered : OrderedItems (item :: more))
    (enough : (encode ('[' :: gap.text ++ text ++ others)).length < fuel + 1) :
    value (fuel + 1) room (encode ('[' :: gap.text ++ text ++ others) ++ rest) =
      within room (array (item :: more)).depth (array (item :: more), rest) := by
  rw [encode_item (by decide), List.length_cons, List.length_append, List.length_append] at enough
  rw [encode_item (by decide), List.cons_append, List.append_assoc, List.append_assoc]
  cases room with
  | zero => exact value_zero (.inl rfl)
  | succ room =>
      have behind := reads.items spaced room [item] rest ordered.2 (by omega)
      refine (value_bracket gap (first.opens _)).trans ?_
      rw [reads.value first room ordered.1 (spaced.ends rest) (by omega), depth, depthItems,
        within_succ]
      apply within_bind
      rw [behind]
      exact within_map _ fun read : List Json × Bytes => (array read.1, read.2)

theorem value_object (reads : Reads fuel) (gap before after : Gap) {key : String} {value : Json}
    {more : List (String × Json)} {text others : List Char} (first : Spaced value text)
    (spaced : SpacedMembers more others) (room : Nat) (rest : Bytes)
    (sorted : ((key, value) :: more).Pairwise (·.1 < ·.1))
    (ordered : OrderedMembers ((key, value) :: more))
    (enough : (encode ('{' :: gap.text ++ quoted key ++ behindKey before after text ++
      others)).length < fuel + 1) :
    Json.value (fuel + 1) room
        (encode ('{' :: gap.text ++ quoted key ++ behindKey before after text ++ others) ++ rest) =
      within room (object ((key, value) :: more)).depth (object ((key, value) :: more), rest) := by
  rw [encode_member (by decide), List.length_cons, List.length_append, List.length_cons,
    List.length_append] at enough
  rw [encode_member (by decide), List.cons_append, List.append_assoc, List.cons_append,
    List.append_assoc]
  cases room with
  | zero => exact value_zero (.inr rfl)
  | succ room =>
      have behind := reads.members spaced room [(key, value)] rest sorted ordered.2 (by omega)
      refine (value_brace gap).trans ?_
      rw [reads.member first room key before after ordered.1 (spaced.ends rest) (by omega), depth,
        depthMembers, within_succ]
      apply within_bind
      rw [behind]
      exact within_map _ fun read : List (String × Json) × Bytes => (object read.1, read.2)

theorem value_spaced (reads : Reads fuel) {document : Json} {text : List Char}
    (spaced : Spaced document text) (room : Nat) {rest : Bytes} (ordered : document.Ordered)
    (ends : Ends rest) (enough : (encode text).length < fuel + 1) :
    value (fuel + 1) room (encode text ++ rest) =
      within room document.depth (document, rest) := by
  cases spaced with
  | null => exact (within_zero _).symm
  | bool value => cases value <;> exact (within_zero _).symm
  | integer n fits => exact (value_integer fits ends).trans (within_zero _).symm
  | string value =>
      rw [encode_quoted, value_quote, stringBody_quoted]
      exact (within_zero _).symm
  | emptyArray gap =>
      rw [encode_emptied (by decide) (by decide)]
      cases room with
      | zero => exact value_zero (.inl rfl)
      | succ room => exact (value_emptyArray gap).trans (within_one _).symm
  | array gap first others => exact value_array reads gap first others room rest ordered enough
  | emptyObject gap =>
      rw [encode_emptied (by decide) (by decide)]
      cases room with
      | zero => exact value_zero (.inr rfl)
      | succ room => exact (value_emptyObject gap).trans (within_one _).symm
  | object gap before after key first others =>
      exact value_object reads gap before after first others room rest ordered.1 ordered.2 enough

theorem items_spaced (reads : Reads fuel) {more : List Json} {text : List Char}
    (spaced : SpacedItems more text) (room : Nat) (done : List Json) (rest : Bytes)
    (ordered : OrderedItems more) (enough : (encode text).length < fuel + 1) :
    items (fuel + 1) room done (encode text ++ rest) =
      within room (depthItems more) (done.reverse ++ more, rest) := by
  cases spaced with
  | nil gap =>
      rw [encode_append, List.append_assoc, items_gap, List.append_nil]
      exact (within_zero _).symm
  | @cons gap gap' item more text _ first others =>
      rw [encode_append, encode_item (by decide), List.length_append, List.length_cons,
        List.length_append, List.length_append] at enough
      have behind := reads.items others room (item :: done) rest ordered.2 (by omega)
      rw [encode_append, encode_item (by decide), List.append_assoc, items_gap, List.cons_append,
        List.append_assoc, List.append_assoc]
      refine (items_comma done gap' (first.opens _)).trans ?_
      rw [reads.value first room ordered.1 (others.ends rest) (by omega), depthItems]
      apply within_bind
      rw [behind, List.reverse_cons, List.append_assoc]
      rfl

theorem member_spaced (reads : Reads fuel) {value : Json} {text : List Char}
    (spaced : Spaced value text) (room : Nat) (key : String) (before after : Gap) {rest : Bytes}
    (ordered : value.Ordered) (ends : Ends rest)
    (enough : (memberBytes key (behindKey before after text)).length < fuel + 1) :
    member (fuel + 1) room (memberBytes key (behindKey before after text) ++ rest) =
      within room value.depth ((key, value), rest) := by
  rw [memberBytes, encode_behindKey, List.length_append, List.length_cons, List.length_append,
    List.length_cons, List.length_append] at enough
  have named := stringBody_quoted key
    (encode before.text ++ ':'.toUInt8 :: (encode after.text ++ (encode text ++ rest)))
  rw [memberBytes, encode_behindKey, List.append_assoc, List.cons_append, List.append_assoc,
    List.cons_append, List.append_assoc, member_colon before after named,
    reads.value spaced room ordered ends (by omega)]
  exact within_map _ fun read : Json × Bytes => ((key, read.1), read.2)

theorem members_spaced (reads : Reads fuel) {more : List (String × Json)} {text : List Char}
    (spaced : SpacedMembers more text) (room : Nat) (done : List (String × Json)) (rest : Bytes)
    (sorted : (done ++ more).Pairwise (·.1 < ·.1)) (ordered : OrderedMembers more)
    (enough : (encode text).length < fuel + 1) :
    members (fuel + 1) room done (encode text ++ rest) =
      within room (depthMembers more) (done ++ more, rest) := by
  cases spaced with
  | nil gap =>
      rw [encode_append, List.append_assoc, members_gap, List.append_nil]
      exact (within_zero _).symm
  | @cons gap gap' before after key value more text _ first others =>
      rw [encode_append, encode_member (by decide), List.length_append, List.length_cons,
        List.length_append, List.length_cons, List.length_append] at enough
      -- The members are in order, so this one is put behind those that are done.
      rw [List.append_cons] at sorted
      have placed : insert key value done = done ++ [(key, value)] :=
        insert_of_pairwise (List.pairwise_append.1 sorted).1
      have behind :=
        reads.members others room (done ++ [(key, value)]) rest sorted ordered.2 (by omega)
      rw [encode_append, encode_member (by decide), List.append_assoc, members_gap,
        List.cons_append, List.append_assoc, List.cons_append, List.append_assoc]
      refine (members_comma done gap').trans ?_
      rw [reads.member first room key before after ordered.1 (others.ends rest) (by omega),
        depthMembers]
      apply within_bind
      rw [placed, behind, ← List.append_cons]

end Step

theorem reads (fuel : Nat) : Reads fuel := by
  induction fuel with
  -- No text is that short.
  | zero => constructor <;> (intros; omega)
  | succ fuel ih =>
      exact ⟨value_spaced ih, items_spaced ih, member_spaced ih, members_spaced ih⟩

/-- **A document is read back from each of its texts up to the nesting limit**, and refused as too
deep beyond it. -/
theorem parse_spaced {document : Json} {text : List Char} (spaced : Spaced document text)
    (ordered : document.Ordered) (before after : Gap) :
    parse (encode (before.text ++ text ++ after.text)) =
      if document.depth ≤ depthLimit then .ok document else .error .tooDeep := by
  have bare : skipBlanks (encode after.text) = [] := by
    rw [← List.append_nil (encode after.text), skipBlanks_gap]
    rfl
  have ends : Ends (encode after.text) := by
    rw [← List.append_nil (encode after.text)]
    exact ends_gap after ends_nil
  have enough : (encode text).length <
      (encode before.text ++ (encode text ++ encode after.text)).length + 1 := by
    rw [List.length_append, List.length_append]
    omega
  rw [parse, encode_append, encode_append, List.append_assoc, value_gap,
    (reads _).value spaced depthLimit ordered ends enough, within]
  by_cases shallow : document.depth ≤ depthLimit
  · simp only [if_pos shallow, bare]
  · simp only [if_neg shallow]

end ControlLink.Json
