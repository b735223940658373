/-
# ControlLink.Proofs.Json.Size — how many bytes a document takes

A string takes at most six bytes for each of its text (`size_string_le`), and only its quotes more
than its text if nothing in it is escaped. Arrays and objects take the sum of what they hold and of
the marks between (`size_array_le`, `size_object_le`). Members that are put in their places do not
add to that sum, as they can only replace others (`sum_membersOf_le`).
-/
import ControlLink.Proofs.Json.Text
import Mathlib.Algebra.Ring.Nat

namespace ControlLink.Json

set_option autoImplicit false

open Decimal Text Text.Utf8

/-- How many bytes the compact text of a document takes. -/
def size (document : Json) : Nat := (encode document.compact).length

/-- What a member takes, with its colon and the comma or the brace in front of it. -/
def memberSize (member : String × Json) : Nat := (string member.1).size + member.2.size + 2

/-! ## Strings -/

/-- A character stands for itself, or it is written in six characters of ASCII at most. -/
theorem escape_cases (c : Char) :
    escape c = [c] ∨ (escape c).length ≤ 6 ∧ ∀ d ∈ escape c, d.toNat ≤ 0x7F := by
  have short (d : Char) (ascii : d.toNat ≤ 0x7F) :
      ['\\', d].length ≤ 6 ∧ ∀ e ∈ ['\\', d], e.toNat ≤ 0x7F :=
    ⟨Nat.le_add_left 2 4, List.forall_mem_cons.2 ⟨by decide, List.forall_mem_singleton.2 ascii⟩⟩
  unfold escape
  split
  · exact .inr (short _ (by decide))
  split
  · exact .inr (short _ (by decide))
  split
  · exact .inl rfl
  split
  · exact .inr (short _ (by decide))
  split
  · exact .inr (short _ (by decide))
  split
  · exact .inr (short _ (by decide))
  split
  · exact .inr (short _ (by decide))
  split
  · exact .inr (short _ (by decide))
  · have digit (n : Nat) : (Hex.lowerDigit (n % 16)).toNat ≤ 0x7F :=
      Hex.toNat_lowerDigit_le _ (Nat.mod_lt _ (by decide))
    rw [Hex.lower_four]
    refine .inr ⟨Nat.le_refl 6, ?_⟩
    simp only [List.forall_mem_cons, List.not_mem_nil, false_implies, implies_true, digit]
    decide

/-- **An escape takes six bytes for each byte of its character** at most. -/
theorem length_encode_escape_le (c : Char) : (encode (escape c)).length ≤ 6 * c.utf8Size := by
  have some_byte : 0 < c.utf8Size := c.utf8Size_pos
  obtain same | ⟨short, ascii⟩ := escape_cases c
  · rw [same, length_encode_cons, length_encode_nil]
    omega
  · rw [length_encode_of_ascii ascii]
    omega

theorem size_string (text : String) :
    (string text).size = (encode (text.toList.flatMap escape)).length + 2 := by
  have quote : ('"' : Char).utf8Size = 1 := rfl
  rw [size, compact, quoted, List.cons_append, length_encode_cons, length_encode_append,
    length_encode_cons, quote, length_encode_nil]
  omega

/-- **A string takes six bytes for each of its text** at most. -/
theorem size_string_le (text : String) : (string text).size ≤ 6 * text.utf8ByteSize + 2 := by
  have escaped (characters : List Char) :
      (encode (characters.flatMap escape)).length ≤ 6 * (encode characters).length := by
    induction characters with
    | nil => exact Nat.le_refl _
    | cons c rest ih =>
        have first := length_encode_escape_le c
        rw [List.flatMap_cons, length_encode_append, length_encode_cons]
        omega
  rw [size_string, ← length_encode_toList]
  exact Nat.add_le_add_right (escaped _) 2

/-- A string in which nothing is escaped takes two bytes more than its text. -/
theorem size_string_of_unescaped {text : String} (unescaped : ∀ c ∈ text.toList, escape c = [c]) :
    (string text).size = text.utf8ByteSize + 2 := by
  have same : text.toList.flatMap escape = text.toList := by
    rw [List.flatMap_def, List.map_congr_left unescaped, ← List.flatMap_def,
      List.flatMap_singleton']
  rw [size_string, same, length_encode_toList]

/-! ## Other values -/

theorem size_bool_le (value : Bool) : (bool value).size ≤ 5 := by
  cases value <;> decide

/-- A natural number takes as many bytes as it has digits. -/
theorem size_natural_le {n width : Nat} (fits : Fits n) (some_digit : 0 < width)
    (small : n < 10 ^ width) : (number (.integer n fits)).size ≤ width := by
  have digit : ∀ c ∈ digits n, c.toNat ≤ 0x7F := by
    intro c member
    obtain ⟨-, greatest⟩ := Char.isDigit_iff_toNat.1 (digits_isDigit n c member)
    exact Nat.le_trans greatest (by decide)
  have text : (number (.integer n fits)).compact = digits n := by
    rw [compact, Number.text, integerText, if_neg (by omega), Int.natAbs_natCast]
  rw [size, text, length_encode_of_ascii digit]
  exact (Nat.length_toDigits_le_iff (by decide) some_digit).2 small

theorem length_encode_compactItems_le {items : List Json} {bound : Nat}
    (each : ∀ item ∈ items, item.size ≤ bound) :
    (encode (compactItems items)).length ≤ items.length * (bound + 1) + 1 := by
  induction items with
  | nil => exact Nat.le_add_left 1 _
  | cons item rest ih =>
      obtain ⟨first, others⟩ := List.forall_mem_cons.1 each
      have after := ih others
      have comma : (',' : Char).utf8Size = 1 := rfl
      rw [size] at first
      rw [compactItems, List.cons_append, length_encode_cons, comma, length_encode_append,
        List.length_cons, Nat.succ_mul]
      omega

/-- **An array takes what its items take**, each with a mark, and its brackets. -/
theorem size_array_le {items : List Json} {bound : Nat}
    (each : ∀ item ∈ items, item.size ≤ bound) :
    (array items).size ≤ items.length * (bound + 1) + 2 := by
  cases items with
  | nil =>
      have brackets : (array []).size = 2 := by decide
      omega
  | cons item rest =>
      obtain ⟨first, others⟩ := List.forall_mem_cons.1 each
      have after := length_encode_compactItems_le others
      have bracket : ('[' : Char).utf8Size = 1 := rfl
      rw [size] at first
      rw [size, compact, List.cons_append, length_encode_cons, bracket, length_encode_append,
        List.length_cons, Nat.succ_mul]
      omega

/-! ## Objects -/

theorem length_encode_member (key : String) (value : Json) :
    (encode (quoted key ++ ':' :: value.compact)).length + 1 = memberSize (key, value) := by
  have colon : (':' : Char).utf8Size = 1 := rfl
  rw [length_encode_append, length_encode_cons, colon, memberSize, size, size, compact]
  dsimp only
  omega

theorem length_encode_compactMembers (members : List (String × Json)) :
    (encode (compactMembers members)).length = (members.map memberSize).sum + 1 := by
  induction members with
  | nil => rfl
  | cons member rest ih =>
      obtain ⟨key, value⟩ := member
      have first := length_encode_member key value
      have comma : (',' : Char).utf8Size = 1 := rfl
      have split : compactMembers ((key, value) :: rest) =
          ',' :: ((quoted key ++ ':' :: value.compact) ++ compactMembers rest) := by
        rw [compactMembers, List.cons_append, List.cons_append]
      rw [split, length_encode_cons, comma, length_encode_append, ih, List.map_cons, List.sum_cons]
      omega

/-- **An object takes what its members take**, and its braces. -/
theorem size_object_le (members : List (String × Json)) :
    (object members).size ≤ (members.map memberSize).sum + 2 := by
  cases members with
  | nil => decide
  | cons member rest =>
      obtain ⟨key, value⟩ := member
      have first := length_encode_member key value
      have brace : ('{' : Char).utf8Size = 1 := rfl
      have split : (object ((key, value) :: rest)).compact =
          '{' :: ((quoted key ++ ':' :: value.compact) ++ compactMembers rest) := by
        rw [compact, List.cons_append, List.cons_append]
      rw [size, split, length_encode_cons, brace, length_encode_append,
        length_encode_compactMembers, List.map_cons, List.sum_cons]
      omega

theorem sum_insert_le (weight : String × Json → Nat) (key : String) (value : Json)
    (members : List (String × Json)) :
    ((insert key value members).map weight).sum ≤
      (members.map weight).sum + weight (key, value) := by
  induction members with
  | nil => exact Nat.le_of_eq (Nat.add_comm _ _)
  | cons member rest ih =>
      obtain ⟨k, v⟩ := member
      rw [insert]
      split
      · simp only [List.map_cons, List.sum_cons]
        omega
      split
      · simp only [List.map_cons, List.sum_cons]
        omega
      · simp only [List.map_cons, List.sum_cons]
        omega

/-- **Members in their places weigh no more** than they do one by one. -/
theorem sum_membersOf_le (weight : String × Json → Nat) (members : List (String × Json)) :
    ((membersOf members).map weight).sum ≤ (members.map weight).sum := by
  have onto (done : List (String × Json)) :
      ((members.foldl (fun done member => insert member.1 member.2 done) done).map weight).sum ≤
        (done.map weight).sum + (members.map weight).sum := by
    induction members generalizing done with
    | nil => exact Nat.le_refl _
    | cons member rest ih =>
        obtain ⟨key, value⟩ := member
        have placed := sum_insert_le weight key value done
        rw [List.foldl_cons, List.map_cons, List.sum_cons]
        exact Nat.le_trans (ih (insert key value done)) (by omega)
  exact Nat.le_trans (onto []) (Nat.le_of_eq (Nat.zero_add _))

end ControlLink.Json
