/-
# ControlLink.Proofs.Text.Parts — texts that are cut at a separator or at white space

The fields of a text with the separator between them are the text again (`intercalate_fields`), and
parts without the separator are the fields of the text that they make (`fields_append_cons`,
`fields_of_notMem`). A text is cut at its first separator (`cut?_eq_some_iff`). White space around a
text is taken off, and nothing else (`trim_append`, `exists_trim`).
-/
import ControlLink.Text.Blank

namespace ControlLink.Text

set_option autoImplicit false

variable {separator : Char}

theorem fields_ne_nil (separator : Char) (text : List Char) : fields separator text ≠ [] := by
  cases text with
  | nil => simp [fields]
  | cons c rest =>
      rw [fields]
      split
      · exact List.cons_ne_nil _ _
      · split <;> exact List.cons_ne_nil _ _

/-- **Nothing is lost between the fields of a text.** -/
theorem intercalate_fields (separator : Char) (text : List Char) :
    [separator].intercalate (fields separator text) = text := by
  induction text with
  | nil => rfl
  | cons c rest ih =>
      obtain ⟨part, parts, cut⟩ := List.exists_cons_of_ne_nil (fields_ne_nil separator rest)
      rw [fields, cut]
      rw [cut] at ih
      split
      next same => rw [List.intercalate_cons_cons, ih, same]; rfl
      next other =>
        cases parts with
        | nil =>
            rw [List.intercalate_singleton] at ih
            rw [List.intercalate_singleton, ih]
        | cons next parts =>
            rw [List.intercalate_cons_cons] at ih
            rw [List.intercalate_cons_cons, List.cons_append, List.cons_append, ih]

/-- A text without the separator is one field. -/
theorem fields_of_notMem {text : List Char} (absent : separator ∉ text) :
    fields separator text = [text] := by
  induction text with
  | nil => rfl
  | cons c rest ih =>
      rw [List.mem_cons, not_or] at absent
      rw [fields, if_neg (Ne.symm absent.1), ih absent.2]

/-- What stands before the first separator is the first field. -/
theorem fields_append_cons {part : List Char} (absent : separator ∉ part) (rest : List Char) :
    fields separator (part ++ separator :: rest) = part :: fields separator rest := by
  induction part with
  | nil => rw [List.nil_append, fields, if_pos rfl]
  | cons c part ih =>
      rw [List.mem_cons, not_or] at absent
      rw [List.cons_append, fields, if_neg (Ne.symm absent.1), ih absent.2]

/-- **A text is cut at its first separator.** -/
theorem cut?_eq_some_iff {text before after : List Char} :
    cut? separator text = some (before, after) ↔
      text = before ++ separator :: after ∧ separator ∉ before := by
  induction text generalizing before with
  | nil => simp [cut?]
  | cons c rest ih =>
      rw [cut?]
      cases before with
      | nil =>
          split
          next same => simp [same]
          next other => simp [other]
      | cons first before =>
          split
          next same => simp +contextual [same]
          next other =>
            rw [Option.map_eq_some_iff, List.cons_append, List.cons.injEq, List.mem_cons]
            constructor
            · rintro ⟨⟨front, back⟩, cut, same⟩
              cases same
              obtain ⟨whole, absent⟩ := ih.1 cut
              exact ⟨⟨rfl, whole⟩, not_or.2 ⟨Ne.symm other, absent⟩⟩
            · rintro ⟨⟨rfl, whole⟩, absent⟩
              exact ⟨(before, after), ih.2 ⟨whole, (not_or.1 absent).2⟩, rfl⟩

/-- White space at both ends is taken off. -/
theorem trim_append {before text after : List Char} (blank : ∀ c ∈ before, isBlank c = true)
    (blank' : ∀ c ∈ after, isBlank c = true) (solid : ∀ c ∈ text, isBlank c = false) :
    trim (before ++ text ++ after) = text := by
  have front (rest : List Char) : (text ++ rest).dropWhile isBlank =
      if text = [] then rest.dropWhile isBlank else text ++ rest := by
    cases text with
    | nil => rfl
    | cons c text => simp [solid c List.mem_cons_self]
  rw [trim, List.append_assoc, List.dropWhile_append_of_pos blank, front]
  split
  next empty =>
    have gone : (after ++ []).dropWhile isBlank = [] := List.dropWhile_append_of_pos blank'
    rw [List.append_nil] at gone
    rw [gone, empty]
    rfl
  next =>
    have back : (text ++ after).reverse.dropWhile isBlank = text.reverse := by
      rw [List.reverse_append, List.dropWhile_append_of_pos fun c member =>
        blank' c (List.mem_reverse.1 member)]
      cases turned : text.reverse with
      | nil => rfl
      | cons c rest =>
          have inside : c ∈ text := List.mem_reverse.1 (turned ▸ List.mem_cons_self)
          simp [solid c inside]
    rw [back, List.reverse_reverse]

/-- Nothing but white space at the ends is taken off. -/
theorem exists_trim (text : List Char) : ∃ before after, text = before ++ trim text ++ after ∧
    (∀ c ∈ before, isBlank c = true) ∧ ∀ c ∈ after, isBlank c = true := by
  have split (text : List Char) : text.takeWhile isBlank ++ text.dropWhile isBlank = text :=
    List.takeWhile_append_dropWhile
  refine ⟨text.takeWhile isBlank,
    ((text.dropWhile isBlank).reverse.takeWhile isBlank).reverse, ?_, ?_, ?_⟩
  · rw [trim, List.append_assoc, ← List.reverse_append, split, List.reverse_reverse, split]
  · exact fun c member => List.all_eq_true.1 List.all_takeWhile c member
  · exact fun c member => List.all_eq_true.1 List.all_takeWhile c (List.mem_reverse.1 member)

end ControlLink.Text
