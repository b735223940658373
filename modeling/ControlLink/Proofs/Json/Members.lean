/-
# ControlLink.Proofs.Json.Members — objects are told apart by their look-ups

Members whose keys differ are found under their keys (`find?_eq_some_iff`). Putting a member in its
place changes what is found under its key only (`find?_insert`) and keeps the keys in order
(`pairwise_insert`), so members that are put in their places one after another are all found
(`find?_membersOf`). Members in order that are found under the same keys are the same list
(`eq_of_find?_eq`).
-/
import ControlLink.Json.Value
import Mathlib.Data.List.Sort
import Mathlib.Data.String.Basic

namespace ControlLink.Json

set_option autoImplicit false

section Find

variable {key : String} {value : Json} {members : List (String × Json)}

theorem find?_cons (key k : String) (v : Json) (rest : List (String × Json)) :
    find? key ((k, v) :: rest) = if key = k then some v else find? key rest := by
  rw [find?, List.lookup_cons]
  by_cases same : key = k
  · rw [if_pos same, beq_iff_eq.2 same]
  · rw [if_neg same, beq_eq_false_iff_ne.2 same]
    rfl

theorem mem_of_find?_eq_some (found : find? key members = some value) : (key, value) ∈ members := by
  induction members with
  | nil => cases found
  | cons member rest ih =>
      obtain ⟨k, v⟩ := member
      rw [find?_cons] at found
      split at found
      next same =>
        cases found
        subst same
        exact List.mem_cons_self
      next differs => exact List.mem_cons_of_mem _ (ih found)

/-- **A member is found under its key** if the keys differ. -/
theorem find?_eq_some_iff (distinct : members.Pairwise (·.1 ≠ ·.1)) :
    find? key members = some value ↔ (key, value) ∈ members := by
  refine ⟨mem_of_find?_eq_some, fun member => ?_⟩
  induction members with
  | nil => cases member
  | cons first rest ih =>
      obtain ⟨k, v⟩ := first
      obtain ⟨others, distinct⟩ := List.pairwise_cons.1 distinct
      rw [find?_cons]
      rcases List.mem_cons.1 member with same | member
      · cases same
        exact if_pos rfl
      · have differs : key ≠ k := fun same => others (key, value) member same.symm
        rw [if_neg differs]
        exact ih distinct member

theorem find?_eq_none_iff : find? key members = none ↔ ∀ member ∈ members, member.1 ≠ key := by
  rw [find?, List.lookup_eq_none_iff]
  simp only [bne_iff_ne, ne_comm]

/-- Among members that are kept a key is found if what it is found with is kept. -/
theorem find?_filter (distinct : members.Pairwise (·.1 ≠ ·.1)) (keep : String × Json → Bool)
    (key : String) :
    find? key (members.filter keep) =
      (find? key members).filter fun value => keep (key, value) := by
  ext value
  rw [Option.filter_eq_some_iff, find?_eq_some_iff distinct,
    find?_eq_some_iff (distinct.filter keep), List.mem_filter]

end Find

/-! ## Members in order -/

theorem pairwise_ne_of_lt {members : List (String × Json)}
    (ordered : members.Pairwise (·.1 < ·.1)) : members.Pairwise (·.1 ≠ ·.1) :=
  ordered.imp fun smaller => ne_of_lt smaller

/-- **Members in order are known by what is found** under each key. -/
theorem eq_of_find?_eq {members others : List (String × Json)}
    (ordered : members.Pairwise (·.1 < ·.1)) (ordered' : others.Pairwise (·.1 < ·.1))
    (same : ∀ key, find? key members = find? key others) : members = others := by
  have : Std.Antisymm fun first second : String × Json => first.1 < second.1 :=
    ⟨fun _ _ smaller greater => absurd greater (String.lt_asymm smaller)⟩
  have : Std.Irrefl fun first second : String × Json => first.1 < second.1 :=
    ⟨fun _ => String.lt_irrefl _⟩
  refine ordered.eq_of_mem_iff ordered' ?_
  rintro ⟨key, value⟩
  rw [← find?_eq_some_iff (pairwise_ne_of_lt ordered), same,
    find?_eq_some_iff (pairwise_ne_of_lt ordered')]

section Insert

variable {key : String} {value : Json} {members : List (String × Json)}

theorem mem_of_mem_insert {member : String × Json} (inside : member ∈ insert key value members) :
    member = (key, value) ∨ member ∈ members := by
  induction members with
  | nil => exact .inl (List.mem_singleton.1 inside)
  | cons first rest ih =>
      obtain ⟨k, v⟩ := first
      rw [insert] at inside
      split at inside
      next => exact List.mem_cons.1 inside
      split at inside
      next => exact (List.mem_cons.1 inside).imp_right (List.mem_cons_of_mem _)
      next =>
        rcases List.mem_cons.1 inside with rfl | inside
        · exact .inr List.mem_cons_self
        · exact (ih inside).imp_right (List.mem_cons_of_mem _)

/-- **What is found after a member was put in its place.** -/
theorem find?_insert (k : String) :
    find? k (insert key value members) = if k = key then some value else find? k members := by
  induction members with
  | nil => exact find?_cons k key value []
  | cons first rest ih =>
      obtain ⟨other, v⟩ := first
      rw [insert]
      split
      next => exact find?_cons k key value _
      split
      next same =>
        subst same
        rw [find?_cons, find?_cons]
        split <;> rfl
      next differs =>
        rw [find?_cons, find?_cons, ih]
        by_cases asked : k = other
        · rw [if_pos asked, if_pos asked, if_neg (asked ▸ differs)]
        · rw [if_neg asked, if_neg asked]

theorem pairwise_insert (ordered : members.Pairwise (·.1 < ·.1)) :
    (insert key value members).Pairwise (·.1 < ·.1) := by
  induction members with
  | nil => exact List.pairwise_singleton _ _
  | cons first rest ih =>
      obtain ⟨k, v⟩ := first
      obtain ⟨least, others⟩ := List.pairwise_cons.1 ordered
      rw [insert]
      split
      next smaller =>
        refine List.pairwise_cons.2 ⟨fun member inside => ?_, ordered⟩
        rcases List.mem_cons.1 inside with rfl | inside
        · exact smaller
        · exact String.lt_trans smaller (least member inside)
      split
      next same =>
        subst same
        exact List.pairwise_cons.2 ⟨least, others⟩
      next not_smaller differs =>
        have greater : k < key := lt_of_le_of_ne (String.not_lt.1 not_smaller) differs
        refine List.pairwise_cons.2 ⟨fun member inside => ?_, ih others⟩
        rcases mem_of_mem_insert inside with rfl | inside
        · exact greater
        · exact least member inside

end Insert

/-! ## Members put in their places -/

theorem pairwise_membersOf (members : List (String × Json)) :
    (membersOf members).Pairwise (·.1 < ·.1) := by
  have onto (done : List (String × Json)) (ordered : done.Pairwise (·.1 < ·.1)) :
      (members.foldl (fun done member => insert member.1 member.2 done) done).Pairwise
        (·.1 < ·.1) := by
    induction members generalizing done with
    | nil => exact ordered
    | cons member rest ih => exact ih _ (pairwise_insert ordered)
  exact onto [] .nil

/-- **Members whose keys differ are all found** after they were put in their places. -/
theorem find?_membersOf {members : List (String × Json)} (distinct : members.Pairwise (·.1 ≠ ·.1))
    (key : String) : find? key (membersOf members) = find? key members := by
  have onto (done : List (String × Json)) :
      find? key (members.foldl (fun done member => insert member.1 member.2 done) done) =
        (find? key members).or (find? key done) := by
    induction members generalizing done with
    | nil => rfl
    | cons member rest ih =>
        obtain ⟨k, v⟩ := member
        obtain ⟨others, distinct⟩ := List.pairwise_cons.1 distinct
        rw [List.foldl_cons, ih distinct, find?_insert, find?_cons]
        split
        next same =>
          subst same
          rw [find?_eq_none_iff.2 fun member inside => (others member inside).symm]
          rfl
        next => rfl
  exact (onto []).trans (Option.or_none)

end ControlLink.Json
