import EventRelay.Proofs.Json.Fields

/-!
# Canonical values

The canonical form of a value is sorted, and a sorted value is its own canonical form. So two
values with the same canonical form that are both sorted are the same.
-/

namespace EventRelay.Json

/-- Entries hold sorted values one by one. -/
theorem sortedFields_iff {fields : Fields} :
    SortedFields fields ↔ ∀ entry ∈ fields, entry.2.Sorted := by
  induction fields with
  | nil => simp [SortedFields]
  | cons entry rest ih => rw [SortedFields, ih, List.forall_mem_cons]

/-- Entries hold well-formed values one by one. -/
theorem wellFormedFields_iff {fields : Fields} :
    WellFormedFields fields ↔ ∀ entry ∈ fields, entry.2.WellFormed := by
  induction fields with
  | nil => simp [WellFormedFields]
  | cons entry rest ih => rw [WellFormedFields, ih, List.forall_mem_cons]

/-- So do lists. -/
theorem wellFormedItems_iff {items : List Json} :
    WellFormedItems items ↔ ∀ item ∈ items, item.WellFormed := by
  induction items with
  | nil => simp [WellFormedItems]
  | cons item rest ih => rw [WellFormedItems, ih, List.forall_mem_cons]

theorem canonicalItems_eq_map (items : List Json) :
    canonicalItems items = items.map canonical := by
  induction items with
  | nil => rfl
  | cons item rest ih => rw [canonicalItems, ih, List.map_cons]

theorem canonicalFields_eq_map (fields : Fields) :
    canonicalFields fields = fields.map fun entry ↦ (entry.1, entry.2.canonical) := by
  induction fields with
  | nil => rfl
  | cons entry rest ih => rw [canonicalFields, ih, List.map_cons]

theorem keys_canonicalFields (fields : Fields) :
    Fields.keys (canonicalFields fields) = Fields.keys fields := by
  rw [canonicalFields_eq_map, Fields.keys, Fields.keys, List.map_map]
  rfl

theorem canonicalFields_erase (fields : Fields) (key : String) :
    canonicalFields (Fields.erase fields key) = Fields.erase (canonicalFields fields) key := by
  rw [canonicalFields_eq_map, canonicalFields_eq_map, Fields.erase, Fields.erase, List.filter_map]
  rfl

mutual

/-- The canonical form of a value is sorted. -/
theorem sorted_canonical (v : Json) : v.canonical.Sorted := by
  cases v with
  | null => trivial
  | bool b => trivial
  | number n => trivial
  | string s => trivial
  | array items => exact sortedItems_canonicalItems items
  | object fields =>
    refine ⟨Fields.isSorted_ofEntries _, sortedFields_iff.mpr ?_⟩
    intro entry he
    rcases Fields.mem_insertAll he with he | he
    · cases he
    · exact sortedFields_iff.mp (sortedFields_canonicalFields fields) entry he
  termination_by structural v

private theorem sortedItems_canonicalItems (items : List Json) :
    SortedItems (canonicalItems items) := by
  cases items with
  | nil => trivial
  | cons item rest => exact ⟨sorted_canonical item, sortedItems_canonicalItems rest⟩
  termination_by structural items

private theorem sortedFields_canonicalFields (fields : List (String × Json)) :
    SortedFields (canonicalFields fields) := by
  cases fields with
  | nil => trivial
  | cons entry rest =>
    obtain ⟨key, v⟩ := entry
    exact ⟨sorted_canonical v, sortedFields_canonicalFields rest⟩
  termination_by structural fields

end

mutual

/-- A sorted value is its own canonical form. -/
theorem canonical_of_sorted (v : Json) (h : v.Sorted) : v.canonical = v := by
  cases v with
  | null => rfl
  | bool b => rfl
  | number n => rfl
  | string s => rfl
  | array items => rw [canonical, canonicalItems_of_sorted items h]
  | object fields =>
    rw [canonical, canonicalFields_of_sorted fields h.2, Fields.ofEntries_of_isSorted h.1]
  termination_by structural v

private theorem canonicalItems_of_sorted (items : List Json) (h : SortedItems items) :
    canonicalItems items = items := by
  cases items with
  | nil => rfl
  | cons item rest =>
    rw [canonicalItems, canonical_of_sorted item h.1, canonicalItems_of_sorted rest h.2]
  termination_by structural items

private theorem canonicalFields_of_sorted (fields : List (String × Json))
    (h : SortedFields fields) :
    canonicalFields fields = fields := by
  cases fields with
  | nil => rfl
  | cons entry rest =>
    obtain ⟨key, v⟩ := entry
    rw [canonicalFields, canonical_of_sorted v h.1, canonicalFields_of_sorted rest h.2]
  termination_by structural fields

end

end EventRelay.Json
