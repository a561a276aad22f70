import EventRelay.Proofs.Json.Canonical

/-!
# Keys in another order

`Reordered` relates a value to those with the same entries in another order, in any of its objects.
Such values have one canonical form, as long as no object has a key twice, and the canonical form of
a value is one of them. So nothing but the order of keys is lost in it: along every path of keys and
indices there is the canonical form of what was there.
-/

namespace EventRelay.Json

mutual

/-- The second value is the first one with the entries of its objects, at any depth, in another
order. -/
inductive Reordered : Json → Json → Prop
  | refl (v : Json) : Reordered v v
  | array {items items' : List Json} :
      ReorderedItems items items' → Reordered (.array items) (.array items')
  /-- First the values of the entries are reordered in their places, and then the entries. -/
  | object {fields between fields' : Fields} :
      ReorderedFields fields between → between.Perm fields' →
      Reordered (.object fields) (.object fields')

/-- Items are reordered one by one. -/
inductive ReorderedItems : List Json → List Json → Prop
  | nil : ReorderedItems [] []
  | cons {item item' : Json} {rest rest' : List Json} :
      Reordered item item' → ReorderedItems rest rest' →
      ReorderedItems (item :: rest) (item' :: rest')

/-- The values of entries are reordered one by one. -/
inductive ReorderedFields : Fields → Fields → Prop
  | nil : ReorderedFields [] []
  | cons {key : String} {v v' : Json} {rest rest' : Fields} :
      Reordered v v' → ReorderedFields rest rest' →
      ReorderedFields ((key, v) :: rest) ((key, v') :: rest')

end

/-- The keys of entries stay as they are when the values are reordered. -/
theorem ReorderedFields.keys_eq {fields fields' : Fields} (h : ReorderedFields fields fields') :
    Fields.keys fields' = Fields.keys fields := by
  match h with
  | .nil => rfl
  | @ReorderedFields.cons key _ _ _ _ _ hrest => exact congrArg (key :: ·) hrest.keys_eq

private theorem nodup_keys_canonicalFields {fields : Fields} (h : (Fields.keys fields).Nodup) :
    (Fields.keys (canonicalFields fields)).Nodup := by
  rw [keys_canonicalFields]
  exact h

mutual

/-- Values that differ in the order of keys have the same canonical form. -/
theorem Reordered.canonical_eq {v w : Json} (h : v.Reordered w) (hv : v.WellFormed) :
    w.canonical = v.canonical := by
  match h with
  | .refl _ => rfl
  | .array hitems => rw [canonical, canonical, hitems.canonicalItems_eq hv]
  | @Reordered.object _ between fields' hfields hperm =>
    have hbetween : (Fields.keys between).Nodup := by
      rw [hfields.keys_eq]
      exact hv.1
    have hsorted : (canonicalFields between).Perm (canonicalFields fields') := by
      rw [canonicalFields_eq_map, canonicalFields_eq_map]
      exact hperm.map _
    rw [canonical, canonical, ← hfields.canonicalFields_eq hv.2,
      Fields.ofEntries_congr (nodup_keys_canonicalFields hbetween) hsorted]
  termination_by structural h

theorem ReorderedItems.canonicalItems_eq {items items' : List Json}
    (h : ReorderedItems items items') (hv : WellFormedItems items) :
    canonicalItems items' = canonicalItems items := by
  match h with
  | .nil => rfl
  | .cons hitem hrest =>
    rw [canonicalItems, canonicalItems, hitem.canonical_eq hv.1, hrest.canonicalItems_eq hv.2]
  termination_by structural h

theorem ReorderedFields.canonicalFields_eq {fields fields' : Fields}
    (h : ReorderedFields fields fields') (hv : WellFormedFields fields) :
    canonicalFields fields' = canonicalFields fields := by
  match h with
  | .nil => rfl
  | .cons hvalue hrest =>
    rw [canonicalFields, canonicalFields, hvalue.canonical_eq hv.1, hrest.canonicalFields_eq hv.2]
  termination_by structural h

end

mutual

/-- Keys in another order are distinct if they were. -/
theorem Reordered.wellFormed {v w : Json} (h : v.Reordered w) (hv : v.WellFormed) :
    w.WellFormed := by
  match h with
  | .refl _ => exact hv
  | .array hitems => exact hitems.wellFormedItems hv
  | .object hfields hperm =>
    constructor
    · rw [← Fields.nodup_keys_iff_of_perm hperm, hfields.keys_eq]
      exact hv.1
    · apply wellFormedFields_iff.mpr
      intro entry hm
      exact wellFormedFields_iff.mp (hfields.wellFormedFields hv.2) entry (hperm.mem_iff.mpr hm)
  termination_by structural h

private theorem ReorderedItems.wellFormedItems {items items' : List Json}
    (h : ReorderedItems items items') (hv : WellFormedItems items) : WellFormedItems items' := by
  match h with
  | .nil => trivial
  | .cons hitem hrest => exact ⟨hitem.wellFormed hv.1, hrest.wellFormedItems hv.2⟩
  termination_by structural h

private theorem ReorderedFields.wellFormedFields {fields fields' : Fields}
    (h : ReorderedFields fields fields') (hv : WellFormedFields fields) :
    WellFormedFields fields' := by
  match h with
  | .nil => trivial
  | .cons hvalue hrest => exact ⟨hvalue.wellFormed hv.1, hrest.wellFormedFields hv.2⟩
  termination_by structural h

end

mutual

/-- The canonical form of a value differs from it in the order of keys only. -/
theorem reordered_canonical (v : Json) (hv : v.WellFormed) : v.Reordered v.canonical := by
  cases v with
  | null => exact .refl _
  | bool b => exact .refl _
  | number n => exact .refl _
  | string s => exact .refl _
  | array items => exact .array (reorderedItems_canonicalItems items hv)
  | object fields =>
    apply Reordered.object (reorderedFields_canonicalFields fields hv.2)
    exact (Fields.perm_ofEntries (nodup_keys_canonicalFields hv.1)).symm
  termination_by structural v

private theorem reorderedItems_canonicalItems (items : List Json) (hv : WellFormedItems items) :
    ReorderedItems items (canonicalItems items) := by
  cases items with
  | nil => exact .nil
  | cons item rest =>
    exact .cons (reordered_canonical item hv.1) (reorderedItems_canonicalItems rest hv.2)
  termination_by structural items

private theorem reorderedFields_canonicalFields (fields : List (String × Json))
    (hv : WellFormedFields fields) : ReorderedFields fields (canonicalFields fields) := by
  cases fields with
  | nil => exact .nil
  | cons entry rest =>
    obtain ⟨key, v⟩ := entry
    exact .cons (reordered_canonical v hv.1) (reorderedFields_canonicalFields rest hv.2)
  termination_by structural fields

end

/-! ### Paths -/

/-- Where to go from a value: to the value of a key, or to an item. -/
inductive Turn where
  | key (name : String)
  | index (i : Nat)

/-- The value that a turn leads to. -/
def child? : Json → Turn → Option Json
  | .object fields, .key name => Fields.get? fields name
  | .array items, .index i => items[i]?
  | _, _ => none

/-- The value at the end of a path. -/
def at? (v : Json) : List Turn → Option Json
  | [] => some v
  | turn :: path => (v.child? turn).bind fun child ↦ child.at? path

private theorem wellFormed_of_child? {v child : Json} {turn : Turn} (hv : v.WellFormed)
    (h : v.child? turn = some child) : child.WellFormed := by
  unfold child? at h
  split at h
  · exact wellFormedFields_iff.mp hv.2 _ (Fields.mem_of_get? h)
  · exact wellFormedItems_iff.mp hv child (List.mem_of_getElem? h)
  · cases h

private theorem get?_canonicalFields (fields : Fields) (key : String) :
    Fields.get? (canonicalFields fields) key = (Fields.get? fields key).map canonical := by
  induction fields with
  | nil => rfl
  | cons entry rest ih =>
    obtain ⟨name, v⟩ := entry
    rw [canonicalFields, Fields.get?_cons, Fields.get?_cons, ih]
    split <;> rfl

/-- In the canonical form a turn leads to the canonical form of what it leads to in the value. -/
theorem child?_canonical {v : Json} (hv : v.WellFormed) (turn : Turn) :
    v.canonical.child? turn = (v.child? turn).map canonical := by
  cases v with
  | object fields =>
    cases turn with
    | key name =>
      rw [canonical, child?, child?, Fields.get?_ofEntries,
        Fields.get?_reverse (nodup_keys_canonicalFields hv.1), get?_canonicalFields]
    | index i => rfl
  | array items =>
    cases turn with
    | key name => rfl
    | index i => rw [canonical, child?, child?, canonicalItems_eq_map, List.getElem?_map]
  | _ => cases turn <;> rfl

/-- So do whole paths. -/
theorem at?_canonical {v : Json} (hv : v.WellFormed) (path : List Turn) :
    v.canonical.at? path = (v.at? path).map canonical := by
  induction path generalizing v with
  | nil => rfl
  | cons turn path ih =>
    rw [at?, at?, child?_canonical hv]
    cases hc : v.child? turn with
    | none => rfl
    | some child => exact ih (wellFormed_of_child? hv hc)

end EventRelay.Json
