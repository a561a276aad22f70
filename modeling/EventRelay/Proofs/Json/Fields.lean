import EventRelay.Json.Basic

/-!
# Laws of entries

What each operation on entries does to a look-up, and that every operation keeps the keys in
increasing order. Of entries that are set one after the other, the last one of a key counts. The
laws that `simp` uses bring a look-up down to the single entries.
-/

namespace EventRelay.Fields

/-- Keys come in increasing order. -/
def IsSorted (fields : Fields) : Prop := (keys fields).Pairwise (· < ·)

theorem insertAll_cons (fields : Fields) (entry : String × Json) (others : Fields) :
    insertAll fields (entry :: others) = insertAll (insert fields entry.1 entry.2) others := rfl

@[simp] theorem get?_nil (key : String) : get? [] key = none := rfl

@[simp] theorem get?_cons (entry : String × Json) (fields : Fields) (key : String) :
    get? (entry :: fields) key = if key = entry.1 then some entry.2 else get? fields key := by
  obtain ⟨k, v⟩ := entry
  rw [get?, List.lookup_cons]
  by_cases h : key = k
  · simp [h]
  · have hb : (key == k) = false := by simpa using h
    simp only [hb, h, if_false, get?]

/-- A look-up in joined entries prefers the first ones. -/
@[simp] theorem get?_append (first second : Fields) (key : String) :
    get? (first ++ second) key = (get? first key).or (get? second key) := List.lookup_append

/-- What is found of an optional value. -/
@[simp] theorem get?_ofOption {α : Type} (key : String) (write : α → Json) (value : Option α)
    (other : String) :
    get? (ofOption key write value) other = if other = key then value.map write else none := by
  cases value with
  | none => simp [ofOption]
  | some v => simp [ofOption]

@[simp] theorem reverse_ofOption {α : Type} (key : String) (write : α → Json) (value : Option α) :
    (ofOption key write value).reverse = ofOption key write value := by
  cases value <;> rfl

/-- A look-up fails exactly for a key that is not there. -/
theorem get?_eq_none_iff {fields : Fields} {key : String} :
    get? fields key = none ↔ key ∉ keys fields := by
  induction fields with
  | nil => simp [keys]
  | cons entry rest ih =>
    rw [get?_cons]
    by_cases h : key = entry.1
    · simp [h, keys]
    · simp only [h, if_false, ih, keys, List.map_cons, List.mem_cons, false_or]

/-- A look-up succeeds exactly for a key that is there. -/
theorem isSome_get?_iff {fields : Fields} {key : String} :
    (get? fields key).isSome ↔ key ∈ keys fields := by
  rw [Option.isSome_iff_ne_none, ne_eq, get?_eq_none_iff, Decidable.not_not]

/-- What is found is one of the entries. -/
theorem mem_of_get? {fields : Fields} {key : String} {value : Json}
    (h : get? fields key = some value) : (key, value) ∈ fields := by
  obtain ⟨before, after, rfl, -⟩ := List.lookup_eq_some_iff.mp h
  exact List.mem_append_right before List.mem_cons_self

/-- Entries that are kept by their keys. -/
theorem get?_filter (fields : Fields) (p : String → Bool) (key : String) :
    get? (fields.filter fun entry ↦ p entry.1) key =
      if p key then get? fields key else none := by
  induction fields with
  | nil => simp
  | cons entry rest ih =>
    rw [List.filter_cons, get?_cons]
    by_cases hp : p entry.1
    · simp only [hp, if_true, get?_cons, ih]
      by_cases h : key = entry.1 <;> simp [h, hp]
    · simp only [hp, if_false, Bool.false_eq_true, ih]
      by_cases h : key = entry.1 <;> simp [h, hp]

/-- Erasing a key takes away its value alone. -/
theorem get?_erase (fields : Fields) (key other : String) :
    get? (erase fields key) other = if other = key then none else get? fields other := by
  rw [erase, get?_filter fields (· != key)]
  by_cases h : other = key <;> simp [h]

theorem erase_append (first second : Fields) (key : String) :
    erase (first ++ second) key = erase first key ++ erase second key := List.filter_append ..

theorem keys_erase (fields : Fields) (key : String) :
    keys (erase fields key) = (keys fields).filter (· != key) := by
  rw [keys, keys, erase, List.filter_map]
  rfl

/-- An erased key is not there. -/
theorem notMem_keys_erase (fields : Fields) (key : String) : key ∉ keys (erase fields key) := by
  simp [keys_erase]

/-- Erasing a key that is not there changes nothing. -/
theorem erase_of_notMem {fields : Fields} {key : String} (h : key ∉ keys fields) :
    erase fields key = fields := by
  rw [erase, List.filter_eq_self]
  intro entry hm
  have hne : entry.1 ≠ key := fun he ↦ h (he ▸ List.mem_map_of_mem hm)
  simpa using hne

/-- An entry is placed among the others. -/
private theorem perm_place (key : String) (value : Json) (fields : Fields) :
    (place key value fields).Perm ((key, value) :: fields) := by
  induction fields with
  | nil => exact List.Perm.refl _
  | cons entry rest ih =>
    rw [place]
    split
    · exact List.Perm.refl _
    · exact (ih.cons entry).trans (List.Perm.swap _ _ _)

private theorem mem_keys_place {key other : String} {value : Json} {fields : Fields} :
    other ∈ keys (place key value fields) ↔ other = key ∨ other ∈ keys fields := by
  rw [keys, ((perm_place key value fields).map (·.1)).mem_iff, List.map_cons, List.mem_cons, keys]

/-- Placing an entry with a new key sets its value alone. -/
private theorem get?_place {key : String} {fields : Fields} (h : key ∉ keys fields) (value : Json)
    (other : String) :
    get? (place key value fields) other =
      if other = key then some value else get? fields other := by
  induction fields with
  | nil => rw [place, get?_cons]
  | cons entry rest ih =>
    have hn : key ≠ entry.1 := fun he ↦ h (by simp [keys, he])
    have hr : key ∉ keys rest := fun hm ↦ h (List.mem_cons_of_mem _ hm)
    rw [place]
    split
    · rw [get?_cons]
    · rw [get?_cons, get?_cons, ih hr]
      by_cases he : other = entry.1
      · simp [he, hn.symm]
      · simp [he]

/-- Setting a key changes its value alone. -/
theorem get?_insert (fields : Fields) (key : String) (value : Json) (other : String) :
    get? (insert fields key value) other =
      if other = key then some value else get? fields other := by
  rw [insert, get?_place (notMem_keys_erase fields key), get?_erase]
  by_cases h : other = key <;> simp [h]

/-- What a key was set to does not matter once it is erased. -/
theorem erase_insert (fields : Fields) (key : String) (value : Json) :
    erase (insert fields key value) key = erase fields key := by
  have hp (rest : Fields) : erase (place key value rest) key = erase rest key := by
    induction rest with
    | nil => simp [place, erase]
    | cons entry rest ih =>
      rw [place]
      split
      · simp [erase]
      · simpa only [erase, List.filter_cons] using
          by split <;> first | exact congrArg _ ih | exact ih
  rw [insert, hp, erase, erase, List.filter_filter]
  simp

/-- What is set twice has the second value. -/
theorem insert_insert (fields : Fields) (key : String) (first second : Json) :
    insert (insert fields key first) key second = insert fields key second := by
  rw [insert, erase_insert, insert]

/-- Of several entries that are set, the last one of a key counts. -/
theorem get?_insertAll (fields others : Fields) (key : String) :
    get? (insertAll fields others) key = (get? others.reverse key).or (get? fields key) := by
  induction others generalizing fields with
  | nil => rfl
  | cons entry rest ih =>
    rw [insertAll_cons, ih, get?_insert, List.reverse_cons, get?_append, Option.or_assoc]
    congr 1
    rw [get?_cons, get?_nil]
    by_cases h : key = entry.1 <;> simp [h]

/-- Of entries in an empty object the last one of a key counts. -/
@[simp] theorem get?_ofEntries (entries : Fields) (key : String) :
    get? (ofEntries entries) key = get? entries.reverse key := by
  rw [ofEntries, get?_insertAll, get?_nil, Option.or_none]

/-- Among entries with distinct keys it does not matter which one comes last. -/
theorem get?_reverse {fields : Fields} (h : (keys fields).Nodup) (key : String) :
    get? fields.reverse key = get? fields key := by
  induction fields with
  | nil => rfl
  | cons entry rest ih =>
    obtain ⟨hn, hr⟩ := List.nodup_cons.mp h
    rw [List.reverse_cons, get?_append, ih hr, get?_cons, get?_nil, get?_cons]
    by_cases he : key = entry.1
    · have hnone : get? rest key = none := get?_eq_none_iff.mpr (he ▸ hn)
      rw [hnone, Option.none_or]
    · rw [if_neg he, if_neg he, Option.or_none]

/-- An entry is the one that was set or was there before. -/
theorem mem_insert {fields : Fields} {key : String} {value : Json} {entry : String × Json}
    (h : entry ∈ insert fields key value) : entry = (key, value) ∨ entry ∈ fields := by
  rcases List.mem_cons.mp ((perm_place key value (erase fields key)).mem_iff.mp h) with h | h
  · exact .inl h
  · exact .inr (List.mem_filter.mp h).1

/-- An entry is one of those that were set or was there before. -/
theorem mem_insertAll {fields others : Fields} {entry : String × Json}
    (h : entry ∈ insertAll fields others) : entry ∈ fields ∨ entry ∈ others := by
  induction others generalizing fields with
  | nil => exact .inl h
  | cons other rest ih =>
    rcases ih h with h | h
    · rcases mem_insert h with rfl | h
      · exact .inr List.mem_cons_self
      · exact .inl h
    · exact .inr (List.mem_cons_of_mem _ h)

/-! ### Order -/

theorem nodup_keys {fields : Fields} (h : IsSorted fields) : (keys fields).Nodup :=
  List.Pairwise.imp Std.ne_of_lt h

theorem isSorted_filter {fields : Fields} (h : IsSorted fields) (p : String × Json → Bool) :
    IsSorted (fields.filter p) :=
  List.Pairwise.sublist (List.filter_sublist.map _) h

private theorem isSorted_place {fields : Fields} (h : IsSorted fields) {key : String}
    (hn : key ∉ keys fields) (value : Json) : IsSorted (place key value fields) := by
  induction fields with
  | nil => simp [place, IsSorted, keys]
  | cons entry rest ih =>
    obtain ⟨hlt, hr⟩ := List.pairwise_cons.mp h
    rw [place]
    split
    · next hk =>
      refine List.pairwise_cons.mpr ⟨?_, h⟩
      intro other ho
      rcases List.mem_cons.mp ho with rfl | ho
      · exact hk
      · exact Std.lt_trans hk (hlt other ho)
    · next hk =>
      have hne : key ≠ entry.1 := fun he ↦ hn (by simp [keys, he])
      have hmem : key ∉ keys rest := fun hm ↦ hn (List.mem_cons_of_mem _ hm)
      have hgt : entry.1 < key := Std.lt_of_le_of_ne (Std.not_lt.mp hk) hne.symm
      refine List.pairwise_cons.mpr ⟨?_, ih hr hmem⟩
      intro other ho
      rcases mem_keys_place.mp ho with rfl | ho
      · exact hgt
      · exact hlt other ho

theorem isSorted_insert {fields : Fields} (h : IsSorted fields) (key : String) (value : Json) :
    IsSorted (insert fields key value) :=
  isSorted_place (isSorted_filter h _) (notMem_keys_erase fields key) value

theorem isSorted_insertAll {fields : Fields} (h : IsSorted fields) (others : Fields) :
    IsSorted (insertAll fields others) := by
  induction others generalizing fields with
  | nil => exact h
  | cons entry rest ih => exact ih (isSorted_insert h entry.1 entry.2)

/-- Entries that are set in an empty object are sorted. -/
theorem isSorted_ofEntries (entries : Fields) : IsSorted (ofEntries entries) :=
  isSorted_insertAll (show IsSorted [] from List.Pairwise.nil) entries

/-- An entry with a key behind all others goes to the end. -/
private theorem insert_of_forall_lt {fields : Fields} {key : String}
    (h : ∀ k ∈ keys fields, k < key)
    (value : Json) : insert fields key value = fields ++ [(key, value)] := by
  rw [insert, erase_of_notMem fun hm ↦ Std.lt_irrefl (h key hm)]
  induction fields with
  | nil => rfl
  | cons entry rest ih =>
    have hlt : entry.1 < key := h entry.1 (by simp [keys])
    have hr : ∀ k ∈ keys rest, k < key := fun k hk ↦ h k (List.mem_cons_of_mem _ hk)
    rw [place, if_neg (Std.not_lt.mpr (Std.le_of_lt hlt)), ih hr, List.cons_append]

/-- Entries in order are as they would be set. -/
theorem ofEntries_of_isSorted {fields : Fields} (h : IsSorted fields) :
    ofEntries fields = fields := by
  have run (done rest : Fields) (hs : IsSorted (done ++ rest)) :
      insertAll done rest = done ++ rest := by
    induction rest generalizing done with
    | nil => simp [insertAll]
    | cons entry rest ih =>
      have hlt : ∀ k ∈ keys done, k < entry.1 := by
        intro k hk
        rw [IsSorted, keys, List.map_append, List.pairwise_append] at hs
        exact hs.2.2 k hk entry.1 (by simp)
      have hi := insert_of_forall_lt hlt entry.2
      have := ih (done ++ [entry]) (by simpa using hs)
      rw [insertAll_cons, hi]
      simpa using this
  exact run [] fields h

private theorem get?_eq_none_of_lt {entry : String × Json} {rest : Fields}
    (h : IsSorted (entry :: rest)) {key : String} (hk : key < entry.1) :
    get? (entry :: rest) key = none := by
  obtain ⟨hlt, -⟩ := List.pairwise_cons.mp h
  refine get?_eq_none_iff.mpr fun hm ↦ ?_
  rcases List.mem_cons.mp hm with he | hm
  · exact Std.ne_of_lt hk he
  · exact Std.lt_irrefl (Std.lt_trans hk (hlt key hm))

/-- Entries in order are determined by what is found under each key. -/
theorem ext_of_isSorted {first second : Fields} (hf : IsSorted first) (hs : IsSorted second)
    (h : ∀ key, get? first key = get? second key) : first = second := by
  induction first generalizing second with
  | nil =>
    cases second with
    | nil => rfl
    | cons entry rest => simpa using h entry.1
  | cons entry rest ih =>
    cases second with
    | nil => simpa using h entry.1
    | cons other others =>
      have hk : entry.1 = other.1 := by
        rcases Std.lt_trichotomy entry.1 other.1 with hlt | he | hlt
        · have hnone := (h entry.1).trans (get?_eq_none_of_lt hs hlt)
          simp at hnone
        · exact he
        · have hnone := (h other.1).symm.trans (get?_eq_none_of_lt hf hlt)
          simp at hnone
      have hv : entry.2 = other.2 := by
        have := h entry.1
        rw [get?_cons, get?_cons, if_pos rfl, if_pos hk] at this
        exact Option.some.inj this
      obtain ⟨hlt, hr⟩ := List.pairwise_cons.mp hf
      obtain ⟨hlt', hr'⟩ := List.pairwise_cons.mp hs
      have ht : rest = others := by
        refine ih hr hr' fun key ↦ ?_
        by_cases he : key = entry.1
        · have hn : key ∉ keys rest := fun hm ↦ Std.lt_irrefl (he ▸ hlt key hm)
          have hn' : key ∉ keys others := by
            rw [he, hk]
            exact fun hm ↦ Std.lt_irrefl (hlt' other.1 hm)
          rw [get?_eq_none_iff.mpr hn, get?_eq_none_iff.mpr hn']
        · have := h key
          rwa [get?_cons, get?_cons, if_neg he, if_neg (hk ▸ he)] at this
      rw [ht, Prod.ext hk hv]

/-- It makes no difference whether a key is erased before or after the entries are sorted. -/
theorem ofEntries_erase (entries : Fields) (key : String) :
    ofEntries (erase entries key) = erase (ofEntries entries) key := by
  refine ext_of_isSorted (isSorted_ofEntries _) (isSorted_filter (isSorted_ofEntries _) _) ?_
  intro other
  have hr : (erase entries key).reverse = erase entries.reverse key := by
    rw [erase, erase, List.filter_reverse]
  rw [get?_erase, ofEntries, ofEntries, get?_insertAll, get?_insertAll, get?_nil, Option.or_none,
    Option.or_none, hr, get?_erase]

/-! ### Entries in another order -/

theorem nodup_keys_iff_of_perm {first second : Fields} (h : first.Perm second) :
    (keys first).Nodup ↔ (keys second).Nodup := (h.map Prod.fst).nodup_iff

/-- A new key is put among the others. -/
theorem perm_insert {fields : Fields} {key : String} (h : key ∉ keys fields) (value : Json) :
    (insert fields key value).Perm ((key, value) :: fields) := by
  rw [insert, erase_of_notMem h]
  exact perm_place key value fields

/-- Entries with distinct keys are all kept when they are put in order. -/
theorem perm_ofEntries {entries : Fields} (h : (keys entries).Nodup) :
    (ofEntries entries).Perm entries := by
  have run (done rest : Fields) (hn : (keys (rest ++ done)).Nodup) :
      (insertAll done rest).Perm (rest ++ done) := by
    induction rest generalizing done with
    | nil => exact List.Perm.refl _
    | cons entry rest ih =>
      have hnew : entry.1 ∉ keys done := by
        intro hm
        have hlater : entry.1 ∈ keys (rest ++ done) := by
          rw [keys, List.map_append]
          exact List.mem_append_right _ hm
        exact (List.nodup_cons.mp hn).1 hlater
      have hput : (rest ++ insert done entry.1 entry.2).Perm (entry :: (rest ++ done)) :=
        ((perm_insert hnew entry.2).append_left rest).trans List.perm_middle
      rw [insertAll_cons]
      exact (ih _ ((nodup_keys_iff_of_perm hput).mpr hn)).trans hput
  have hall := run [] entries (by rwa [List.append_nil])
  rwa [List.append_nil] at hall

/-- The order of entries with distinct keys makes no difference once they are put in order. -/
theorem ofEntries_congr {first second : Fields} (h : (keys first).Nodup)
    (hp : first.Perm second) : ofEntries first = ofEntries second := by
  have hsecond : (keys second).Nodup := (nodup_keys_iff_of_perm hp).mp h
  have hperm : (ofEntries first).Perm (ofEntries second) :=
    (perm_ofEntries h).trans (hp.trans (perm_ofEntries hsecond).symm)
  refine List.Perm.eq_of_pairwise ?_ (List.pairwise_map.mp (isSorted_ofEntries first))
    (List.pairwise_map.mp (isSorted_ofEntries second)) hperm
  intro a b _ _ hab hba
  exact absurd (Std.lt_trans hab hba) Std.lt_irrefl

end EventRelay.Fields
