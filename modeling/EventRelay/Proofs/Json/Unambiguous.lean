import EventRelay.Proofs.Json.Canonical
import EventRelay.Proofs.Json.Printing
import EventRelay.Proofs.Json.Reading

/-!
# No two values have the same text

The compact text of a value shows where it ends: behind it there is nothing, a comma or a closing
bracket, and none of these can go on with a number. So two values with the same text are the same,
keys in order and all, as long as no two different numbers in them are written alike.
-/

namespace EventRelay

/-- Numbers of two lists that are written alike are the same. -/
def JsonNumber.DistinctTokens (first second : List JsonNumber) : Prop :=
  ∀ m ∈ first, ∀ n ∈ second, Json.renderNumber m = Json.renderNumber n → m = n

namespace JsonNumber.DistinctTokens

theorem mono {first second first' second' : List JsonNumber}
    (h : DistinctTokens first second) (hf : first' ⊆ first) (hs : second' ⊆ second) :
    DistinctTokens first' second' :=
  fun m hm n hn ↦ h m (hf hm) n (hs hn)

private theorem left {first more second more' : List JsonNumber}
    (h : DistinctTokens (first ++ more) (second ++ more')) : DistinctTokens first second :=
  h.mono (List.subset_append_left _ _) (List.subset_append_left _ _)

private theorem right {first more second more' : List JsonNumber}
    (h : DistinctTokens (first ++ more) (second ++ more')) : DistinctTokens more more' :=
  h.mono (List.subset_append_right _ _) (List.subset_append_right _ _)

end JsonNumber.DistinctTokens

namespace Json
open JsonNumber (DistinctTokens)

/-! ### Tokens -/

/-- The characters that numbers are written with. -/
def isNumberChar (c : Char) : Bool := c.isDigit || ['-', '+', '.', 'e'].contains c

/-- A number cannot go on in the text. -/
def EndsToken (rest : List Char) : Prop := ∀ c ∈ rest.head?, isNumberChar c = false

private theorem endsToken_nil : EndsToken [] := fun _ h ↦ nomatch h

private theorem endsToken_cons {c : Char} (h : isNumberChar c = false) (rest : List Char) :
    EndsToken (c :: rest) := by
  intro d hd
  cases hd
  exact h

private theorem isNumberChar_of_mem_decimalDigits {n : Nat} {c : Char}
    (h : c ∈ Number.decimalDigits n) : isNumberChar c := by
  have hd : c.isDigit := Nat.isDigit_of_mem_toDigits (by decide) (by decide) h
  rw [isNumberChar, hd, Bool.true_or]

private theorem decimalDigits_eq_cons (n : Nat) :
    ∃ c rest, Number.decimalDigits n = c :: rest ∧ c.isDigit := by
  cases hd : Number.decimalDigits n with
  | nil => exact absurd hd (by simp [Number.decimalDigits])
  | cons c rest =>
    refine ⟨c, rest, rfl, ?_⟩
    exact Nat.isDigit_of_mem_toDigits (b := 10) (n := n) (by decide) (by decide)
      (by rw [← Number.decimalDigits, hd]; exact List.mem_cons_self)

private theorem isNumberChar_of_mem_exponent {e : Int} {c : Char} (h : c ∈ renderExponent e) :
    isNumberChar c := by
  rcases List.mem_cons.mp h with rfl | h
  · split <;> decide
  · exact isNumberChar_of_mem_decimalDigits h

private theorem isNumberChar_of_mem_decimal {style : DoubleStyle} {d : Number.Decimal} {c : Char}
    (h : c ∈ renderDecimal style d) : isNumberChar c := by
  have hdigits {c : Char} (h : c ∈ Number.decimalDigits d.digits) : isNumberChar c :=
    isNumberChar_of_mem_decimalDigits h
  have hzero {n : Nat} (h : c ∈ List.replicate n '0') : isNumberChar c := by
    rw [(List.mem_replicate.mp h).2]
    decide
  rw [renderDecimal] at h
  split at h
  · -- With an exponent; the point is written behind the first digit if there are others.
    split at h
    · cases h
    · next c' hd =>
      rcases List.mem_cons.mp h with rfl | h
      · exact hdigits (by rw [hd]; exact List.mem_cons_self)
      · rcases List.mem_cons.mp h with rfl | h
        · decide
        · exact isNumberChar_of_mem_exponent h
    · next c' rest hne hd =>
      rcases List.mem_append.mp h with h | h
      · rcases List.mem_cons.mp h with rfl | h
        · exact hdigits (by rw [hd]; exact List.mem_cons_self)
        · rcases List.mem_cons.mp h with rfl | h
          · decide
          · exact hdigits (by rw [hd]; exact List.mem_cons_of_mem _ h)
      · rcases List.mem_cons.mp h with rfl | h
        · decide
        · exact isNumberChar_of_mem_exponent h
  split at h
  · rcases List.mem_append.mp h with h | h
    · exact (List.mem_append.mp h).elim hdigits hzero
    · simp only [List.mem_cons, List.not_mem_nil, or_false] at h
      rcases h with rfl | rfl <;> decide
  split at h
  · rcases List.mem_append.mp h with h | h
    · exact hdigits (List.mem_of_mem_take h)
    · rcases List.mem_cons.mp h with rfl | h
      · decide
      · exact hdigits (List.mem_of_mem_drop h)
  · rcases List.mem_append.mp h with h | h
    · rcases List.mem_cons.mp h with rfl | h
      · decide
      · rcases List.mem_cons.mp h with rfl | h
        · decide
        · exact hzero h
    · exact hdigits h

private theorem isNumberChar_of_mem_renderNumber {n : JsonNumber} {c : Char}
    (h : c ∈ renderNumber n) :
    isNumberChar c := by
  cases n with
  | integer n =>
    rw [renderNumber, renderInt] at h
    split at h
    · rcases List.mem_cons.mp h with rfl | h
      · decide
      · exact isNumberChar_of_mem_decimalDigits h
    · exact isNumberChar_of_mem_decimalDigits h
  | double x =>
    have hmagnitude (h : c ∈ if x.bits = 0 then ['0', '.', '0']
        else renderDecimal doubleStyle x.shortest) : isNumberChar c := by
      split at h
      · simp only [List.mem_cons, List.not_mem_nil, or_false] at h
        rcases h with rfl | rfl | rfl <;> decide
      · exact isNumberChar_of_mem_decimal h
    rw [renderNumber, renderDouble] at h
    split at h
    · rcases List.mem_cons.mp h with rfl | h
      · decide
      · exact hmagnitude h
    · exact hmagnitude h

private theorem exists_cons_renderDecimal (style : DoubleStyle) (d : Number.Decimal) :
    ∃ c t, renderDecimal style d = c :: t ∧ c.isDigit := by
  obtain ⟨c, rest, hd, hc⟩ := decimalDigits_eq_cons d.digits
  rw [renderDecimal, hd]
  split
  · split
    · next he => cases he
    · next he => cases he; exact ⟨c, _, rfl, hc⟩
    · next he => cases he; exact ⟨c, _, rfl, hc⟩
  split
  · exact ⟨c, _, rfl, hc⟩
  split
  · exact ⟨c, _, rfl, hc⟩
  · exact ⟨'0', _, rfl, by decide⟩

/-- A number starts with its sign or with a digit. -/
theorem exists_cons_renderNumber (n : JsonNumber) :
    ∃ c t, renderNumber n = c :: t ∧ (c = '-' ∨ c.isDigit) := by
  cases n with
  | integer n =>
    obtain ⟨c, rest, hd, hc⟩ := decimalDigits_eq_cons n.natAbs
    rw [renderNumber, renderInt, hd]
    split
    · exact ⟨'-', _, rfl, .inl rfl⟩
    · exact ⟨c, _, rfl, .inr hc⟩
  | double x =>
    obtain ⟨c, rest, hd, hc⟩ := exists_cons_renderDecimal doubleStyle x.shortest
    rw [renderNumber, renderDouble, hd]
    split
    · exact ⟨'-', _, rfl, .inl rfl⟩
    · split
      · exact ⟨'0', _, rfl, .inr (by decide)⟩
      · exact ⟨c, _, rfl, .inr hc⟩

private theorem renderNumber_append_inj {m n : JsonNumber} {rest rest' : List Char}
    (hr : EndsToken rest) (hr' : EndsToken rest')
    (h : renderNumber m ++ rest = renderNumber n ++ rest') :
    renderNumber m = renderNumber n ∧ rest = rest' := by
  have taken (n : JsonNumber) {rest : List Char} (hr : EndsToken rest) :
      (renderNumber n ++ rest).takeWhile isNumberChar = renderNumber n := by
    have hall : ∀ c ∈ renderNumber n, isNumberChar c := fun c ↦ isNumberChar_of_mem_renderNumber
    rw [List.takeWhile_append_of_pos hall]
    cases rest with
    | nil => simp
    | cons c rest => rw [List.takeWhile_cons, hr c rfl]; simp
  have hm : renderNumber m = renderNumber n := by rw [← taken m hr, h, taken n hr']
  rw [hm] at h
  exact ⟨hm, List.append_cancel_left h⟩

/-- Where a string ends is seen from the text. -/
private theorem renderString_append_inj {s t : String} {rest rest' : List Char}
    (h : renderString s ++ rest = renderString t ++ rest') : s = t ∧ rest = rest' := by
  have hs := Parser.string_renderString s rest
  rw [h, Parser.string_renderString] at hs
  cases hs
  exact ⟨rfl, rfl⟩

/-! ### Values -/

/-- The type of the values that start with a character; nothing for one that starts no value. -/
def typeAt (c : Char) : String :=
  if c = '-' ∨ c.isDigit then "number"
  else if c = 'n' then "null"
  else if c = 't' ∨ c = 'f' then "boolean"
  else if c = '"' then "string"
  else if c = '[' then "array"
  else if c = '\x7b' then "object"
  else ""

private theorem exists_cons_render (v : Json) :
    ∃ c t, render v = c :: t ∧ typeAt c = v.typeName := by
  cases v with
  | null => exact ⟨_, _, rfl, by decide⟩
  | bool b => cases b <;> exact ⟨_, _, rfl, by decide⟩
  | number n =>
    obtain ⟨c, t, hn, hc⟩ := exists_cons_renderNumber n
    exact ⟨c, t, hn, if_pos hc⟩
  | string s => exact ⟨_, _, rfl, rfl⟩
  | array items => exact ⟨_, _, rfl, rfl⟩
  | object fields => exact ⟨_, _, rfl, rfl⟩

/-- The type of a value is seen from its first character. -/
private theorem typeName_eq_of_render {v w : Json} {rest rest' : List Char}
    (h : render v ++ rest = render w ++ rest') : v.typeName = w.typeName := by
  obtain ⟨c, t, hv, hc⟩ := exists_cons_render v
  obtain ⟨d, u, hw, hd⟩ := exists_cons_render w
  rw [hv, hw, List.cons_append, List.cons_append] at h
  rw [← hc, ← hd, (List.cons.inj h).1]

/-- No value starts with a closing bracket. -/
private theorem render_append_ne (v : Json) (rest rest' : List Char) :
    render v ++ rest ≠ ']' :: rest' := by
  obtain ⟨c, t, hv, hc⟩ := exists_cons_render v
  rw [hv, List.cons_append]
  intro he
  have hclose : typeAt ']' = "" := by decide
  rw [(List.cons.inj he).1, hclose] at hc
  cases v <;> simp [typeName] at hc

mutual

/-- The numbers in a value. -/
def numbers : Json → List JsonNumber
  | .number n => [n]
  | .array items => numbersOfItems items
  | .object fields => numbersOfFields fields
  | _ => []

/-- The numbers in the items of an array. -/
def numbersOfItems : List Json → List JsonNumber
  | [] => []
  | item :: rest => numbers item ++ numbersOfItems rest

/-- The numbers in the values of entries. -/
def numbersOfFields : List (String × Json) → List JsonNumber
  | [] => []
  | (_, value) :: rest => numbers value ++ numbersOfFields rest

end

/-- What is written behind an item of an array. -/
def behindItem : List Json → List Char
  | [] => [']']
  | item :: rest => ',' :: renderItems (item :: rest)

/-- What is written behind an entry of an object. -/
def behindEntry : List (String × Json) → List Char
  | [] => ['\x7d']
  | entry :: rest => ',' :: renderFields (entry :: rest)

private theorem renderItems_cons (item : Json) (rest : List Json) :
    renderItems (item :: rest) = render item ++ behindItem rest := by
  cases rest <;> rfl

private theorem renderFields_cons (key : String) (value : Json) (rest : List (String × Json)) :
    renderFields ((key, value) :: rest) =
      renderString key ++ ':' :: (render value ++ behindEntry rest) := by
  cases rest <;> simp [renderFields, behindEntry]

private theorem endsToken_behindItem (items : List Json) (rest : List Char) :
    EndsToken (behindItem items ++ rest) := by
  cases items <;> exact endsToken_cons (by decide) _

private theorem endsToken_behindEntry (fields : List (String × Json)) (rest : List Char) :
    EndsToken (behindEntry fields ++ rest) := by
  cases fields <;> exact endsToken_cons (by decide) _

mutual

/-- Where a value ends and what it is are seen from the text. -/
theorem render_append_inj (v w : Json) {rest rest' : List Char}
    (hn : DistinctTokens v.numbers w.numbers) (hr : EndsToken rest) (hr' : EndsToken rest')
    (h : render v ++ rest = render w ++ rest') : v = w ∧ rest = rest' := by
  have htype := typeName_eq_of_render h
  cases v with
  | null =>
    cases w with
    | null => exact ⟨rfl, List.append_cancel_left h⟩
    | _ => exact absurd htype (by simp [typeName])
  | bool b =>
    cases w with
    | bool b' =>
      -- The two words differ in their first characters.
      cases b <;> cases b' <;> first
        | exact ⟨rfl, List.append_cancel_left h⟩
        | exact absurd (List.cons.inj h).1 (by decide)
    | _ => exact absurd htype (by simp [typeName])
  | number m =>
    cases w with
    | number n =>
      obtain ⟨ht, hrest⟩ := renderNumber_append_inj hr hr' h
      have hm : m = n := hn m (List.mem_singleton_self m) n (List.mem_singleton_self n) ht
      exact ⟨by rw [hm], hrest⟩
    | _ => exact absurd htype (by simp [typeName])
  | string s =>
    cases w with
    | string t =>
      obtain ⟨hs, hrest⟩ := renderString_append_inj h
      exact ⟨by rw [hs], hrest⟩
    | _ => exact absurd htype (by simp [typeName])
  | array items =>
    cases w with
    | array others =>
      obtain ⟨hi, hrest⟩ := renderItems_append_inj items others hn (List.cons.inj h).2
      exact ⟨by rw [hi], hrest⟩
    | _ => exact absurd htype (by simp [typeName])
  | object fields =>
    cases w with
    | object others =>
      obtain ⟨hf, hrest⟩ := renderFields_append_inj fields others hn (List.cons.inj h).2
      exact ⟨by rw [hf], hrest⟩
    | _ => exact absurd htype (by simp [typeName])
  termination_by structural v

/-- Where an array ends and what its items are are seen from the text. -/
theorem renderItems_append_inj (items others : List Json) {rest rest' : List Char}
    (hn : DistinctTokens (numbersOfItems items) (numbersOfItems others))
    (h : renderItems items ++ rest = renderItems others ++ rest') :
    items = others ∧ rest = rest' := by
  cases items with
  | nil =>
    cases others with
    | nil => exact ⟨rfl, (List.cons.inj h).2⟩
    | cons other more' =>
      rw [renderItems_cons, List.append_assoc] at h
      exact absurd h.symm (render_append_ne other _ _)
  | cons item more =>
    cases others with
    | nil =>
      rw [renderItems_cons, List.append_assoc] at h
      exact absurd h (render_append_ne item _ _)
    | cons other more' =>
      rw [renderItems_cons, renderItems_cons, List.append_assoc, List.append_assoc] at h
      obtain ⟨hi, h⟩ := render_append_inj item other hn.left (endsToken_behindItem more rest)
        (endsToken_behindItem more' rest') h
      cases more with
      | nil =>
        cases more' with
        | nil => exact ⟨by rw [hi], (List.cons.inj h).2⟩
        | cons next' more' => exact absurd (List.cons.inj h).1 (by decide)
      | cons next more =>
        cases more' with
        | nil => exact absurd (List.cons.inj h).1 (by decide)
        | cons next' more' =>
          obtain ⟨hm, hrest⟩ := renderItems_append_inj (next :: more) (next' :: more') hn.right
            (List.cons.inj h).2
          exact ⟨by rw [hi, hm], hrest⟩
  termination_by structural items

/-- Where an object ends and what its entries are are seen from the text. -/
theorem renderFields_append_inj (fields others : List (String × Json)) {rest rest' : List Char}
    (hn : DistinctTokens (numbersOfFields fields) (numbersOfFields others))
    (h : renderFields fields ++ rest = renderFields others ++ rest') :
    fields = others ∧ rest = rest' := by
  cases fields with
  | nil =>
    cases others with
    | nil => exact ⟨rfl, (List.cons.inj h).2⟩
    | cons other more' =>
      obtain ⟨key', value'⟩ := other
      rw [renderFields_cons] at h
      exact absurd (List.cons.inj h).1 (by decide)
  | cons entry more =>
    obtain ⟨key, value⟩ := entry
    cases others with
    | nil =>
      rw [renderFields_cons] at h
      exact absurd (List.cons.inj h).1 (by decide)
    | cons other more' =>
      obtain ⟨key', value'⟩ := other
      rw [renderFields_cons, renderFields_cons, List.append_assoc, List.append_assoc,
        List.cons_append, List.cons_append, List.append_assoc, List.append_assoc] at h
      obtain ⟨hk, h⟩ := renderString_append_inj h
      obtain ⟨hv, h⟩ := render_append_inj value value' hn.left (endsToken_behindEntry more rest)
        (endsToken_behindEntry more' rest') (List.cons.inj h).2
      cases more with
      | nil =>
        cases more' with
        | nil => exact ⟨by rw [hk, hv], (List.cons.inj h).2⟩
        | cons next' more' => exact absurd (List.cons.inj h).1 (by decide)
      | cons next more =>
        cases more' with
        | nil => exact absurd (List.cons.inj h).1 (by decide)
        | cons next' more' =>
          obtain ⟨hm, hrest⟩ := renderFields_append_inj (next :: more) (next' :: more') hn.right
            (List.cons.inj h).2
          exact ⟨by rw [hk, hv, hm], hrest⟩
  termination_by structural fields

end

/-- Values with the same compact text are the same. -/
theorem compact_inj {v w : Json} (hn : DistinctTokens v.numbers w.numbers)
    (h : v.compact = w.compact) : v = w := by
  have hr : render v ++ [] = render w ++ [] := by
    rw [List.append_nil, List.append_nil, ← toList_compact, h, toList_compact]
  exact (render_append_inj v w hn endsToken_nil endsToken_nil hr).1

/-! ### Numbers of canonical values -/

theorem mem_numbersOfFields {n : JsonNumber} {fields : Fields} :
    n ∈ numbersOfFields fields ↔ ∃ entry ∈ fields, n ∈ entry.2.numbers := by
  induction fields with
  | nil => simp [numbersOfFields]
  | cons entry rest ih =>
    rw [numbersOfFields, List.mem_append, ih]
    simp only [List.mem_cons, or_and_right, exists_or, exists_eq_left]

mutual

/-- Putting keys in order brings no numbers in. -/
theorem numbers_canonical_subset (v : Json) : v.canonical.numbers ⊆ v.numbers := by
  cases v with
  | array items => exact numbersOfItems_canonical_subset items
  | object fields =>
    intro n hn
    obtain ⟨entry, he, hn⟩ := mem_numbersOfFields.mp hn
    rcases Fields.mem_insertAll he with he | he
    · cases he
    · exact numbersOfFields_canonical_subset fields (mem_numbersOfFields.mpr ⟨entry, he, hn⟩)
  | null => exact List.Subset.refl _
  | bool b => exact List.Subset.refl _
  | number n => exact List.Subset.refl _
  | string s => exact List.Subset.refl _
  termination_by structural v

private theorem numbersOfItems_canonical_subset (items : List Json) :
    numbersOfItems (canonicalItems items) ⊆ numbersOfItems items := by
  cases items with
  | nil => exact List.Subset.refl _
  | cons item rest =>
    exact List.append_subset.mpr
      ⟨List.Subset.trans (numbers_canonical_subset item) (List.subset_append_left _ _),
        List.Subset.trans (numbersOfItems_canonical_subset rest) (List.subset_append_right _ _)⟩
  termination_by structural items

private theorem numbersOfFields_canonical_subset (fields : List (String × Json)) :
    numbersOfFields (canonicalFields fields) ⊆ numbersOfFields fields := by
  cases fields with
  | nil => exact List.Subset.refl _
  | cons entry rest =>
    obtain ⟨key, value⟩ := entry
    exact List.append_subset.mpr
      ⟨List.Subset.trans (numbers_canonical_subset value) (List.subset_append_left _ _),
        List.Subset.trans (numbersOfFields_canonical_subset rest) (List.subset_append_right _ _)⟩
  termination_by structural fields

end

end Json
end EventRelay
