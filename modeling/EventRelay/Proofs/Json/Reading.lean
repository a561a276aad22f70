import EventRelay.Proofs.Json.NumberReading

/-!
# Reading compact text

What is written of a value is read back as the same value with the keys of every object in order,
if it does not nest too deep and its numbers are read back. The reader and the writer agree token
by token: an escaped character stands for itself, and behind a value there is a comma, a closing
bracket or nothing, at which a number ends.
-/

namespace EventRelay

/-- The reader of numbers takes back what is written of a number. -/
def JsonNumber.ReadsBack (n : JsonNumber) : Prop :=
  Json.Parser.number (Json.renderNumber n) = some (n, [])

namespace Json

mutual

/-- Every number in the value reads back. -/
def NumbersReadBack : Json → Prop
  | .number n => n.ReadsBack
  | .array items => ItemsReadBack items
  | .object fields => FieldsReadBack fields
  | _ => True

/-- Every number in the items reads back. -/
def ItemsReadBack : List Json → Prop
  | [] => True
  | item :: rest => NumbersReadBack item ∧ ItemsReadBack rest

/-- Every number in the values of the entries reads back. -/
def FieldsReadBack : List (String × Json) → Prop
  | [] => True
  | (_, value) :: rest => NumbersReadBack value ∧ FieldsReadBack rest

end

/-- The numbers of an object read back value by value. -/
theorem fieldsReadBack_iff {fields : Fields} :
    FieldsReadBack fields ↔ ∀ entry ∈ fields, entry.2.NumbersReadBack := by
  induction fields with
  | nil => simp [FieldsReadBack]
  | cons entry rest ih => rw [FieldsReadBack, ih, List.forall_mem_cons]

/-- An object nests one deeper than its values. -/
theorem depthFields_le_iff {fields : Fields} {n : Nat} :
    depthFields fields ≤ n ↔ ∀ entry ∈ fields, entry.2.depth ≤ n := by
  induction fields with
  | nil => simp [depthFields]
  | cons entry rest ih => rw [depthFields, Nat.max_le, ih, List.forall_mem_cons]

namespace Parser
open Text (Reader)

/-! ### Strings -/

/-- The two digits of a control character are read as its code unit. -/
private theorem unitOf?_hexDigits :
    ∀ n < 32, unitOf? '0' '0' (Digest.hexDigit (n / 16)) (Digest.hexDigit (n % 16)) = some n := by
  decide

/-- A code unit below the halves of characters stands for itself. -/
private theorem stringTail_unit {unit : Nat} {a b c d : Char} (hu : unitOf? a b c d = some unit)
    (h : unit < 32) (rest : List Char) :
    stringTail ('\\' :: 'u' :: a :: b :: c :: d :: rest) =
      prepend (Char.ofNat unit) (stringTail rest) := by
  have hl : isLow unit = false := by
    simp only [isLow, Bool.and_eq_false_iff, decide_eq_false_iff_not]
    omega
  have hh : isHigh unit = false := by
    simp only [isHigh, Bool.and_eq_false_iff, decide_eq_false_iff_not]
    omega
  rw [stringTail.eq_def]
  simp [hu, hl, hh]

private theorem stringTail_short {e c : Char} (he : e ≠ 'u') (h : escaped? e = some c)
    (rest : List Char) : stringTail ('\\' :: e :: rest) = prepend c (stringTail rest) := by
  rw [stringTail.eq_def]
  simp [he, h]

private theorem stringTail_escape (c : Char) (rest : List Char) :
    stringTail (escape c ++ rest) = prepend c (stringTail rest) := by
  rw [escape]
  split
  · next h => subst h; exact stringTail_short (by decide) rfl rest
  split
  · next h => subst h; exact stringTail_short (by decide) rfl rest
  split
  · next h => subst h; exact stringTail_short (by decide) rfl rest
  split
  · next h => subst h; exact stringTail_short (by decide) rfl rest
  split
  · next h => subst h; exact stringTail_short (by decide) rfl rest
  split
  · next h => subst h; exact stringTail_short (by decide) rfl rest
  split
  · next h => subst h; exact stringTail_short (by decide) rfl rest
  split
  · next h =>
    have hc := stringTail_unit (unitOf?_hexDigits c.toNat h) h rest
    rw [Char.ofNat_toNat] at hc
    exact hc
  · next hquote hslash _ _ _ _ _ hplain =>
    rw [List.singleton_append, stringTail.eq_def]
    simp only [hquote, hslash, hplain, if_false]

/-- Escaped characters and a closing quote are read back. -/
private theorem stringTail_flatMap_escape (cs rest : List Char) :
    stringTail (cs.flatMap escape ++ '"' :: rest) = some (cs, rest) := by
  induction cs with
  | nil => rw [List.flatMap_nil, List.nil_append, stringTail.eq_def]; rfl
  | cons c cs ih => rw [List.flatMap_cons, List.append_assoc, stringTail_escape, ih]; rfl

/-- A string in quotes is read back. -/
theorem string_renderString (s : String) (rest : List Char) :
    string (renderString s ++ rest) = some (s, rest) := by
  have ht := stringTail_flatMap_escape s.toList rest
  simp only [renderString, List.cons_append, List.append_assoc, List.nil_append, string, ht]
  simp

/-! ### The first character decides -/

private theorem value_string (fuel depth : Nat) (s : List Char) :
    value fuel depth ('"' :: s) = (string ('"' :: s)).map fun r ↦ (.string r.1, r.2) := by
  rw [value.eq_def]
  cases h : string ('"' :: s) <;> simp [h]

theorem value_array (fuel depth : Nat) (s : List Char) :
    value fuel (depth + 1) ('[' :: s) =
      (items (value fuel depth) fuel s).map fun r ↦ (.array r.1, r.2) := by
  rw [value.eq_def]
  cases h : items (value fuel depth) fuel s <;> simp [h]

private theorem value_object (fuel depth : Nat) (s : List Char) :
    value fuel (depth + 1) ('\x7b' :: s) =
      (entries (value fuel depth) fuel s).map fun r ↦
        (.object (Fields.ofEntries r.1), r.2) := by
  rw [value.eq_def]
  cases h : entries (value fuel depth) fuel s <;> simp [h]

/-- A number starts with no other character than its sign and digits. -/
private theorem ne_of_startsNumber {c d : Char} (hc : c = '-' ∨ c.isDigit)
    (hd : d ≠ '-' ∧ d.isDigit = false) : c ≠ d := by
  rintro rfl
  rcases hc with hc | hc
  · exact hd.1 hc
  · rw [hd.2] at hc
    cases hc

private theorem value_number {c : Char} (hc : c = '-' ∨ c.isDigit) (fuel depth : Nat)
    (s : List Char) :
    value fuel depth (c :: s) = (number (c :: s)).map fun r ↦ (.number r.1, r.2) := by
  have hn := ne_of_startsNumber hc (show 'n' ≠ '-' ∧ _ by decide)
  have ht := ne_of_startsNumber hc (show 't' ≠ '-' ∧ _ by decide)
  have hf := ne_of_startsNumber hc (show 'f' ≠ '-' ∧ _ by decide)
  have hq := ne_of_startsNumber hc (show '"' ≠ '-' ∧ _ by decide)
  have ha := ne_of_startsNumber hc (show '[' ≠ '-' ∧ _ by decide)
  have ho := ne_of_startsNumber hc (show '\x7b' ≠ '-' ∧ _ by decide)
  rw [value.eq_def]
  cases h : number (c :: s) <;> simp [h, hn, ht, hf, hq, ha, ho]

theorem skip_cons {c : Char} (h : isSpace c = false) (s : List Char) : skip (c :: s) = c :: s := by
  simp [skip, h]

/-- A text starts neither with space nor with a closing bracket. -/
def StartsValue (s : List Char) : Prop := ∃ c t, s = c :: t ∧ isSpace c = false ∧ c ≠ ']'

private theorem startsValue_of_number {s r : List Char} {n : JsonNumber}
    (h : number s = some (n, r)) :
    StartsValue s := by
  obtain ⟨c, t, rfl, hc⟩ := exists_cons_of_number h
  have hspace := ne_of_startsNumber hc (show ' ' ≠ '-' ∧ _ by decide)
  have hline := ne_of_startsNumber hc (show '\n' ≠ '-' ∧ _ by decide)
  have htab := ne_of_startsNumber hc (show '\t' ≠ '-' ∧ _ by decide)
  have hreturn := ne_of_startsNumber hc (show '\r' ≠ '-' ∧ _ by decide)
  have hclose := ne_of_startsNumber hc (show ']' ≠ '-' ∧ _ by decide)
  exact ⟨c, t, rfl, by simp [isSpace, hspace, hline, htab, hreturn], hclose⟩

private theorem skip_of_startsValue {s : List Char} (h : StartsValue s) : skip s = s := by
  obtain ⟨c, t, rfl, hc, -⟩ := h
  exact skip_cons hc t

/-- What is written of a value starts like one. -/
theorem startsValue_render {v : Json} (h : v.NumbersReadBack) (rest : List Char) :
    StartsValue (render v ++ rest) := by
  cases v with
  | null => exact ⟨_, _, rfl, by decide, by decide⟩
  | bool b => cases b <;> exact ⟨_, _, rfl, by decide, by decide⟩
  | number n =>
    obtain ⟨c, t, ht, h⟩ := startsValue_of_number h
    exact ⟨c, t ++ rest, by rw [render, ht, List.cons_append], h⟩
  | string s => exact ⟨_, _, rfl, by decide, by decide⟩
  | array items => exact ⟨_, _, rfl, by decide, by decide⟩
  | object fields => exact ⟨_, _, rfl, by decide, by decide⟩

private theorem startsValue_renderItems {item : Json} (h : item.NumbersReadBack) (more : List Json)
    (rest : List Char) : StartsValue (renderItems (item :: more) ++ rest) := by
  cases more with
  | nil =>
    rw [renderItems, List.append_assoc]
    exact startsValue_render h _
  | cons next more =>
    rw [renderItems, List.append_assoc]
    exact startsValue_render h _

private theorem endsNumber_cons {c : Char} (h : c = ',' ∨ c = ']' ∨ c = '\x7d') (s : List Char) :
    EndsNumber (c :: s) := by
  intro d hd
  cases hd
  rcases h with rfl | rfl | rfl <;> decide

/-! ### Items and entries -/

private theorem itemsTail_last {read : Reader Json} {s rest : List Char} {v : Json}
    (hs : StartsValue s) (h : read s = some (v, ']' :: rest)) (count : Nat) :
    itemsTail read (count + 1) s = some ([v], rest) := by
  have hc : skip (']' :: rest) = ']' :: rest := skip_cons (by decide) rest
  rw [itemsTail, skip_of_startsValue hs, h]
  simp only [Option.bind_eq_bind, Option.bind_some, hc, Option.pure_def]

private theorem itemsTail_comma {read : Reader Json} {s s' rest : List Char} {v : Json}
    {vs : List Json} {count : Nat} (hs : StartsValue s) (h : read s = some (v, ',' :: s'))
    (hr : itemsTail read count s' = some (vs, rest)) :
    itemsTail read (count + 1) s = some (v :: vs, rest) := by
  have hc : skip (',' :: s') = ',' :: s' := skip_cons (by decide) s'
  rw [itemsTail, skip_of_startsValue hs, h]
  simp only [Option.bind_eq_bind, Option.bind_some, hc, hr, Option.pure_def]

private theorem items_of_startsValue {read : Reader Json} {s : List Char} (hs : StartsValue s)
    (count : Nat) : items read count s = itemsTail read count s := by
  rw [items, skip_of_startsValue hs]
  obtain ⟨c, t, rfl, -, hc⟩ := hs
  split
  · next he => exact absurd (List.cons.inj he).1 hc
  · rfl

private theorem entry_renderString {read : Reader Json} {s rest : List Char} {v : Json}
    (hs : StartsValue s) (h : read s = some (v, rest)) (key : String) :
    entry read (renderString key ++ ':' :: s) = some ((key, v), rest) := by
  have hq : skip (renderString key ++ ':' :: s) = renderString key ++ ':' :: s :=
    skip_cons (by decide) _
  have hc : skip (':' :: s) = ':' :: s := skip_cons (by decide) s
  simp only [entry, hq, string_renderString, Option.bind_eq_bind, Option.bind_some, hc,
    skip_of_startsValue hs, h, Option.pure_def]

private theorem entriesTail_last {read : Reader Json} {s rest : List Char} {e : String × Json}
    (h : entry read s = some (e, '\x7d' :: rest)) (count : Nat) :
    entriesTail read (count + 1) s = some ([e], rest) := by
  have hc : skip ('\x7d' :: rest) = '\x7d' :: rest := skip_cons (by decide) rest
  rw [entriesTail, h]
  simp only [Option.bind_eq_bind, Option.bind_some, hc, Option.pure_def]

private theorem entriesTail_comma {read : Reader Json} {s s' rest : List Char} {e : String × Json}
    {es : List (String × Json)} {count : Nat} (h : entry read s = some (e, ',' :: s'))
    (hr : entriesTail read count s' = some (es, rest)) :
    entriesTail read (count + 1) s = some (e :: es, rest) := by
  have hc : skip (',' :: s') = ',' :: s' := skip_cons (by decide) s'
  rw [entriesTail, h]
  simp only [Option.bind_eq_bind, Option.bind_some, hc, hr, Option.pure_def]

private theorem entries_of_renderFields {read : Reader Json} {entry : String × Json}
    {others : List (String × Json)} (count : Nat) (rest : List Char) :
    entries read count (renderFields (entry :: others) ++ rest) =
      entriesTail read count (renderFields (entry :: others) ++ rest) := by
  cases others <;> rfl

/-! ### Values -/

mutual

/-- What is written of a value is read back in front of a text that does not go on with it. -/
theorem value_render {fuel depth : Nat} {rest : List Char} (v : Json) (hr : EndsNumber rest)
    (hn : v.NumbersReadBack) (hd : v.depth ≤ depth) (hf : (render v).length ≤ fuel) :
    value fuel depth (render v ++ rest) = some (v.canonical, rest) := by
  cases v with
  | null =>
    rw [value.eq_def]
    rfl
  | bool b =>
    rw [value.eq_def]
    cases b <;> rfl
  | number n =>
    have hread : number (render (.number n) ++ rest) = some (n, rest) := number_append hr hn
    obtain ⟨c, t, ht, hc⟩ := exists_cons_of_number hread
    rw [ht] at hread ⊢
    rw [value_number hc, hread]
    rfl
  | string s =>
    have hread := string_renderString s rest
    rw [render]
    rw [renderString, List.cons_append, List.cons_append] at hread ⊢
    rw [value_string, hread]
    rfl
  | array items =>
    cases depth with
    | zero => cases hd
    | succ depth =>
      have hread : Parser.items (value fuel depth) fuel (renderItems items ++ rest) =
          some (canonicalItems items, rest) := by
        cases items with
        | nil => rfl
        | cons item more =>
          rw [items_of_startsValue (startsValue_renderItems hn.1 more rest)]
          have hlen : (renderItems (item :: more)).length ≤ fuel := Nat.le_of_succ_le hf
          exact itemsTail_renderItems _ (List.cons_ne_nil _ _) hn (Nat.le_of_succ_le_succ hd)
            hlen hlen
      rw [render, List.cons_append, value_array, hread]
      rfl
  | object fields =>
    cases depth with
    | zero => cases hd
    | succ depth =>
      have hread : entries (value fuel depth) fuel (renderFields fields ++ rest) =
          some (canonicalFields fields, rest) := by
        cases fields with
        | nil => rfl
        | cons entry more =>
          rw [entries_of_renderFields]
          have hlen : (renderFields (entry :: more)).length ≤ fuel := Nat.le_of_succ_le hf
          exact entriesTail_renderFields _ (List.cons_ne_nil _ _) hn (Nat.le_of_succ_le_succ hd)
            hlen hlen
      rw [render, List.cons_append, value_object, hread]
      rfl
  termination_by structural v

/-- What is written of the items of an array is read back. -/
theorem itemsTail_renderItems {fuel depth count : Nat} {rest : List Char} (items : List Json)
    (hne : items ≠ []) (hn : ItemsReadBack items) (hd : depthItems items ≤ depth)
    (hf : (renderItems items).length ≤ fuel) (hc : (renderItems items).length ≤ count) :
    itemsTail (value fuel depth) count (renderItems items ++ rest) =
      some (canonicalItems items, rest) := by
  cases items with
  | nil => exact absurd rfl hne
  | cons item more =>
    have hd' : item.depth ≤ depth ∧ depthItems more ≤ depth := Nat.max_le.mp hd
    -- The text of the items is longer than their number, so the count does not run out.
    cases count with
    | zero => cases more <;> simp [renderItems] at hc
    | succ count =>
      cases more with
      | nil =>
        rw [renderItems, List.length_append] at hf
        rw [renderItems, List.append_assoc, List.singleton_append]
        have hv := @value_render fuel depth (']' :: rest) item (endsNumber_cons (by decide) rest)
          hn.1 hd'.1 (by omega)
        exact itemsTail_last (startsValue_render hn.1 _) hv count
      | cons next more =>
        rw [renderItems, List.length_append, List.length_cons] at hf hc
        rw [renderItems, List.append_assoc, List.cons_append]
        have hv := @value_render fuel depth (',' :: (renderItems (next :: more) ++ rest)) item
          (endsNumber_cons (by decide) _) hn.1 hd'.1 (by omega)
        exact itemsTail_comma (startsValue_render hn.1 _) hv
          (itemsTail_renderItems (next :: more) (List.cons_ne_nil _ _) hn.2 hd'.2 (by omega)
            (by omega))
  termination_by structural items

/-- What is written of the entries of an object is read back. -/
theorem entriesTail_renderFields {fuel depth count : Nat} {rest : List Char}
    (fields : List (String × Json))
    (hne : fields ≠ []) (hn : FieldsReadBack fields) (hd : depthFields fields ≤ depth)
    (hf : (renderFields fields).length ≤ fuel) (hc : (renderFields fields).length ≤ count) :
    entriesTail (value fuel depth) count (renderFields fields ++ rest) =
      some (canonicalFields fields, rest) := by
  cases fields with
  | nil => exact absurd rfl hne
  | cons entry more =>
    obtain ⟨key, v⟩ := entry
    have hd' : v.depth ≤ depth ∧ depthFields more ≤ depth := Nat.max_le.mp hd
    cases count with
    | zero => cases more <;> simp [renderFields] at hc
    | succ count =>
      cases more with
      | nil =>
        simp only [renderFields, List.length_append, List.length_cons] at hf
        simp only [renderFields, List.append_assoc, List.cons_append]
        have hv := @value_render fuel depth ('\x7d' :: rest) v (endsNumber_cons (by decide) rest)
          hn.1 hd'.1 (by omega)
        exact entriesTail_last (entry_renderString (startsValue_render hn.1 _) hv key) count
      | cons next more =>
        simp only [renderFields, List.length_append, List.length_cons] at hf hc
        simp only [renderFields, List.append_assoc, List.cons_append]
        have hv := @value_render fuel depth (',' :: (renderFields (next :: more) ++ rest)) v
          (endsNumber_cons (by decide) _) hn.1 hd'.1 (by omega)
        exact entriesTail_comma (entry_renderString (startsValue_render hn.1 _) hv key)
          (entriesTail_renderFields (next :: more) (List.cons_ne_nil _ _) hn.2 hd'.2 (by omega)
            (by omega))
  termination_by structural fields

end

end Parser

/-- What is written of a value is read back, with the keys of every object in order. -/
theorem parse?_compact {v : Json} (hd : v.depth ≤ Parser.maxDepth) (hn : v.NumbersReadBack) :
    parse? v.compact = some v.canonical := by
  have hs : Parser.skip (render v) = render v := by
    have := Parser.startsValue_render hn []
    rw [List.append_nil] at this
    exact Parser.skip_of_startsValue this
  have hend : Parser.EndsNumber [] := by
    intro c hc
    cases hc
  have hv := @Parser.value_render (render v).length Parser.maxDepth [] v hend hn hd
    (Nat.le_refl _)
  rw [List.append_nil] at hv
  rw [parse?, parseAt?, compact, String.toList_ofList, hs]
  simp only [hv, Option.bind_eq_bind, Option.bind_some]
  rfl

end Json
end EventRelay
