import EventRelay.Json.Printer

/-!
# The text of arrays and objects

The compact text of an array is the texts of its items between brackets, separated by commas, and
that of an object likewise. Hence the size of an array is that of its items with one byte for each
bracket and comma, and never shrinks when items are added.
-/

namespace EventRelay.Json

/-- The characters of the compact text. -/
theorem toList_compact (value : Json) : value.compact.toList = render value :=
  String.toList_ofList

private theorem renderItems_eq (items : List Json) :
    renderItems items = (",".intercalate (items.map compact)).toList ++ [']'] := by
  induction items with
  | nil => simp [renderItems]
  | cons item rest ih =>
    cases rest with
    | nil => simp [renderItems, toList_compact]
    | cons next rest => simp [renderItems, ih, toList_compact, String.intercalate_cons_cons]

/-- The compact text of an array. -/
theorem compact_array (items : List Json) :
    (array items).compact = "[" ++ ",".intercalate (items.map compact) ++ "]" := by
  apply String.toList_inj.mp
  simp [toList_compact, render, renderItems_eq]

/-- The number of bytes of items that are separated by commas. -/
private theorem utf8ByteSize_intercalate (texts : List String) :
    (",".intercalate texts).utf8ByteSize =
      texts.foldr (fun text size ↦ text.utf8ByteSize + 1 + size) 0 - 1 := by
  have hc : ",".utf8ByteSize = 1 := by decide
  induction texts with
  | nil => rfl
  | cons text rest ih =>
    cases rest with
    | nil => simp
    | cons next rest =>
      rw [String.intercalate_cons_cons, String.utf8ByteSize_append, String.utf8ByteSize_append, ih,
        hc]
      simp only [List.foldr_cons]
      omega

/-- The number of bytes of an array. -/
theorem byteSize_array (items : List Json) :
    (array items).byteSize =
      2 + (items.foldr (fun item size ↦ item.byteSize + 1 + size) 0 - 1) := by
  have ho : "[".utf8ByteSize = 1 := by decide
  have hc : "]".utf8ByteSize = 1 := by decide
  rw [byteSize, compact_array, String.utf8ByteSize_append, String.utf8ByteSize_append,
    utf8ByteSize_intercalate, ho, hc, List.foldr_map]
  change 1 + (items.foldr (fun item size ↦ item.byteSize + 1 + size) 0 - 1) + 1 = _
  omega

/-- An array is no larger than one with more items. -/
theorem byteSize_array_le {items others : List Json} (h : items.Sublist others) :
    (array items).byteSize ≤ (array others).byteSize := by
  have hs : items.foldr (fun item size ↦ item.byteSize + 1 + size) 0 ≤
      others.foldr (fun item size ↦ item.byteSize + 1 + size) 0 := by
    induction h with
    | slnil => exact Nat.le_refl _
    | cons item _ ih => exact Nat.le_trans ih (Nat.le_add_left _ _)
    | cons_cons item _ ih => exact Nat.add_le_add_left ih _
  rw [byteSize_array, byteSize_array]
  omega

end EventRelay.Json
