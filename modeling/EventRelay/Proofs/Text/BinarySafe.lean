import EventRelay.Proofs.Text.Base64
import EventRelay.Proofs.Text.Utf8
import EventRelay.Text.BinarySafe

/-!
# Bytes in text

Text stands for itself, and bytes without a text come back from the wrapped form, which has one
spelling. So the only byte sequences that are written alike are bytes without a text and the
encoding of their wrapped form.
-/

namespace EventRelay.Text

/-- A word is taken off the front of what starts with it, and of nothing else. -/
private theorem Reader.word_eq_some_iff {letters s rest : List Char} :
    word letters s = some ((), rest) ↔ s = letters ++ rest := by
  induction letters generalizing s with
  | nil => simp [word]
  | cons l letters ih =>
    cases s with
    | nil => simp [word]
    | cons c s =>
      rw [word]
      by_cases h : l = c
      · simp [h, ih]
      · simp [h, Ne.symm h]

/-- A byte sequence in a data URI. -/
def wrapped (bytes : Bytes) : String := String.ofList (binaryPrefix ++ Base64.encode bytes)

/-- A byte sequence is the encoding of a text. -/
def IsUtf8 (bytes : Bytes) : Prop := ∃ text, utf8 text = bytes

theorem isUtf8_utf8 (text : String) : IsUtf8 (utf8 text) := ⟨text, rfl⟩

/-- A byte sequence without a text is no encoding. -/
theorem ofUtf8?_eq_none_iff {bytes : Bytes} : ofUtf8? bytes = none ↔ ¬ IsUtf8 bytes := by
  rw [Option.eq_none_iff_forall_ne_some, IsUtf8, not_exists]
  simp only [ne_eq, ofUtf8?_eq_some_iff]

private theorem toList_wrapped (bytes : Bytes) :
    (wrapped bytes).toList = binaryPrefix ++ Base64.encode bytes := by
  rw [wrapped, String.toList_ofList]

/-- A text is its own form. -/
theorem binarySafe_utf8 (text : String) : binarySafe (utf8 text) = text := by
  rw [binarySafe, ofUtf8?_utf8]

/-- Bytes without a text are wrapped. -/
theorem binarySafe_of_not_isUtf8 {bytes : Bytes} (h : ¬ IsUtf8 bytes) :
    binarySafe bytes = wrapped bytes := by
  rw [binarySafe, ofUtf8?_eq_none_iff.mpr h, wrapped]

/-- Bytes are read from their wrapped form only. -/
theorem unwrapBinary?_eq_some_iff {value : String} {bytes : Bytes} :
    unwrapBinary? value = some bytes ↔ value = wrapped bytes := by
  rw [← String.toList_inj, toList_wrapped, unwrapBinary?]
  simp only [Option.bind_eq_bind, Option.bind_eq_some_iff]
  constructor
  · rintro ⟨⟨⟨⟩, payload⟩, hword, hpayload⟩
    have hencode : payload = Base64.encode bytes := Base64.decode_eq_some_iff.mp hpayload
    rw [Reader.word_eq_some_iff.mp hword, hencode]
  · intro h
    exact ⟨((), Base64.encode bytes), Reader.word_eq_some_iff.mpr h, Base64.decode_encode bytes⟩

/-- Different bytes are wrapped in different ways. -/
theorem wrapped_inj {first second : Bytes} : wrapped first = wrapped second ↔ first = second := by
  constructor
  · intro h
    have hread := unwrapBinary?_eq_some_iff.mpr h
    rw [unwrapBinary?_eq_some_iff.mpr rfl] at hread
    exact Option.some.inj hread
  · rintro rfl
    rfl

/-- Bytes without a text are written as another byte sequence is exactly if that one is the encoding
of their wrapped form. -/
private theorem binarySafe_eq_iff_of_not_isUtf8 {bytes other : Bytes} (h : ¬ IsUtf8 bytes)
    (hne : bytes ≠ other) :
    binarySafe bytes = binarySafe other ↔ other = utf8 (wrapped bytes) := by
  rw [binarySafe_of_not_isUtf8 h]
  constructor
  · intro he
    by_cases ho : IsUtf8 other
    · obtain ⟨text, rfl⟩ := ho
      rw [he, binarySafe_utf8]
    · rw [binarySafe_of_not_isUtf8 ho] at he
      exact absurd (wrapped_inj.mp he) hne
  · rintro rfl
    rw [binarySafe_utf8]

/-- Two byte sequences are written alike exactly if one of them has no text and the other one is the
encoding of the wrapped form of the first. -/
theorem binarySafe_eq_iff {bytes other : Bytes} (hne : bytes ≠ other) :
    binarySafe bytes = binarySafe other ↔
      (¬ IsUtf8 bytes ∧ other = utf8 (wrapped bytes)) ∨
        (¬ IsUtf8 other ∧ bytes = utf8 (wrapped other)) := by
  by_cases hb : IsUtf8 bytes
  · by_cases ho : IsUtf8 other
    · obtain ⟨first, rfl⟩ := hb
      obtain ⟨second, rfl⟩ := ho
      have hdiffer : first ≠ second := fun he ↦ hne (congrArg utf8 he)
      simp [binarySafe_utf8, hdiffer, isUtf8_utf8]
    · rw [eq_comm, binarySafe_eq_iff_of_not_isUtf8 ho hne.symm]
      simp [hb, ho]
  · have hother : ¬ (¬ IsUtf8 other ∧ bytes = utf8 (wrapped other)) := by
      rintro ⟨-, rfl⟩
      exact hb (isUtf8_utf8 _)
    rw [binarySafe_eq_iff_of_not_isUtf8 hb hne]
    simp [hb, hother]

/-- A byte sequence that is the encoding of a text is written as that text; any other one is read
back from what is written of it. The only text that is read as a byte sequence is the data URI with
its base64 text. Two byte sequences are written alike exactly if one of them has no text and the
other one is the encoding of the data URI of the first. -/
theorem binary_strings_come_back (bytes : Bytes) :
    (∀ text, utf8 text = bytes → binarySafe bytes = text) ∧
    (¬ IsUtf8 bytes → unwrapBinary? (binarySafe bytes) = some bytes) ∧
    (∀ value, unwrapBinary? value = some bytes ↔
      value.toList = "data:application/octet-stream;base64,".toList ++ Base64.encode bytes) ∧
    ∀ other, bytes ≠ other →
      (binarySafe bytes = binarySafe other ↔
        (¬ IsUtf8 bytes ∧ other = utf8 (wrapped bytes)) ∨
          (¬ IsUtf8 other ∧ bytes = utf8 (wrapped other))) := by
  refine ⟨?_, ?_, ?_, ?_⟩
  · rintro text rfl
    exact binarySafe_utf8 text
  · intro h
    rw [binarySafe_of_not_isUtf8 h]
    exact unwrapBinary?_eq_some_iff.mpr rfl
  · intro value
    rw [unwrapBinary?_eq_some_iff, ← String.toList_inj, toList_wrapped]
    rfl
  · intro other hne
    exact binarySafe_eq_iff hne

/-- Two bytes that are no text. -/
def brokenBytes : Bytes := [0x66, 0xFF]

/-- Text stays as it is, the two bytes come back from their data URI, and the text of this data URI
is written as they are. -/
theorem binary_strings_come_back_broken :
    binarySafe (utf8 "Grüße") = "Grüße" ∧
    ¬ IsUtf8 brokenBytes ∧
    unwrapBinary? (binarySafe brokenBytes) = some brokenBytes ∧
    unwrapBinary? "data:application/octet-stream;base64,Zv8=" = some brokenBytes ∧
    brokenBytes ≠ utf8 (wrapped brokenBytes) ∧
    binarySafe brokenBytes = binarySafe (utf8 (wrapped brokenBytes)) := by
  have hbroken : ¬ IsUtf8 brokenBytes := ofUtf8?_eq_none_iff.mp (by decide)
  have hne : brokenBytes ≠ utf8 (wrapped brokenBytes) :=
    fun h ↦ hbroken (h ▸ isUtf8_utf8 _)
  obtain ⟨htext, -⟩ := binary_strings_come_back (utf8 "Grüße")
  obtain ⟨-, hback, hvalue, halike⟩ := binary_strings_come_back brokenBytes
  exact ⟨htext _ rfl, hbroken, hback hbroken, (hvalue _).mpr (by decide), hne,
    (halike _ hne).mpr (.inl ⟨hbroken, rfl⟩)⟩

end EventRelay.Text
