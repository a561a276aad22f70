import EventRelay.Text.Utf8

/-!
# Text and its encoding

A string has one encoding, and no other string has it. A byte sequence has a text exactly if it is
the encoding of that text.
-/

namespace EventRelay.Text

/-- Different strings have different encodings. -/
theorem utf8_inj {first second : String} : utf8 first = utf8 second ↔ first = second := by
  constructor
  · intro h
    apply String.toByteArray_inj.mp
    apply ByteArray.ext
    exact Array.toList_inj.mp h
  · rintro rfl
    rfl

/-- A text is read back from its bytes. -/
theorem ofUtf8?_utf8 (s : String) : ofUtf8? (utf8 s) = some s := by
  have hb : (⟨(utf8 s).toArray⟩ : ByteArray) = s.toByteArray := by simp [utf8]
  rw [ofUtf8?, hb, String.fromUTF8?, dif_pos s.isValidUTF8]
  rfl

/-- A byte sequence has a text exactly if it is the encoding of it. -/
theorem ofUtf8?_eq_some_iff {bytes : Bytes} {s : String} :
    ofUtf8? bytes = some s ↔ utf8 s = bytes := by
  constructor
  · intro h
    unfold ofUtf8? String.fromUTF8? at h
    split at h
    · cases h
      rfl
    · cases h
  · rintro rfl
    exact ofUtf8?_utf8 s

end EventRelay.Text
