import EventRelay.Text.Blank

/-!
# White space at the ends

What trimming leaves has no white space at either end, and a text without any there is left as it
is. So a second trimming changes nothing.
-/

namespace EventRelay.Text

/-- There is no white space at either end. -/
structure IsTrimmed (s : List Char) : Prop where
  head : ∀ c ∈ s.head?, isBlank c = false
  last : ∀ c ∈ s.getLast?, isBlank c = false

private theorem notBlank_of_head?_dropWhile {s : List Char} :
    ∀ c ∈ (s.dropWhile isBlank).head?, isBlank c = false := by
  intro c hc
  have hfirst := List.head?_dropWhile_not isBlank s
  rwa [Option.mem_def.mp hc] at hfirst

/-- What is left at the end is the front of the text. -/
private theorem trimEnd_isPrefix (s : List Char) : trimEnd s <+: s := by
  have hsuffix : s.reverse.dropWhile isBlank <:+ s.reverse := List.dropWhile_suffix _
  have hprefix := List.reverse_prefix.mpr hsuffix
  rwa [List.reverse_reverse] at hprefix

/-- What is trimmed has no white space around it. -/
theorem isTrimmed_trimChars (s : List Char) : IsTrimmed (trimChars s) where
  head := by
    intro c hc
    have hfirst : (trimEnd (trimStart s)).head? = some c := hc
    obtain ⟨rest, hrest⟩ := trimEnd_isPrefix (trimStart s)
    have hstart : (s.dropWhile isBlank).head? = some c := by
      rw [← trimStart, ← hrest, List.head?_append, hfirst, Option.some_or]
    exact notBlank_of_head?_dropWhile c hstart
  last := by
    intro c hc
    rw [trimChars, trimEnd, List.getLast?_reverse] at hc
    exact notBlank_of_head?_dropWhile c hc

/-- Where the first character is no white space there is none to leave out. -/
private theorem dropWhile_isBlank_of_head? {s : List Char} (h : ∀ c ∈ s.head?, isBlank c = false) :
    s.dropWhile isBlank = s := by
  cases s with
  | nil => rfl
  | cons c rest =>
    have hc : isBlank c = false := h c rfl
    rw [List.dropWhile_cons, hc, if_neg Bool.false_ne_true]

/-- There is nothing to trim. -/
theorem IsTrimmed.trimChars_eq {s : List Char} (h : IsTrimmed s) : trimChars s = s := by
  have hstart : trimStart s = s := dropWhile_isBlank_of_head? h.head
  have hend : s.reverse.dropWhile isBlank = s.reverse :=
    dropWhile_isBlank_of_head? (by rw [List.head?_reverse]; exact h.last)
  rw [trimChars, hstart, trimEnd, hend, List.reverse_reverse]

/-- Characters that are no white space may be replaced by such. -/
theorem IsTrimmed.map {s : List Char} (h : IsTrimmed s) {f : Char → Char}
    (hf : ∀ c, isBlank c = false → isBlank (f c) = false) : IsTrimmed (s.map f) where
  head := by
    intro c hc
    rw [List.head?_map] at hc
    obtain ⟨d, hd, rfl⟩ := Option.map_eq_some_iff.mp hc
    exact hf d (h.head d hd)
  last := by
    intro c hc
    rw [List.getLast?_map] at hc
    obtain ⟨d, hd, rfl⟩ := Option.map_eq_some_iff.mp hc
    exact hf d (h.last d hd)

end EventRelay.Text
