import EventRelay.Json.Parser
import EventRelay.Json.Printer
import Mathlib.Data.List.TakeDrop

/-!
# Reading numbers in a text

The reader of numbers takes the longest number at the front of a text. A number that is read from
the whole of a text is therefore read in the same way in front of any text that cannot go on with
it, such as a comma or a closing bracket. A natural number that fits sixty-four bits is read back.
-/

namespace EventRelay.Json.Parser
open Text (Reader)

/-- A number cannot go on in the text. -/
def EndsNumber (rest : List Char) : Prop :=
  ∀ c ∈ rest.head?, c.isDigit = false ∧ c ≠ '.' ∧ c ≠ 'e' ∧ c ≠ 'E'

private theorem digits_cons (c : Char) (s : List Char) :
    digits (c :: s) = if c.isDigit then (c :: (digits s).1, (digits s).2) else ([], c :: s) := by
  simp only [digits, List.span_eq_takeWhile_dropWhile, List.takeWhile_cons, List.dropWhile_cons]
  split <;> rfl

/-- Digits are not read beyond the end of a number. -/
theorem digits_append {rest : List Char} (hr : EndsNumber rest) (s : List Char) :
    digits (s ++ rest) = ((digits s).1, (digits s).2 ++ rest) := by
  induction s with
  | nil =>
    cases rest with
    | nil => rfl
    | cons c rest => simp [(hr c rfl).1, digits]
  | cons c s ih =>
    rw [List.cons_append, digits_cons, digits_cons, ih]
    split <;> rfl

private theorem wholePart_append {s ds r rest : List Char} (hr : EndsNumber rest)
    (h : wholePart s = some (ds, r)) : wholePart (s ++ rest) = some (ds, r ++ rest) := by
  rw [wholePart] at h
  rw [wholePart, digits_append hr]
  rcases hd : digits s with ⟨found, t⟩
  rw [hd] at h
  split at h
  · cases h
  · cases h
  · next d u hn hz he =>
    cases he
    cases h
    split
    · next hnil => cases hnil; exact (hn rfl).elim
    · next hzero => cases hzero; exact (hz _ _ rfl).elim
    · next he => cases he; rfl

private theorem fractionPart_append {s r rest : List Char} {x : Option (List Char)}
    (hr : EndsNumber rest) (h : fractionPart s = some (x, r)) :
    fractionPart (s ++ rest) = some (x, r ++ rest) := by
  cases s with
  | nil =>
    cases h
    cases rest with
    | nil => rfl
    | cons c rest => simp [fractionPart, (hr c rfl).2.1]
  | cons c s =>
    by_cases hc : c = '.'
    · subst hc
      rw [List.cons_append]
      simp only [fractionPart, digits_append hr] at h ⊢
      rcases hd : digits s with ⟨_ | ⟨d, ds⟩, t⟩
      · simp [hd] at h
      · simp only [hd, Option.some.injEq, Prod.mk.injEq] at h ⊢
        exact ⟨h.1, by rw [h.2]⟩
    · have hself (t : List Char) : fractionPart (c :: t) = some (none, c :: t) := by
        simp [fractionPart, hc]
      rw [hself] at h
      cases h
      exact hself (s ++ rest)

/-- The exponent part behind its letter and sign. -/
def exponentDigits (negative : Bool) (s : List Char) : Option (Option Int × List Char) :=
  match digits s with
  | ([], _) => none
  | (ds, rest) =>
    let n : Int := ds.foldl (fun n c ↦ n * 10 + digitValue c) (0 : Nat)
    some (some (if negative then -n else n), rest)

private theorem exponentDigits_append {negative : Bool} {s r rest : List Char} {x : Option Int}
    (hr : EndsNumber rest) (h : exponentDigits negative s = some (x, r)) :
    exponentDigits negative (s ++ rest) = some (x, r ++ rest) := by
  simp only [exponentDigits, digits_append hr] at h ⊢
  rcases hd : digits s with ⟨_ | ⟨d, ds⟩, t⟩
  · simp [hd] at h
  · simp only [hd, Option.some.injEq, Prod.mk.injEq] at h ⊢
    exact ⟨h.1, by rw [h.2]⟩

/-- The sign of an exponent, whether it is negative, and the rest. -/
def exponentSign : List Char → Bool × List Char
  | '+' :: rest => (false, rest)
  | '-' :: rest => (true, rest)
  | rest => (false, rest)

private theorem exponentSign_append {s : List Char} (h : s ≠ []) (rest : List Char) :
    exponentSign (s ++ rest) = ((exponentSign s).1, (exponentSign s).2 ++ rest) := by
  cases s with
  | nil => exact absurd rfl h
  | cons c s =>
    by_cases hp : c = '+'
    · subst hp
      rfl
    · by_cases hm : c = '-'
      · subst hm
        rfl
      · have hself (t : List Char) : exponentSign (c :: t) = (false, c :: t) := by
          simp [exponentSign, hp, hm]
        rw [List.cons_append, hself, hself, List.cons_append]

private theorem exponentPart_letter {c : Char} (hc : c = 'e' ∨ c = 'E') (s : List Char) :
    exponentPart (c :: s) = exponentDigits (exponentSign s).1 (exponentSign s).2 := by
  rw [exponentPart.eq_def]
  exact if_pos hc

private theorem exponentPart_other {c : Char} (hc : ¬(c = 'e' ∨ c = 'E')) (s : List Char) :
    exponentPart (c :: s) = some (none, c :: s) := by
  rw [exponentPart.eq_def]
  exact if_neg hc

private theorem exponentPart_append {s r rest : List Char} {x : Option Int} (hr : EndsNumber rest)
    (h : exponentPart s = some (x, r)) : exponentPart (s ++ rest) = some (x, r ++ rest) := by
  cases s with
  | nil =>
    cases h
    cases rest with
    | nil => rfl
    | cons c rest => exact exponentPart_other (by simp [(hr c rfl).2.2]) rest
  | cons c s =>
    rw [List.cons_append]
    by_cases hc : c = 'e' ∨ c = 'E'
    · rw [exponentPart_letter hc] at h ⊢
      have hs : s ≠ [] := by
        intro hs
        subst hs
        cases h
      rw [exponentSign_append hs]
      exact exponentDigits_append hr h
    · rw [exponentPart_other hc] at h ⊢
      cases h
      rfl

/-- Whether a number is negative, and the rest behind its sign. -/
def numberSign : List Char → Bool × List Char
  | '-' :: rest => (true, rest)
  | rest => (false, rest)

private theorem numberSign_append {s : List Char} (h : s ≠ []) (rest : List Char) :
    numberSign (s ++ rest) = ((numberSign s).1, (numberSign s).2 ++ rest) := by
  cases s with
  | nil => exact absurd rfl h
  | cons c s =>
    by_cases hm : c = '-'
    · subst hm
      rfl
    · have hself (t : List Char) : numberSign (c :: t) = (false, c :: t) := by
        simp [numberSign, hm]
      rw [List.cons_append, hself, hself, List.cons_append]

/-- A number is the parts that come one after the other. -/
theorem number_eq_some_iff {s r : List Char} {n : JsonNumber} :
    number s = some (n, r) ↔ ∃ whole s₁ fraction s₂ exponent,
      wholePart (numberSign s).2 = some (whole, s₁) ∧
      fractionPart s₁ = some (fraction, s₂) ∧ exponentPart s₂ = some (exponent, r) ∧
      numberOfParts (numberSign s).1 whole fraction exponent = some n := by
  have hs : number s = (wholePart (numberSign s).2).bind fun w ↦
      (fractionPart w.2).bind fun f ↦ (exponentPart f.2).bind fun e ↦
        (numberOfParts (numberSign s).1 w.1 f.1 e.1).bind fun n ↦ some (n, e.2) := rfl
  rw [hs]
  simp only [Option.bind_eq_some_iff, Prod.exists, Option.some.injEq, Prod.mk.injEq]
  constructor
  · rintro ⟨whole, s₁, hw, fraction, s₂, hf, exponent, s₃, he, m, hn, rfl, rfl⟩
    exact ⟨whole, s₁, fraction, s₂, exponent, hw, hf, he, hn⟩
  · rintro ⟨whole, s₁, fraction, s₂, exponent, hw, hf, he, hn⟩
    exact ⟨whole, s₁, hw, fraction, s₂, hf, exponent, r, he, n, hn, rfl, rfl⟩

/-- A number is read in the same way before a text that does not go on with it. -/
theorem number_append {s r rest : List Char} {n : JsonNumber} (hr : EndsNumber rest)
    (h : number s = some (n, r)) : number (s ++ rest) = some (n, r ++ rest) := by
  have hs : s ≠ [] := by
    intro hs
    subst hs
    cases h
  obtain ⟨whole, s₁, fraction, s₂, exponent, hw, hf, he, hn⟩ := number_eq_some_iff.mp h
  refine number_eq_some_iff.mpr ⟨whole, s₁ ++ rest, fraction, s₂ ++ rest, exponent, ?_, ?_, ?_, ?_⟩
  · rw [numberSign_append hs]
    exact wholePart_append hr hw
  · exact fractionPart_append hr hf
  · exact exponentPart_append hr he
  · rw [numberSign_append hs]
    exact hn

/-- A number starts with its sign or with a digit. -/
theorem exists_cons_of_number {s r : List Char} {n : JsonNumber} (h : number s = some (n, r)) :
    ∃ c t, s = c :: t ∧ (c = '-' ∨ c.isDigit) := by
  obtain ⟨whole, s₁, -, -, -, hw, -, -, -⟩ := number_eq_some_iff.mp h
  cases s with
  | nil => cases h
  | cons c t =>
    refine ⟨c, t, rfl, ?_⟩
    by_cases hm : c = '-'
    · exact .inl hm
    · have hs : numberSign (c :: t) = (false, c :: t) := by simp [numberSign, hm]
      rw [hs, wholePart, digits_cons] at hw
      by_cases hd : c.isDigit
      · exact .inr hd
      · rw [if_neg hd] at hw
        cases hw

/-! ### Natural numbers -/

private theorem le_ofDigitChars (digits : List Char) (start : Nat) :
    start ≤ Nat.ofDigitChars 10 digits start := by
  induction digits generalizing start with
  | nil => exact Nat.le_refl start
  | cons c rest ih =>
    rw [Nat.ofDigitChars_cons]
    exact Nat.le_trans (by omega) (ih _)

/-- Digits are read as the number they stand for, if it is not too large. -/
private theorem wholeDigits_eq {digits : List Char} {start : Nat} (exponent : Int)
    (h : Nat.ofDigitChars 10 digits start ≤ maxSignificand) :
    wholeDigits ⟨start, exponent⟩ digits = ⟨Nat.ofDigitChars 10 digits start, exponent⟩ := by
  induction digits generalizing start with
  | nil => rfl
  | cons c rest ih =>
    have hnext : start * 10 + digitValue c = 10 * start + (c.toNat - '0'.toNat) := by
      rw [Nat.mul_comm]
      rfl
    rw [Nat.ofDigitChars_cons] at h ⊢
    have hle := Nat.le_trans (le_ofDigitChars rest _) h
    simp only [wholeDigits, hnext, hle, if_true]
    exact ih h

private theorem head?_decimalDigits_ne {n : Nat} (h : 0 < n) :
    (Number.decimalDigits n).head? ≠ some '0' := by
  induction n using Nat.strongRecOn with | _ n ih =>
  rw [Number.decimalDigits, Nat.toDigits_eq_if (by decide)]
  split
  · next hlt =>
    have hdigit : ∀ d < 10, 0 < d → d.digitChar ≠ '0' := by decide
    simpa using hdigit n hlt h
  · have hrest := ih (n / 10) (by omega) (by omega)
    obtain ⟨c, t, hc⟩ := List.exists_cons_of_ne_nil (@Nat.toDigits_ne_nil (n / 10) 10)
    rw [Number.decimalDigits, hc] at hrest
    rw [hc]
    exact hrest

private theorem digits_of_isDigit {s : List Char} (h : ∀ c ∈ s, c.isDigit) :
    digits s = (s, []) := by
  induction s with
  | nil => rfl
  | cons c s ih =>
    obtain ⟨hc, hs⟩ := List.forall_mem_cons.mp h
    rw [digits_cons, if_pos hc, ih hs]

/-- What is written of a natural number is its whole part, without a sign. -/
private theorem wholePart_decimalDigits (n : Nat) :
    numberSign (Number.decimalDigits n) = (false, Number.decimalDigits n) ∧
      wholePart (Number.decimalDigits n) = some (Number.decimalDigits n, []) := by
  have hall : ∀ c ∈ Number.decimalDigits n, c.isDigit := fun c hc ↦
    Nat.isDigit_of_mem_toDigits (by decide) (by decide) hc
  obtain ⟨c, t, hc⟩ := List.exists_cons_of_ne_nil (@Nat.toDigits_ne_nil n 10)
  have hzero : c = '0' → t = [] := by
    intro h
    rcases Nat.eq_zero_or_pos n with rfl | hpos
    · cases hc
      rfl
    · exact absurd (by rw [Number.decimalDigits, hc, h]; rfl) (head?_decimalDigits_ne hpos)
  rw [wholePart, digits_of_isDigit hall]
  rw [Number.decimalDigits, hc] at hall ⊢
  have hminus : c ≠ '-' := by
    rintro rfl
    exact absurd (hall _ List.mem_cons_self) (by decide)
  refine ⟨by simp [numberSign, hminus], ?_⟩
  split
  · next he => cases he
  · next he =>
    cases he
    cases hzero rfl
  · next he =>
    cases he
    rfl

/-- A natural number of sixty-four bits is read back. -/
theorem number_natural {n : Nat} (h : n < Nat.pow 2 64) :
    number (renderNumber (.integer n)) = some (.integer n, []) := by
  have htext : renderNumber (.integer n) = Number.decimalDigits n := by
    simp [renderNumber, renderInt]
  obtain ⟨hsign, hwhole⟩ := wholePart_decimalDigits n
  have hvalue : Nat.ofDigitChars 10 (Number.decimalDigits n) 0 = n :=
    Nat.ofDigitChars_ten_toDigits
  have hread : wholeDigits ⟨0, 0⟩ (Number.decimalDigits n) = ⟨n, 0⟩ := by
    rw [wholeDigits_eq, hvalue]
    rw [hvalue]
    exact Nat.le_sub_one_of_lt h
  rw [htext]
  refine number_eq_some_iff.mpr ⟨Number.decimalDigits n, [], none, [], none, ?_, rfl, rfl, ?_⟩
  · rw [hsign, hwhole]
  · rw [hsign]
    simp [numberOfParts, hread]

end EventRelay.Json.Parser
