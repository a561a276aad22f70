import EventRelay.Time.Rfc3339

/-!
# Timestamps that are written to the second

The strict reader takes back what is written to the second: for a year of four digits the result
is the timestamp without its fraction, a leap second included. Whatever it takes, it gives a time
that exists.
-/

namespace EventRelay.Number

private theorem isDigit_of_mem_decimalDigits {n : Nat} {c : Char} (h : c ∈ decimalDigits n) :
    c.isDigit = true :=
  Nat.isDigit_of_mem_toDigits (by decide) (by decide) h

end EventRelay.Number

namespace EventRelay.Time

private theorem length_padded {width n : Nat} (hw : 0 < width) (h : n < Nat.pow 10 width) :
    (padded width n).length = width := by
  have hl : (Number.decimalDigits n).length ≤ width :=
    (Nat.length_toDigits_le_iff (by decide) hw).mpr h
  simp only [padded, List.length_append, List.length_replicate]
  omega

private theorem isDigit_of_mem_padded {width n : Nat} {c : Char} (h : c ∈ padded width n) :
    c.isDigit = true := by
  rcases List.mem_append.mp h with h | h
  · rw [(List.mem_replicate.mp h).2]
    decide
  · exact Number.isDigit_of_mem_decimalDigits h

namespace Rfc3339

private theorem valueOf_padded (width n : Nat) : valueOf (padded width n) = n := by
  have hv (digits : List Char) : valueOf digits = Nat.ofDigitChars 10 digits 0 := by
    rw [valueOf, Nat.ofDigitChars]
    congr 1
    funext m c
    rw [Nat.mul_comm]
    rfl
  rw [hv, padded, Nat.ofDigitChars_append, Nat.ofDigitChars_replicate_zero, Nat.mul_zero]
  exact Nat.ofDigitChars_ten_toDigits

private theorem number_padded {width n : Nat} (hw : 0 < width) (h : n < Nat.pow 10 width)
    (rest : List Char) :
    number width width (padded width n ++ rest) = some (n, rest) := by
  have hl := length_padded hw h
  have ht : (padded width n ++ rest).take width = padded width n := by
    rw [List.take_append_of_le_length (by omega), List.take_of_length_le (by omega)]
  have hd : (padded width n).takeWhile Char.isDigit = padded width n := by
    have hall : ∀ c ∈ padded width n, c.isDigit := fun c hc ↦ isDigit_of_mem_padded hc
    simpa using @List.takeWhile_append_of_pos _ Char.isDigit (padded width n) [] hall
  have hr : (padded width n ++ rest).drop width = rest := by
    rw [List.drop_append_of_le_length (by omega), List.drop_of_length_le (by omega),
      List.nil_append]
  simp only [number, ht, hd, hl, Nat.lt_irrefl, if_false, valueOf_padded, hr]

private theorem bounded_padded {width low high n : Nat} (hw : 0 < width) (h : n < Nat.pow 10 width)
    (hlow : low ≤ n) (hhigh : n ≤ high) (rest : List Char) :
    bounded width width low high (padded width n ++ rest) = some (n, rest) := by
  simp [bounded, number_padded hw h, hlow, hhigh]

private theorem two_padded {low high n : Nat} (hlow : low ≤ n) (hhigh : n ≤ high) (h : n < 100)
    (rest : List Char) : bounded 2 2 low high (padded 2 n ++ rest) = some (n, rest) :=
  bounded_padded (by decide) h hlow hhigh rest

private theorem bind_some {α β : Type} {x : Option α} {a : α} {f : α → Option β} {b : Option β}
    (h : x = some a) (hf : f a = b) : x >>= f = b := by
  rw [h]
  exact hf

private theorem char_cons (c : Char) (rest : List Char) :
    Text.Reader.char c (c :: rest) = some ((), rest) := by simp [Text.Reader.char]

private theorem dateEnd_T (rest : List Char) : dateEnd ('T' :: rest) = some ((), rest) := rfl

private theorem fraction_Z (rest : List Char) :
    fraction ('Z' :: rest) = some (0, 'Z' :: rest) := rfl

private theorem offset_Z (between : Text.Reader Unit) (rest : List Char) :
    offset between ('Z' :: rest) = some (0, rest) := rfl

/-- The parts of a time in UTC whose second may be the sixtieth. -/
private theorem ofParts?_utc {date : Date} (hd : date.IsValid) {hour minute second : Nat}
    (hh : hour < 24) (hm : minute < 60) :
    ofParts? date.year date.month date.day hour minute second 0 0 =
      some ⟨date, hour, minute, second - second / 60, second / 60 * 1000000000⟩ := by
  have hp : Date.ofParts? date.year date.month date.day = some date := by
    simp [Date.ofParts?, hd]
  have hlow : ¬((hour : Int) * 60 + minute - 0 < 0) := by omega
  have hhigh : ¬((1440 : Int) ≤ hour * 60 + minute - 0) := by omega
  have hrest : (((hour : Int) * 60 + minute - 0) % 1440).toNat = hour * 60 + minute := by omega
  have hhour : (hour * 60 + minute) / 60 = hour := by omega
  have hminute : (hour * 60 + minute) % 60 = minute := by omega
  simp only [ofParts?, hp, Timestamp.earlier?, hlow, hhigh, if_false, hrest, hhour, hminute,
    Nat.zero_add]
  rfl

end Rfc3339

namespace Timestamp

/-- Without its fraction a timestamp has none. -/
theorem truncate_truncate (t : Timestamp) : t.truncate.truncate = t.truncate := by
  simp only [truncate, Nat.mul_div_cancel _ (show 0 < 1000000000 by decide)]

/-- No month is longer than thirty-one days. -/
theorem daysInMonth_le (year : Int) (month : Nat) : daysInMonth year month ≤ 31 := by
  unfold daysInMonth
  repeat' split
  all_goals omega

private theorem month_le_of_isValid {date : Date} (h : date.IsValid) :
    1 ≤ date.month ∧ date.month ≤ 12 := by
  obtain ⟨-, -, hlow, hhigh⟩ := h
  unfold daysInMonth at hhigh
  split at hhigh <;> omega

private theorem day_le_of_isValid {date : Date} (h : date.IsValid) :
    1 ≤ date.day ∧ date.day ≤ 31 := by
  obtain ⟨-, -, hlow, hhigh⟩ := h
  exact ⟨hlow, Nat.le_trans hhigh (daysInMonth_le date.year date.month)⟩

/-- The strict reader takes back what is written to the second. -/
theorem ofStrict?_toSeconds {t : Timestamp} (h : t.IsValid) (hlow : 0 ≤ t.date.year)
    (hhigh : t.date.year ≤ 9999) : ofStrict? t.toSeconds = some t.truncate := by
  obtain ⟨hdate, hhour, hminute, hsecond, hnano, hleap⟩ := h
  obtain ⟨hm, hm'⟩ := month_le_of_isValid hdate
  obtain ⟨hd, hd'⟩ := day_le_of_isValid hdate
  have hsec : t.second + t.nanosecond / 1000000000 ≤ 60 := by omega
  have htext : t.toSeconds.toList = padded 4 t.date.year.natAbs ++ '-' ::
      (padded 2 t.date.month ++ '-' :: (padded 2 t.date.day ++ 'T' :: (padded 2 t.hour ++ ':' ::
        (padded 2 t.minute ++ ':' ::
          (padded 2 (t.second + t.nanosecond / 1000000000) ++ ['Z']))))) := by
    simp [toSeconds, renderSeconds, renderYear, hlow, hhigh]
  have hparts : Rfc3339.ofParts? t.date.year.natAbs t.date.month t.date.day t.hour t.minute
      (t.second + t.nanosecond / 1000000000) 0 0 = some t.truncate := by
    rw [Int.natAbs_of_nonneg hlow, Rfc3339.ofParts?_utc hdate hhour hminute, truncate]
    have hover : (t.second + t.nanosecond / 1000000000) / 60 = t.nanosecond / 1000000000 := by
      omega
    rw [hover, Nat.add_sub_cancel]
  have hdigits : t.date.year.natAbs < 10000 := by omega
  have hyear := Rfc3339.number_padded (show 0 < 4 by decide)
    (show t.date.year.natAbs < Nat.pow 10 4 from hdigits)
  have hmonth := Rfc3339.two_padded hm hm' (by omega)
  have hday := Rfc3339.two_padded hd hd' (by omega)
  have hhour := Rfc3339.two_padded (Nat.zero_le t.hour) (show t.hour ≤ 23 by omega) (by omega)
  have hminute :=
    Rfc3339.two_padded (Nat.zero_le t.minute) (show t.minute ≤ 59 by omega) (by omega)
  have hsecond := Rfc3339.two_padded (Nat.zero_le _) hsec (by omega)
  have hread : Rfc3339.strict t.toSeconds.toList = some (t.truncate, []) := by
    rw [htext, Rfc3339.strict]
    refine Rfc3339.bind_some (hyear _) (Rfc3339.bind_some (Rfc3339.char_cons _ _) ?_)
    refine Rfc3339.bind_some (hmonth _) (Rfc3339.bind_some (Rfc3339.char_cons _ _) ?_)
    refine Rfc3339.bind_some (hday _) (Rfc3339.bind_some (Rfc3339.dateEnd_T _) ?_)
    refine Rfc3339.bind_some (hhour _) (Rfc3339.bind_some (Rfc3339.char_cons _ _) ?_)
    refine Rfc3339.bind_some (hminute _) (Rfc3339.bind_some (Rfc3339.char_cons _ _) ?_)
    refine Rfc3339.bind_some (hsecond _) (Rfc3339.bind_some (Rfc3339.fraction_Z []) ?_)
    refine Rfc3339.bind_some (Rfc3339.offset_Z _ []) ?_
    exact Rfc3339.bind_some hparts rfl
  rw [ofStrict?, hread]

end Timestamp

/-! ### What the strict reader gives -/

namespace Date

private theorem one_le_daysInMonth (year : Int) {month : Nat} (hlow : 1 ≤ month)
    (hhigh : month ≤ 12) :
    1 ≤ daysInMonth year month := by
  unfold daysInMonth
  grind

private theorem isValid_of_ofParts? {year : Int} {month day : Nat} {date : Date}
    (h : ofParts? year month day = some date) : date.IsValid := by
  obtain ⟨hv, rfl⟩ : (⟨year, month, day⟩ : Date).IsValid ∧ ⟨year, month, day⟩ = date := by
    simpa [ofParts?] using h
  exact hv

theorem isValid_of_next? {date next : Date} (hd : date.IsValid) (h : date.next? = some next) :
    next.IsValid := by
  obtain ⟨hfirst, hlast, -, -⟩ := hd
  rw [next?] at h
  split at h
  · next hday =>
    cases h
    exact ⟨hfirst, hlast, Nat.le_add_left 1 _, hday⟩
  · split at h
    · next hmonth =>
      cases h
      exact ⟨hfirst, hlast, Nat.le_refl 1,
        one_le_daysInMonth date.year (Nat.le_add_left 1 _) hmonth⟩
    · exact isValid_of_ofParts? h

theorem isValid_of_previous? {date previous : Date} (hd : date.IsValid)
    (h : date.previous? = some previous) : previous.IsValid := by
  obtain ⟨-, hhigh⟩ := Timestamp.month_le_of_isValid hd
  obtain ⟨hfirst, hlast, -, hday⟩ := hd
  rw [previous?] at h
  split at h
  · next hlow =>
    cases h
    exact ⟨hfirst, hlast, Nat.le_sub_one_of_lt hlow, Nat.le_trans (Nat.sub_le _ 1) hday⟩
  · split at h
    · next hmonth =>
      cases h
      exact ⟨hfirst, hlast, one_le_daysInMonth date.year (Nat.le_sub_one_of_lt hmonth)
        (Nat.le_trans (Nat.sub_le _ 1) hhigh), Nat.le_refl _⟩
    · exact isValid_of_ofParts? h

end Date

/-- Moving a time by an offset brings its hour and minute into range. -/
theorem Timestamp.isValid_of_earlier? {t earlier : Timestamp} {minutes : Int}
    (hdate : t.date.IsValid) (hsecond : t.second < 60) (hnano : t.nanosecond < 2000000000)
    (hleap : 1000000000 ≤ t.nanosecond → t.second = 59) (h : t.earlier? minutes = some earlier) :
    earlier.IsValid := by
  let rest := (((t.hour : Int) * 60 + t.minute - minutes) % 1440).toNat
  have hrest : rest < 1440 := by omega
  obtain ⟨date, hvalid, rfl⟩ : ∃ date : Date, date.IsValid ∧
      { t with date, hour := rest / 60, minute := rest % 60 } = earlier := by
    rw [earlier?] at h
    split at h
    · obtain ⟨date, hd, he⟩ := Option.bind_eq_some_iff.mp h
      exact ⟨date, Date.isValid_of_previous? hdate hd, Option.some.inj he⟩
    · split at h
      · obtain ⟨date, hd, he⟩ := Option.bind_eq_some_iff.mp h
        exact ⟨date, Date.isValid_of_next? hdate hd, Option.some.inj he⟩
      · exact ⟨t.date, hdate, Option.some.inj h⟩
  exact ⟨hvalid, Nat.div_lt_of_lt_mul hrest, Nat.mod_lt _ (by decide), hsecond, hnano, hleap⟩

namespace Rfc3339

private theorem le_of_bounded {least most low high n : Nat} {s rest : List Char}
    (h : bounded least most low high s = some (n, rest)) : low ≤ n ∧ n ≤ high := by
  obtain ⟨⟨m, s'⟩, -, h⟩ := Option.bind_eq_some_iff.mp h
  obtain ⟨hm, rfl, -⟩ : (low ≤ m ∧ m ≤ high) ∧ m = n ∧ s' = rest := by simpa using h
  exact hm

private theorem valueOf_lt {digits : List Char} (h : ∀ c ∈ digits, c.isDigit) :
    valueOf digits < Nat.pow 10 digits.length := by
  have run (start : Nat) : digits.foldl (fun n c ↦ n * 10 + (c.toNat - 48)) start <
      (start + 1) * Nat.pow 10 digits.length := by
    induction digits generalizing start with
    | nil => simp
    | cons c rest ih =>
      obtain ⟨hc, hrest⟩ := List.forall_mem_cons.mp h
      have hdigit : c.toNat ≤ 57 := (Char.isDigit_iff_toNat.mp hc).2
      calc rest.foldl _ (start * 10 + (c.toNat - 48))
        _ < (start * 10 + (c.toNat - 48) + 1) * Nat.pow 10 rest.length := ih hrest _
        _ ≤ ((start + 1) * 10) * Nat.pow 10 rest.length := Nat.mul_le_mul_right _ (by omega)
        _ = (start + 1) * (Nat.pow 10 rest.length * 10) := by
          rw [Nat.mul_assoc, Nat.mul_comm 10]
  simpa [valueOf] using run 0

/-- A fraction is less than a second. -/
private theorem lt_of_fraction {s rest : List Char} {n : Nat} (h : fraction s = some (n, rest)) :
    n < 1000000000 := by
  rw [fraction.eq_def] at h
  split at h
  · next text =>
    let kept := (text.takeWhile Char.isDigit).take 9
    have hkept : kept.length ≤ 9 := List.length_take_le _ _
    have hvalue : valueOf kept < 10 ^ kept.length := valueOf_lt fun c hc ↦
      List.all_eq_true.mp List.all_takeWhile c (List.mem_of_mem_take hc)
    simp only [Option.ite_none_left_eq_some, Option.some.injEq, Prod.mk.injEq] at h
    obtain ⟨-, rfl, -⟩ := h
    calc valueOf kept * 10 ^ (9 - kept.length)
      _ < 10 ^ kept.length * 10 ^ (9 - kept.length) :=
        Nat.mul_lt_mul_of_pos_right hvalue (Nat.pow_pos (by decide))
      _ = 1000000000 := by rw [← Nat.pow_add, Nat.add_sub_cancel' hkept]
  · cases h
    decide

/-- The strict reader gives times that exist. -/
theorem isValid_of_strict {s rest : List Char} {t : Timestamp} (h : strict s = some (t, rest)) :
    t.IsValid := by
  rw [strict] at h
  obtain ⟨⟨year, _⟩, -, h⟩ := Option.bind_eq_some_iff.mp h
  obtain ⟨_, -, h⟩ := Option.bind_eq_some_iff.mp h
  obtain ⟨⟨month, _⟩, -, h⟩ := Option.bind_eq_some_iff.mp h
  obtain ⟨_, -, h⟩ := Option.bind_eq_some_iff.mp h
  obtain ⟨⟨day, _⟩, -, h⟩ := Option.bind_eq_some_iff.mp h
  obtain ⟨_, -, h⟩ := Option.bind_eq_some_iff.mp h
  obtain ⟨⟨hour, _⟩, -, h⟩ := Option.bind_eq_some_iff.mp h
  obtain ⟨_, -, h⟩ := Option.bind_eq_some_iff.mp h
  obtain ⟨⟨minute, _⟩, -, h⟩ := Option.bind_eq_some_iff.mp h
  obtain ⟨_, -, h⟩ := Option.bind_eq_some_iff.mp h
  obtain ⟨⟨second, _⟩, hsecond, h⟩ := Option.bind_eq_some_iff.mp h
  obtain ⟨⟨nanosecond, _⟩, hnano, h⟩ := Option.bind_eq_some_iff.mp h
  obtain ⟨⟨minutes, _⟩, -, h⟩ := Option.bind_eq_some_iff.mp h
  obtain ⟨t', hparts, ht⟩ := Option.bind_eq_some_iff.mp h
  cases ht
  obtain ⟨date, hdate, hearlier⟩ := Option.bind_eq_some_iff.mp hparts
  have hle := (le_of_bounded hsecond).2
  have hlt := lt_of_fraction hnano
  refine Timestamp.isValid_of_earlier? (Date.isValid_of_ofParts? hdate) ?_ ?_ ?_ hearlier
  all_goals dsimp only
  all_goals omega

end Rfc3339

/-- What the strict reader takes is a time that exists. -/
theorem Timestamp.isValid_of_ofStrict? {text : String} {t : Timestamp}
    (h : ofStrict? text = some t) : t.IsValid := by
  rw [ofStrict?] at h
  split at h
  · next hs =>
    cases h
    exact Rfc3339.isValid_of_strict hs
  · cases h

end EventRelay.Time
