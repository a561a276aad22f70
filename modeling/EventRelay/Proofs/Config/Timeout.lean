import EventRelay.Config.Basic

/-!
# Timeouts and durations

A finite number of seconds is no duration exactly if its magnitude is `2 ^ 64` or more: the numbers
that have a fraction are all far below that, so rounding never carries one over the limit. A
service with such a timeout is neither found nor refused, and that is the only way for it.
-/

namespace EventRelay

namespace Number

private theorem roundHalfEven_le (n d : Nat) : roundHalfEven n d ≤ n / d + 1 := by
  simp only [roundHalfEven]
  split
  · omega
  · split
    · omega
    · omega

private theorem roundHalfEven_one (n : Nat) : roundHalfEven n 1 = n := by
  simp [roundHalfEven, Nat.mod_one]

namespace Binary64

/-- A significand has fifty-three bits. -/
theorem significand_lt (x : Binary64) : x.significand < Nat.pow 2 53 := by
  have hpow : Nat.pow 2 52 = 2 ^ 52 := rfl
  have hbound : Nat.pow 2 53 = 2 ^ 53 := rfl
  unfold significand
  rw [hpow, hbound]
  split
  · omega
  · have := Nat.mod_lt x.bits (Nat.two_pow_pos 52)
    omega

/-- A number is an integer, or its magnitude has a small numerator and no small denominator. -/
private theorem ratio_cases (x : Binary64) :
    x.ratio.2 = 1 ∨ (x.ratio.1 < Nat.pow 2 53 ∧ 1 ≤ x.ratio.2) := by
  unfold ratio
  cases x.exponent with
  | ofNat e => exact .inl rfl
  | negSucc e => exact .inr ⟨x.significand_lt, Nat.one_le_two_pow⟩

private theorem ratio_of_bits_eq_zero {x : Binary64} (h : x.bits = 0) : x.ratio.1 = 0 := by
  have hs : x.significand = 0 := by simp [significand, h]
  unfold ratio
  cases x.exponent <;> simp [hs]

end Binary64
end Number

namespace Time.Duration

/-- A number of seconds is no duration exactly if its magnitude is the limit or more. -/
theorem ofBinary64?_eq_none_iff (x : Number.Binary64) :
    ofBinary64? x = none ↔ limit * x.ratio.2 ≤ x.ratio.1 := by
  have hrounded : ofBinary64? x = none ↔
      limit ≤ Number.roundHalfEven (x.ratio.1 * 1000000000) x.ratio.2 / 1000000000 := by
    simp [ofBinary64?]
  have hlimit : limit = 2 ^ 64 := rfl
  have hbound : Nat.pow 2 53 = 2 ^ 53 := rfl
  rw [hrounded, hlimit]
  rcases x.ratio_cases with hden | ⟨hnum, hden⟩
  · rw [hden, Number.roundHalfEven_one, Nat.mul_div_cancel _ (by decide), Nat.mul_one]
  · rw [hbound] at hnum
    have hround := Number.roundHalfEven_le (x.ratio.1 * 1000000000) x.ratio.2
    have hquotient := Nat.div_le_self (x.ratio.1 * 1000000000) x.ratio.2
    constructor
    · intro h
      omega
    · intro h
      have : 2 ^ 64 ≤ 2 ^ 64 * x.ratio.2 := Nat.le_mul_of_pos_right _ hden
      omega

end Time.Duration

/-- The timeout is a positive number of seconds that fits no duration. -/
def ServiceSettings.WaitsTooLong (settings : ServiceSettings) : Prop :=
  ∃ x, settings.timeout = some (.finite x) ∧ x.negative = false ∧
    Time.Duration.limit * x.ratio.2 ≤ x.ratio.1

/-- There is no time to wait exactly if the timeout fits no duration. -/
theorem ServiceSettings.waiting?_eq_none_iff (settings : ServiceSettings) :
    settings.waiting? = none ↔ settings.WaitsTooLong := by
  unfold waiting? WaitsTooLong
  rcases settings.timeout with _ | x | _ | _
  · simp
  · have hzero : Time.Duration.limit * x.ratio.2 ≤ x.ratio.1 → x.bits ≠ 0 := by
      intro h hbits
      rw [Number.Binary64.ratio_of_bits_eq_zero hbits] at h
      have := Nat.mul_eq_zero.mp (Nat.le_zero.mp h)
      have := x.ratio_cases
      have : Time.Duration.limit ≠ 0 := by decide
      omega
    by_cases hp : x.isPositive
    · have hn : x.negative = false ∧ x.bits ≠ 0 := by simpa [Number.Binary64.isPositive] using hp
      simp [hp, hn.1, Time.Duration.ofBinary64?_eq_none_iff]
    · have hn : x.negative = false → x.bits = 0 := by simpa [Number.Binary64.isPositive] using hp
      simp only [hp]
      constructor
      · intro h
        cases h
      · rintro ⟨y, hy, hpos, hlong⟩
        obtain rfl : x = y := by simpa using hy
        exact absurd (hn hpos) (hzero hlong)
  · simp
  · simp

namespace Config

/-- The service has a URL, and a timeout that fits no duration. -/
def WaitsTooLong (config : Config) (name : String) : Prop :=
  ∃ settings, config.services.lookup name = some settings ∧ settings.usableUrl?.isSome ∧
    settings.WaitsTooLong

/-- A service is found under its name, is refused because it is unknown or has no URL, or is given
up. -/
theorem service_cases (config : Config) (name : String) :
    (∃ service, config.service name = .found service ∧ service.name = name) ∨
    config.service name = .refused (.unknownService name) ∨
    config.service name = .refused (.missingUrl name) ∨
    config.service name = .aborted := by
  unfold service
  cases config.services.lookup name with
  | none => exact .inr (.inl rfl)
  | some settings =>
    dsimp only
    rcases settings.usableUrl? with _ | url
    · exact .inr (.inr (.inl rfl))
    · rcases settings.waiting? with _ | timeout
      · exact .inr (.inr (.inr rfl))
      · exact .inl ⟨_, rfl, rfl⟩

/-- A service is given up exactly if its timeout fits no duration. -/
theorem service_eq_aborted_iff (config : Config) (name : String) :
    config.service name = .aborted ↔ config.WaitsTooLong name := by
  unfold service WaitsTooLong
  cases config.services.lookup name with
  | none => simp
  | some settings =>
    have hw := settings.waiting?_eq_none_iff
    simp only [Option.some.injEq, exists_eq_left', ← hw]
    rcases settings.usableUrl? with _ | url
    · simp
    · rcases settings.waiting? with _ | timeout <;> simp

end Config
end EventRelay
