import EventRelay.Text.Base64

/-!
# Base64 texts and byte sequences

A digit stands for six bits, and these are read back from it and from no other character. So a
group of digits is read exactly if it is what is written of its bytes: the two spare bits of three
digits and the four of two digits have to be zero. By the groups, a text is read as a byte sequence
exactly if it is the one that is written of it.
-/

namespace EventRelay.Text.Base64

private theorem value?_digit : ∀ n < 64, value? (digit n) = some n := by
  decide

private theorem digit_ne_padding : ∀ n < 64, digit n ≠ '=' := by
  decide

private theorem digit_of_value? {c : Char} {n : Nat} (h : value? c = some n) :
    n < 64 ∧ digit n = c := by
  have hc (k : Nat) (hk : k = c.toNat) : Char.ofNat k = c := by
    rw [hk, Char.ofNat_toNat]
  unfold value? at h
  split at h
  · next hr =>
    obtain ⟨hlow, hhigh⟩ : 65 ≤ c.toNat ∧ c.toNat ≤ 90 := hr
    cases h
    refine ⟨by omega, ?_⟩
    rw [digit, if_pos (by omega)]
    exact hc _ (by omega)
  · split at h
    · next hr =>
      obtain ⟨hlow, hhigh⟩ : 97 ≤ c.toNat ∧ c.toNat ≤ 122 := hr
      cases h
      refine ⟨by omega, ?_⟩
      rw [digit, if_neg (by omega), if_pos (by omega)]
      exact hc _ (by omega)
    · split at h
      · next hr =>
        obtain ⟨hlow, hhigh⟩ : 48 ≤ c.toNat ∧ c.toNat ≤ 57 := hr
        cases h
        refine ⟨by omega, ?_⟩
        rw [digit, if_neg (by omega), if_neg (by omega), if_pos (by omega)]
        exact hc _ (by omega)
      · split at h
        · next hr =>
          cases h
          exact ⟨by decide, hr.symm⟩
        · split at h
          · next hr =>
            cases h
            exact ⟨by decide, hr.symm⟩
          · cases h

private theorem ofNat_eq_of_toNat {n : Nat} {a : UInt8} (h : n = a.toNat) : UInt8.ofNat n = a := by
  rw [h, UInt8.ofNat_toNat]

/-- What is written of a byte sequence is read back as it. -/
theorem decode_encode (bytes : Bytes) : decode (encode bytes) = some bytes := by
  fun_induction encode bytes with
  | case1 => rfl
  | case2 a n =>
    have ha := a.toNat_lt
    have hn : n / 64 * 64 + n % 64 = n := by omega
    have hspare : n % 16 = 0 := by omega
    have hbyte : UInt8.ofNat (n / 16) = a := ofNat_eq_of_toNat (by omega)
    rw [decode, value?_digit _ (by omega), value?_digit _ (by omega)]
    simp only [Option.bind_eq_bind, Option.bind_some, hn, hspare, if_true, hbyte]
  | case3 a b n =>
    have ha := a.toNat_lt
    have hb := b.toNat_lt
    have hn : (n / 4096 * 64 + n / 64 % 64) * 64 + n % 64 = n := by omega
    have hspare : n % 4 = 0 := by omega
    have hfirst : UInt8.ofNat (n / 1024) = a := ofNat_eq_of_toNat (by omega)
    have hsecond : UInt8.ofNat (n / 4 % 256) = b := ofNat_eq_of_toNat (by omega)
    have hdigit : digit (n % 64) ≠ '=' := digit_ne_padding _ (by omega)
    rw [decode, value?_digit _ (by omega), value?_digit _ (by omega), value?_digit _ (by omega)]
    · simp only [Option.bind_eq_bind, Option.bind_some, hn, hspare, if_true, hfirst, hsecond]
    · exact hdigit
  | case4 a b c rest n ih =>
    have ha := a.toNat_lt
    have hb := b.toNat_lt
    have hc := c.toNat_lt
    have hn : ((n / 262144 * 64 + n / 4096 % 64) * 64 + n / 64 % 64) * 64 + n % 64 = n := by omega
    have hfirst : UInt8.ofNat (n / 65536) = a := ofNat_eq_of_toNat (by omega)
    have hsecond : UInt8.ofNat (n / 256 % 256) = b := ofNat_eq_of_toNat (by omega)
    have hthird : UInt8.ofNat (n % 256) = c := ofNat_eq_of_toNat (by omega)
    have hdigit : digit (n % 64) ≠ '=' := digit_ne_padding _ (by omega)
    rw [decode, value?_digit _ (by omega), value?_digit _ (by omega), value?_digit _ (by omega),
      value?_digit _ (by omega), ih]
    · simp only [Option.bind_eq_bind, Option.bind_some, hn, hfirst, hsecond, hthird]
    · exact fun _ hd _ ↦ hdigit hd
    · exact fun hd _ ↦ hdigit hd

/-- What is read as a byte sequence is what is written of it. -/
theorem eq_encode_of_decode {text : List Char} {bytes : Bytes} (h : decode text = some bytes) :
    text = encode bytes := by
  fun_induction decode text generalizing bytes with
  | case1 =>
    cases h
    rfl
  | case2 a b =>
    simp only [Option.bind_eq_bind, Option.bind_eq_some_iff] at h
    obtain ⟨p, hp, q, hq, h⟩ := h
    obtain ⟨hp, rfl⟩ := digit_of_value? hp
    obtain ⟨hq, rfl⟩ := digit_of_value? hq
    split at h
    · next hspare =>
      cases h
      rw [encode, UInt8.toNat_ofNat_of_lt' (show _ < 256 by omega)]
      -- The spare bits are zero, so the byte holds all of the value.
      have hn : (p * 64 + q) / 16 * 16 = p * 64 + q := by omega
      have hp : (p * 64 + q) / 64 = p := by omega
      have hq : (p * 64 + q) % 64 = q := by omega
      simp only [hn, hp, hq]
    · cases h
  | case3 a b c =>
    simp only [Option.bind_eq_bind, Option.bind_eq_some_iff] at h
    obtain ⟨p, hp, q, hq, r, hr, h⟩ := h
    obtain ⟨hp, rfl⟩ := digit_of_value? hp
    obtain ⟨hq, rfl⟩ := digit_of_value? hq
    obtain ⟨hr, rfl⟩ := digit_of_value? hr
    split at h
    · next hspare =>
      cases h
      rw [encode, UInt8.toNat_ofNat_of_lt' (show _ < 256 by omega),
        UInt8.toNat_ofNat_of_lt' (show _ < 256 by omega)]
      generalize hn : (p * 64 + q) * 64 + r = n at hspare ⊢
      have hbytes : (n / 1024 * 256 + n / 4 % 256) * 4 = n := by omega
      have hp : n / 4096 = p := by omega
      have hq : n / 64 % 64 = q := by omega
      have hr : n % 64 = r := by omega
      simp only [hbytes, hp, hq, hr]
    · cases h
  | case4 a b c d rest _ _ ih =>
    simp only [Option.bind_eq_bind, Option.bind_eq_some_iff] at h
    obtain ⟨p, hp, q, hq, r, hr, s, hs, others, ho, h⟩ := h
    obtain ⟨hp, rfl⟩ := digit_of_value? hp
    obtain ⟨hq, rfl⟩ := digit_of_value? hq
    obtain ⟨hr, rfl⟩ := digit_of_value? hr
    obtain ⟨hs, rfl⟩ := digit_of_value? hs
    cases h
    rw [encode, UInt8.toNat_ofNat_of_lt' (show _ < 256 by omega),
      UInt8.toNat_ofNat_of_lt' (show _ < 256 by omega),
      UInt8.toNat_ofNat_of_lt' (show _ < 256 by omega), ← ih ho]
    generalize hn : ((p * 64 + q) * 64 + r) * 64 + s = n
    have hbytes : (n / 65536 * 256 + n / 256 % 256) * 256 + n % 256 = n := by omega
    have hp : n / 262144 = p := by omega
    have hq : n / 4096 % 64 = q := by omega
    have hr : n / 64 % 64 = r := by omega
    have hs : n % 64 = s := by omega
    simp only [hbytes, hp, hq, hr, hs]
  | case5 => cases h

/-- A text is read as a byte sequence exactly if it is what is written of it. -/
theorem decode_eq_some_iff {text : List Char} {bytes : Bytes} :
    decode text = some bytes ↔ text = encode bytes := by
  constructor
  · exact eq_encode_of_decode
  · rintro rfl
    exact decode_encode bytes

/-- Three bytes, and two whose text needs both signs and one padding. Neither spare bits that are
not zero nor a missing padding are read. -/
example :
    encode [0x66, 0x6F, 0x6F] = "Zm9v".toList ∧ encode [0xFB, 0xFF] = "+/8=".toList ∧
    decode "+/9=".toList = none ∧ decode "+/8".toList = none := by
  decide

end EventRelay.Text.Base64
