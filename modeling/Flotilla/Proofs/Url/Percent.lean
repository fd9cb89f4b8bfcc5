import Flotilla.Proofs.Text.Search
import Flotilla.Url.Percent
import Mathlib.Data.List.Basic

/-!
# Laws of Percent Encoding

Decoding undoes encoding as long as the percent sign itself is encoded, so no two texts have the
same encoding. What an encoding consists of is known as well: kept characters, and percent signs
with the digits of a byte of a character that is not kept.
-/

namespace Flotilla.Url

/-! ## §1 Digits and bytes -/

theorem hexValue?_hexDigit {n : Nat} (hn : n < 16) : hexValue? (hexDigit n) = some n := by
  have hall : ∀ k : Fin 16, hexValue? (hexDigit k) = some k.val := by decide
  exact hall ⟨n, hn⟩

theorem hexDigit_ne {n : Nat} {c : Char} (hn : n < 16) (hc : hexValue? c = none) :
    hexDigit n ≠ c := by
  intro h
  rw [← h, hexValue?_hexDigit hn] at hc
  cases hc

/-- A byte that is below 128 is the number of its character. -/
theorem toNat_of_mem_utf8EncodeChar {b : UInt8} {c : Char} (hb : b.toNat < 128)
    (h : b ∈ String.utf8EncodeChar c) : b.toNat = c.toNat := by
  have hhigh : ∀ m, b = UInt8.ofNat m → m < 256 → m < 128 := by
    intro m hm hlt
    rw [hm, UInt8.toNat_ofNat', Nat.mod_eq_of_lt hlt] at hb
    exact hb
  unfold String.utf8EncodeChar at h
  dsimp only at h
  -- All bytes of an encoding that is longer than one byte are at least 128.
  split at h
  · rw [List.mem_singleton.mp h, UInt8.toNat_ofNat', Nat.mod_eq_of_lt (by omega)]
    rfl
  · split at h
    · simp only [List.mem_cons, List.not_mem_nil, or_false] at h
      rcases h with h | h <;> exact absurd (hhigh _ h (by omega)) (by omega)
    · split at h
      · simp only [List.mem_cons, List.not_mem_nil, or_false] at h
        rcases h with h | h | h <;> exact absurd (hhigh _ h (by omega)) (by omega)
      · simp only [List.mem_cons, List.not_mem_nil, or_false] at h
        rcases h with h | h | h | h <;> exact absurd (hhigh _ h (by omega)) (by omega)

/-! ## §2 Decoding undoes encoding -/

theorem decode_encodeByte (b : UInt8) (rest : List Char) :
    decode (encodeByte b ++ rest) = b :: decode rest := by
  have hb : b.toNat < 256 := b.toNat_lt_size
  have hhi : b.toNat / 16 < 16 := by omega
  have hlo : b.toNat % 16 < 16 := by omega
  -- A byte is put together again from its two halves, each of them one digit.
  have hvalue : 16 * (b.toNat / 16) + b.toNat % 16 = b.toNat := by omega
  simp only [encodeByte, List.cons_append, List.nil_append]
  rw [decode]
  simp only [hexValue?_hexDigit hhi, hexValue?_hexDigit hlo, hvalue, UInt8.ofNat_toNat]

theorem decode_encodeBytes (bs : List UInt8) (rest : List Char) :
    decode (bs.flatMap encodeByte ++ rest) = bs ++ decode rest := by
  induction bs with
  | nil => rfl
  | cons b bs ih =>
    rw [List.flatMap_cons, List.append_assoc, decode_encodeByte, ih]
    rfl

/-- Any character but the percent sign stands for its own bytes. -/
theorem decode_cons {c : Char} (hc : c ≠ '%') (rest : List Char) :
    decode (c :: rest) = String.utf8EncodeChar c ++ decode rest := by
  rw [decode]
  intro a b more hpercent
  exact absurd hpercent hc

/-- Decoding undoes encoding wherever the percent sign is not kept. -/
theorem decode_encode {keep : Char → Bool} (hkeep : keep '%' = false) (cs : List Char) :
    decode (encode keep cs) = cs.flatMap String.utf8EncodeChar := by
  induction cs with
  | nil => rfl
  | cons c cs ih =>
    have hcons : encode keep (c :: cs) = encodeChar keep c ++ encode keep cs := rfl
    rw [hcons, List.flatMap_cons]
    unfold encodeChar
    by_cases hc : keep c = true
    · -- A character that is kept is no percent sign, so it stands for its own bytes.
      have hpercent : c ≠ '%' := by
        rintro rfl
        rw [hkeep] at hc
        cases hc
      rw [if_pos hc, List.singleton_append, decode_cons hpercent, ih]
    · rw [if_neg hc, decode_encodeBytes, ih]

/-! ## §3 What an encoding consists of -/

/-- A pattern that begins with a percent sign begins an encoded byte or occurs after it. -/
theorem occursIn_encodeByte_append {a b : Char} {byte : UInt8} {rest : List Char}
    (h : Text.occursIn ['%', a, b] (encodeByte byte ++ rest) = true) :
    (a = hexDigit (byte.toNat / 16) ∧ b = hexDigit (byte.toNat % 16)) ∨
      Text.occursIn ['%', a, b] rest = true := by
  have hbyte : byte.toNat < 256 := byte.toNat_lt_size
  have hhi : hexDigit (byte.toNat / 16) ≠ '%' := hexDigit_ne (by omega) (by decide)
  have hlo : hexDigit (byte.toNat % 16) ≠ '%' := hexDigit_ne (by omega) (by decide)
  -- The two digits are no percent signs, so the pattern begins before them or after them.
  simp only [encodeByte, List.cons_append, List.nil_append] at h
  rw [Text.occursIn, Bool.or_eq_true] at h
  rcases h with hprefix | hlater
  · left
    simpa [List.isPrefixOf] using hprefix
  · right
    rwa [Text.occursIn_cons_of_ne hhi.symm, Text.occursIn_cons_of_ne hlo.symm] at hlater

theorem occursIn_encodeBytes_append {a b : Char} {bytes : List UInt8} {rest : List Char}
    (h : Text.occursIn ['%', a, b] (bytes.flatMap encodeByte ++ rest) = true) :
    (∃ byte ∈ bytes, a = hexDigit (byte.toNat / 16) ∧ b = hexDigit (byte.toNat % 16)) ∨
      Text.occursIn ['%', a, b] rest = true := by
  induction bytes with
  | nil => exact .inr h
  | cons byte bytes ih =>
    rw [List.flatMap_cons, List.append_assoc] at h
    rcases occursIn_encodeByte_append h with hhere | hlater
    · exact .inl ⟨byte, List.mem_cons_self .., hhere⟩
    · refine (ih hlater).imp_left ?_
      rintro ⟨other, hmem, hdigits⟩
      exact ⟨other, List.mem_cons_of_mem byte hmem, hdigits⟩

/-- Where a percent sign and two digits occur in an encoding, they are a byte of a character that
is not kept. -/
theorem byte_of_occursIn_encode {keep : Char → Bool} (hkeep : keep '%' = false) {a b : Char}
    {cs : List Char} (h : Text.occursIn ['%', a, b] (encode keep cs) = true) :
    ∃ c ∈ cs, keep c = false ∧ ∃ byte ∈ String.utf8EncodeChar c,
      a = hexDigit (byte.toNat / 16) ∧ b = hexDigit (byte.toNat % 16) := by
  -- By induction on the characters: a kept one is no percent sign, so the pattern comes after it.
  induction cs with
  | nil => cases h
  | cons c cs ih =>
    have hcons : encode keep (c :: cs) = encodeChar keep c ++ encode keep cs := rfl
    have hlater : Text.occursIn ['%', a, b] (encode keep cs) = true → ∃ c' ∈ c :: cs,
        keep c' = false ∧ ∃ byte ∈ String.utf8EncodeChar c',
          a = hexDigit (byte.toNat / 16) ∧ b = hexDigit (byte.toNat % 16) := by
      intro hrest
      obtain ⟨c', hmem, hbyte⟩ := ih hrest
      exact ⟨c', List.mem_cons_of_mem c hmem, hbyte⟩
    rw [hcons] at h
    unfold encodeChar at h
    by_cases hc : keep c = true
    · have hpercent : '%' ≠ c := by
        rintro rfl
        rw [hkeep] at hc
        cases hc
      rw [if_pos hc, List.singleton_append, Text.occursIn_cons_of_ne hpercent] at h
      exact hlater h
    · rw [if_neg hc] at h
      rcases occursIn_encodeBytes_append h with hhere | hrest
      · exact ⟨c, List.mem_cons_self .., by simpa using hc, hhere⟩
      · exact hlater hrest

/-- An encoding consists of kept characters, percent signs and digits. -/
theorem mem_encode {keep : Char → Bool} {d : Char} {cs : List Char} (h : d ∈ encode keep cs) :
    keep d = true ∨ d = '%' ∨ ∃ n, n < 16 ∧ d = hexDigit n := by
  obtain ⟨c, -, hd⟩ := List.mem_flatMap.mp h
  unfold encodeChar at hd
  split at hd
  · rename_i hc
    rw [List.mem_singleton.mp hd]
    exact .inl hc
  · -- A character that is not kept is written byte by byte, with a sign and two digits.
    obtain ⟨byte, -, hdigit⟩ := List.mem_flatMap.mp hd
    have hbyte : byte.toNat < 256 := byte.toNat_lt_size
    simp only [encodeByte, List.mem_cons, List.not_mem_nil, or_false] at hdigit
    rcases hdigit with rfl | rfl | rfl
    · exact .inr (.inl rfl)
    · exact .inr (.inr ⟨_, by omega, rfl⟩)
    · exact .inr (.inr ⟨_, by omega, rfl⟩)

end Flotilla.Url
