import Refetch.Proofs.Text.Letters
import Refetch.Proofs.Text.RoundTrip
/-!
# Digits of either case

1. A hexadecimal digit is read alike in either case, and what is written for its value is the digit in
   lower case (`digit_of_value?`).
2. So bytes that were read are written as the digits in lower case (`encodeChars_of_decodeChars`).
-/

namespace Refetch.Text.Hex

/-! ## Digits -/

theorem value?_eq (c : Char) : value? c =
    if 48 ≤ c.toNat ∧ c.toNat ≤ 57 then some (c.toNat - 48)
    else if 97 ≤ c.toNat ∧ c.toNat ≤ 102 then some (c.toNat - 97 + 10)
    else if 65 ≤ c.toNat ∧ c.toNat ≤ 70 then some (c.toNat - 65 + 10)
    else none := rfl

/-- The digits of hexadecimal numbers, letters in either case. -/
def digits : List Char := "0123456789abcdefABCDEF".toList

theorem isDigit_iff (c : Char) : isDigit c = true ↔ c ∈ digits := by
  have hn : c ∈ digits ↔ c.toNat ∈ digits.map Char.toNat :=
    (List.mem_map_of_injective fun _ _ h => Char.toNat_inj.1 h).symm
  have hd : digits.map Char.toNat = List.range' 48 10 ++ List.range' 97 6 ++ List.range' 65 6 := by
    decide
  rw [hn, hd, isDigit, value?_eq]
  simp only [List.mem_append, List.mem_range'_1]
  split_ifs <;> simp <;> omega

theorem value?_toLower (c : Char) : value? c.toLower = value? c := by
  simp only [value?_eq, toNat_toLower]
  split_ifs <;> first | rfl | omega

theorem toNat_digit {n : Nat} (h : n < 16) :
    (digit n).toNat = if n < 10 then 48 + n else 87 + n := by
  interval_cases n <;> rfl

/-- A digit that is read is that of its value in lower case. -/
theorem digit_of_value? {c : Char} {n : Nat} (h : value? c = some n) :
    n < 16 ∧ digit n = c.toLower := by
  have hn : n < 16 := by
    rw [value?_eq] at h
    split_ifs at h <;> cases h <;> omega
  refine ⟨hn, Char.toNat_inj.1 ?_⟩
  rw [toNat_digit hn, toNat_toLower]
  rw [value?_eq] at h
  split_ifs at h <;> cases h <;> split_ifs <;> omega

/-! ## Texts -/

/-- **What is written for bytes that were read** is the digits in lower case. -/
theorem encodeChars_of_decodeChars {cs : List Char} {bs : Bytes} (h : decodeChars cs = some bs) :
    encodeChars bs = cs.map Char.toLower := by
  induction cs using decodeChars.induct generalizing bs with
  | case1 =>
    cases h
    rfl
  | case2 c => cases h
  | case3 a b rest ih =>
    simp only [decodeChars, Option.bind_eq_bind, Option.bind_eq_some_iff, Option.pure_def,
      Option.some.injEq] at h
    obtain ⟨m, hm, n, hn, tail, ht, rfl⟩ := h
    obtain ⟨hm', hda⟩ := digit_of_value? hm
    obtain ⟨hn', hdb⟩ := digit_of_value? hn
    have hb : (UInt8.ofNat (m * 16 + n)).toNat = m * 16 + n := by
      rw [UInt8.toNat_ofNat', Nat.mod_eq_of_lt (by omega)]
    have h1 : (m * 16 + n) / 16 = m := by omega
    have h2 : (m * 16 + n) % 16 = n := by omega
    show encodeByte _ ++ encodeChars tail = _
    rw [ih ht, encodeByte, hb, h1, h2, hda, hdb]
    rfl

theorem exists_decodeChars {cs : List Char} (hd : cs.all isDigit) (hl : cs.length % 2 = 0) :
    ∃ bs, decodeChars cs = some bs := by
  induction cs using decodeChars.induct with
  | case1 => exact ⟨[], rfl⟩
  | case2 c => simp at hl
  | case3 a b rest ih =>
    simp only [List.all_cons, Bool.and_eq_true, isDigit, Option.isSome_iff_exists] at hd
    obtain ⟨⟨m, hm⟩, ⟨n, hn⟩, hr⟩ := hd
    obtain ⟨tail, ht⟩ := ih hr (by simp at hl; omega)
    exact ⟨_, by rw [decodeChars, hm, hn, ht]; rfl⟩

theorem map_toLower_encodeChars (bs : Bytes) :
    (encodeChars bs).map Char.toLower = encodeChars bs :=
  (encodeChars_of_decodeChars (decodeChars_encodeChars bs)).symm

theorem encode_injective : Function.Injective encode := by
  intro bs cs h
  have hd := decodeChars_encodeChars bs
  rw [String.ofList_inj.1 h, decodeChars_encodeChars] at hd
  exact (Option.some.inj hd).symm

theorem decodeChars_map_toLower (cs : List Char) :
    decodeChars (cs.map Char.toLower) = decodeChars cs := by
  induction cs using decodeChars.induct with
  | case1 => rfl
  | case2 c => rfl
  | case3 a b rest ih => simp only [List.map_cons, decodeChars, value?_toLower, ih]

theorem trim_encode (bs : Bytes) : trim (encode bs) = encode bs := by
  rw [trim, encode, String.toList_ofList,
    trimChars_of_no_blank fun _ h => isBlank_of_mem_encodeChars h]

theorem length_of_decode {s : String} {bs : Bytes} (h : decode s = some bs) :
    s.toList.length = 2 * bs.length := by
  have hw : (encodeChars bs).length = 2 * bs.length := by
    simp [encodeChars, encodeByte, List.length_flatMap, Nat.mul_comm]
  rw [← hw, encodeChars_of_decodeChars h, List.length_map]

end Refetch.Text.Hex
