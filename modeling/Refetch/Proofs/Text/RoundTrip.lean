import Mathlib.Tactic
import Refetch.Text.Blank
import Refetch.Text.Hex
import Refetch.Text.Utf8
/-!
# Text that is encoded and decoded

1. The rows of the table of well-formed sequences cover every encoded character, whatever follows it
   (`head_encodeChar`). So decoding gives back what was encoded (`decode_encode`).
2. Two hexadecimal digits are read as the byte that they were written for, and none is trimmed away.
-/

namespace Refetch.Text.Utf8

/-! ## Tails -/

theorem isTail_ofNat {n : Nat} (h : n < 64) : isTail (UInt8.ofNat (n + 0x80)) = true := by
  simp [isTail, UInt8.le_iff_toNat_le, UInt8.toNat_ofNat']
  omega

theorem low6_ofNat {n : Nat} (h : n < 64) : low6 (UInt8.ofNat (n + 0x80)) = n := by
  simp only [low6, UInt8.toNat_ofNat']
  omega

theorem headTwo_eq {lead b : UInt8} (hb : isTail b = true) (rest : Bytes) :
    headTwo lead (b :: rest) = .char (Char.ofNat (lead.toNat % 32 * 64 + low6 b)) rest := by
  simp [headTwo, hb]

theorem headThree_eq {lead lower upper b c : UInt8} (hl : lower ≤ b) (hu : b ≤ upper)
    (hc : isTail c = true) (rest : Bytes) :
    headThree lead lower upper (b :: c :: rest) =
      .char (Char.ofNat (lead.toNat % 16 * 4096 + low6 b * 64 + low6 c)) rest := by
  simp [headThree, hl, hu, hc]

theorem headFour_eq {lead lower upper b c d : UInt8} (hl : lower ≤ b) (hu : b ≤ upper)
    (hc : isTail c = true) (hd : isTail d = true) (rest : Bytes) :
    headFour lead lower upper (b :: c :: d :: rest) =
      .char (Char.ofNat (lead.toNat % 8 * 262144 + low6 b * 4096 + low6 c * 64 + low6 d)) rest := by
  simp [headFour, hl, hu, hc, hd]

/-! ## Heads -/

/-- How a lead byte compares with the bounds of the rows. -/
theorem ofNat_lt_iff {n : Nat} (h : n < 256) (b : UInt8) : UInt8.ofNat n < b ↔ n < b.toNat := by
  rw [UInt8.lt_iff_toNat_lt, UInt8.toNat_ofNat', Nat.mod_eq_of_lt h]

theorem ofNat_le_iff {n : Nat} (h : n < 256) (b : UInt8) : UInt8.ofNat n ≤ b ↔ n ≤ b.toNat := by
  rw [UInt8.le_iff_toNat_le, UInt8.toNat_ofNat', Nat.mod_eq_of_lt h]

theorem le_ofNat_iff {n : Nat} (h : n < 256) (b : UInt8) : b ≤ UInt8.ofNat n ↔ b.toNat ≤ n := by
  rw [UInt8.le_iff_toNat_le, UInt8.toNat_ofNat', Nat.mod_eq_of_lt h]

theorem ofNat_beq_iff {n : Nat} (h : n < 256) (b : UInt8) :
    (UInt8.ofNat n == b) = true ↔ n = b.toNat := by
  rw [beq_iff_eq, ← UInt8.toNat_inj, UInt8.toNat_ofNat', Nat.mod_eq_of_lt h]

variable {v : Nat}

theorem head_one (h : v ≤ 0x7f) (rest : Bytes) :
    head (UInt8.ofNat v) rest = .char (Char.ofNat v) rest := by
  have hv : v < 256 := by omega
  rw [head, if_pos (by rw [ofNat_lt_iff hv]; show _ < 128; omega), UInt8.toNat_ofNat',
    Nat.mod_eq_of_lt hv]

theorem head_two (hl : 0x7f < v) (hu : v ≤ 0x7ff) (rest : Bytes) :
    head (UInt8.ofNat (v / 64 % 32 + 0xc0)) (UInt8.ofNat (v % 64 + 0x80) :: rest) =
      .char (Char.ofNat v) rest := by
  have hv : v / 64 % 32 + 0xc0 < 256 := by omega
  have ht : v % 64 < 64 := by omega
  rw [head, if_neg (by rw [ofNat_lt_iff hv]; show ¬ _ < 128; omega),
    if_neg (by rw [ofNat_lt_iff hv]; show ¬ _ < 0xC2; omega),
    if_pos (by rw [ofNat_le_iff hv]; show _ ≤ 0xDF; omega),
    headTwo_eq (isTail_ofNat ht), low6_ofNat ht, UInt8.toNat_ofNat', Nat.mod_eq_of_lt hv]
  congr
  omega

theorem head_three (hl : 0x7ff < v) (hu : v ≤ 0xffff) (hs : v < 0xd800 ∨ 0xdfff < v)
    (rest : Bytes) :
    head (UInt8.ofNat (v / 4096 % 16 + 0xe0))
        (UInt8.ofNat (v / 64 % 64 + 0x80) :: UInt8.ofNat (v % 64 + 0x80) :: rest) =
      .char (Char.ofNat v) rest := by
  have hv : v / 4096 % 16 + 0xe0 < 256 := by omega
  have hw : v / 64 % 64 + 0x80 < 256 := by omega
  have ht : v % 64 < 64 := by omega
  have ht' : v / 64 % 64 < 64 := by omega
  have hc : (UInt8.ofNat (v / 4096 % 16 + 0xe0)).toNat % 16 * 4096 + v / 64 % 64 * 64 + v % 64 =
      v := by
    rw [UInt8.toNat_ofNat', Nat.mod_eq_of_lt hv]
    omega
  rw [head, if_neg (by rw [ofNat_lt_iff hv]; show ¬ _ < 128; omega),
    if_neg (by rw [ofNat_lt_iff hv]; show ¬ _ < 0xC2; omega),
    if_neg (by rw [ofNat_le_iff hv]; show ¬ _ ≤ 0xDF; omega)]
  simp only [ofNat_beq_iff hv, ofNat_le_iff hv, UInt8.reduceToNat]
  have row {lower upper : UInt8} (hlower : lower.toNat ≤ v / 64 % 64 + 0x80)
      (hupper : v / 64 % 64 + 0x80 ≤ upper.toNat) :
      headThree (UInt8.ofNat (v / 4096 % 16 + 0xe0)) lower upper
        (UInt8.ofNat (v / 64 % 64 + 0x80) :: UInt8.ofNat (v % 64 + 0x80) :: rest) =
      .char (Char.ofNat v) rest := by
    rw [headThree_eq ((le_ofNat_iff hw _).2 hlower) ((ofNat_le_iff hw _).2 hupper)
      (isTail_ofNat ht), low6_ofNat ht, low6_ofNat ht', hc]
  rw [if_pos (show v / 4096 % 16 + 224 ≤ 239 by omega)]
  split_ifs with h1 h2
  · exact row (show 0xA0 ≤ _ by omega) (show _ ≤ 0xBF by omega)
  · exact row (show 0x80 ≤ _ by omega) (show _ ≤ 0x9F by omega)
  · exact row (show 0x80 ≤ _ by omega) (show _ ≤ 0xBF by omega)

theorem head_four (hl : 0xffff < v) (hu : v < 0x110000) (rest : Bytes) :
    head (UInt8.ofNat (v / 262144 % 8 + 0xf0))
        (UInt8.ofNat (v / 4096 % 64 + 0x80) :: UInt8.ofNat (v / 64 % 64 + 0x80) ::
          UInt8.ofNat (v % 64 + 0x80) :: rest) =
      .char (Char.ofNat v) rest := by
  have hv : v / 262144 % 8 + 0xf0 < 256 := by omega
  have hw : v / 4096 % 64 + 0x80 < 256 := by omega
  have ht : v % 64 < 64 := by omega
  have ht' : v / 64 % 64 < 64 := by omega
  have ht'' : v / 4096 % 64 < 64 := by omega
  have hc : (UInt8.ofNat (v / 262144 % 8 + 0xf0)).toNat % 8 * 262144 + v / 4096 % 64 * 4096 +
      v / 64 % 64 * 64 + v % 64 = v := by
    rw [UInt8.toNat_ofNat', Nat.mod_eq_of_lt hv]
    omega
  rw [head, if_neg (by rw [ofNat_lt_iff hv]; show ¬ _ < 128; omega),
    if_neg (by rw [ofNat_lt_iff hv]; show ¬ _ < 0xC2; omega),
    if_neg (by rw [ofNat_le_iff hv]; show ¬ _ ≤ 0xDF; omega)]
  simp only [ofNat_beq_iff hv, ofNat_le_iff hv, UInt8.reduceToNat]
  rw [if_neg (show ¬ _ = 0xE0 by omega), if_neg (show ¬ _ = 0xED by omega),
    if_neg (show ¬ _ ≤ 0xEF by omega)]
  have row {lower upper : UInt8} (hlower : lower.toNat ≤ v / 4096 % 64 + 0x80)
      (hupper : v / 4096 % 64 + 0x80 ≤ upper.toNat) :
      headFour (UInt8.ofNat (v / 262144 % 8 + 0xf0)) lower upper
        (UInt8.ofNat (v / 4096 % 64 + 0x80) :: UInt8.ofNat (v / 64 % 64 + 0x80) ::
          UInt8.ofNat (v % 64 + 0x80) :: rest) =
      .char (Char.ofNat v) rest := by
    rw [headFour_eq ((le_ofNat_iff hw _).2 hlower) ((ofNat_le_iff hw _).2 hupper)
      (isTail_ofNat ht') (isTail_ofNat ht), low6_ofNat ht, low6_ofNat ht', low6_ofNat ht'', hc]
  split_ifs with h1 h2 h3
  · exact row (show 0x90 ≤ _ by omega) (show _ ≤ 0xBF by omega)
  · exact row (show 0x80 ≤ _ by omega) (show _ ≤ 0xBF by omega)
  · exact row (show 0x80 ≤ _ by omega) (show _ ≤ 0x8F by omega)
  · omega

/-- **An encoded character** is the head of what it begins. -/
theorem head_encodeChar (c : Char) (rest : Bytes) :
    ∃ b bs, String.utf8EncodeChar c ++ rest = b :: bs ∧ head b bs = .char c rest := by
  have hc : Char.ofNat c.val.toNat = c := Char.ofNat_toNat c
  have hvalid : c.val.toNat < 0xd800 ∨ 0xdfff < c.val.toNat ∧ c.val.toNat < 0x110000 := c.valid
  unfold String.utf8EncodeChar
  dsimp only
  split_ifs with h1 h2 h3
  · exact ⟨_, _, rfl, by rw [← hc]; simpa using head_one h1 rest⟩
  · exact ⟨_, _, rfl, by rw [← hc]; simpa using head_two (not_le.1 h1) h2 rest⟩
  · exact ⟨_, _, rfl, by rw [← hc]; simpa using head_three (not_le.1 h2) h3 (by omega) rest⟩
  · exact ⟨_, _, rfl, by rw [← hc]; simpa using head_four (not_le.1 h3) (by omega) rest⟩

/-! ## Decoding -/

theorem decodeFrom_encodeChars (cs : List Char) (index : Nat) :
    decodeFrom index (encodeChars cs) = .ok cs := by
  induction cs generalizing index with
  | nil =>
    show decodeFrom index [] = .ok []
    rw [decodeFrom]
  | cons c cs ih =>
    obtain ⟨b, bs, hb, hh⟩ := head_encodeChar c (encodeChars cs)
    have he : encodeChars (c :: cs) = b :: bs := hb
    rw [he, decodeFrom]
    split
    · rename_i hh'
      rw [hh] at hh'
      cases hh'
      rw [ih]
    · simp_all
    · simp_all

/-- **Decoding gives back** what was encoded. -/
theorem decode_encode (s : String) : decode (encode s) = .ok s := by
  rw [decode, decodeChars, encode, decodeFrom_encodeChars]
  exact congrArg Except.ok String.ofList_toList

end Refetch.Text.Utf8

namespace Refetch.Text.Hex

theorem value?_digit {n : Nat} (h : n < 16) : value? (digit n) = some n := by
  interval_cases n <;> rfl

/-- The digits of bytes are read as these bytes. -/
theorem decodeChars_encodeChars (bs : Bytes) : decodeChars (encodeChars bs) = some bs := by
  induction bs with
  | nil => rfl
  | cons b bs ih =>
    have hb : b.toNat < 256 := b.toNat_lt
    have he : encodeChars (b :: bs) =
        digit (b.toNat / 16) :: digit (b.toNat % 16) :: encodeChars bs := rfl
    rw [he, decodeChars, value?_digit (by omega), value?_digit (by omega), ih]
    show some (UInt8.ofNat (b.toNat / 16 * 16 + b.toNat % 16) :: bs) = _
    rw [Nat.div_add_mod', UInt8.ofNat_toNat]

theorem isBlank_of_mem_encodeChars {bs : Bytes} {c : Char} (h : c ∈ encodeChars bs) :
    isBlank c = false := by
  have hd {n : Nat} (hn : n < 16) : isBlank (digit n) = false := by
    interval_cases n <;> rfl
  obtain ⟨b, -, hb⟩ := List.mem_flatMap.1 h
  have hl : b.toNat < 256 := b.toNat_lt
  rcases List.mem_pair.1 hb with rfl | rfl
  · exact hd (by omega)
  · exact hd (by omega)

end Refetch.Text.Hex
