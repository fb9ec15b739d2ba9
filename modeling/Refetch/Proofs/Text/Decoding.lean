import Refetch.Proofs.Text.RoundTrip
/-!
# Bytes that decode

1. A character at the head of some bytes is written with the bytes that it was read from
   (`encodeChar_of_head`), since the rows of the table keep to its shortest form.
2. So bytes decode exactly if they are those of a text (`decodeChars_eq_ok_iff`), and lossy decoding
   loses nothing of exactly these bytes (`encode_decodeLossy_iff`).
-/

namespace Refetch.Text.Utf8

variable {lead b lower upper : UInt8} {bs rest : Bytes} {c : Char} {cs : List Char}

/-! ## Heads -/

theorem encodeChar_ofNat {n : Nat} (h : n.isValidChar) : String.utf8EncodeChar (Char.ofNat n) =
    if n ≤ 0x7f then [UInt8.ofNat n]
    else if n ≤ 0x7ff then [UInt8.ofNat (n / 64 % 32 + 0xc0), UInt8.ofNat (n % 64 + 0x80)]
    else if n ≤ 0xffff then
      [UInt8.ofNat (n / 4096 % 16 + 0xe0), UInt8.ofNat (n / 64 % 64 + 0x80),
        UInt8.ofNat (n % 64 + 0x80)]
    else
      [UInt8.ofNat (n / 262144 % 8 + 0xf0), UInt8.ofNat (n / 4096 % 64 + 0x80),
        UInt8.ofNat (n / 64 % 64 + 0x80), UInt8.ofNat (n % 64 + 0x80)] := by
  have hn : (Char.ofNat n).val.toNat = n := by
    rw [Char.ofNat, dif_pos h]
    rfl
  unfold String.utf8EncodeChar
  rw [hn]

theorem isTail_iff : isTail b = true ↔ 0x80 ≤ b.toNat ∧ b.toNat ≤ 0xBF := by
  simp [isTail, UInt8.le_iff_toNat_le]

/-- A byte is known by its number. -/
theorem ofNat_eq {n : Nat} (h : n = b.toNat) : UInt8.ofNat n = b := by
  rw [h, UInt8.ofNat_toNat]

theorem encodeChar_of_headTwo (hl : 0xC2 ≤ lead.toNat) (hu : lead.toNat ≤ 0xDF)
    (h : headTwo lead bs = .char c rest) : String.utf8EncodeChar c ++ rest = lead :: bs := by
  unfold headTwo at h
  split at h
  · cases h
  · rename_i b bs
    split at h
    · rename_i hb
      cases h
      rw [isTail_iff] at hb
      rw [encodeChar_ofNat (.inl (by unfold low6; omega)), if_neg (by unfold low6; omega),
        if_pos (by unfold low6; omega), ofNat_eq (b := lead) (by unfold low6; omega),
        ofNat_eq (b := b) (by unfold low6; omega)]
      rfl
    · cases h

/-- The bounds keep out what has a shorter form, and the surrogates. -/
theorem encodeChar_of_headThree (hl : 0xE0 ≤ lead.toNat) (hu : lead.toNat ≤ 0xEF)
    (hlower : 0x80 ≤ lower.toNat) (hupper : upper.toNat ≤ 0xBF)
    (hshort : lead.toNat = 0xE0 → 0xA0 ≤ lower.toNat)
    (hsurrogate : lead.toNat = 0xED → upper.toNat ≤ 0x9F)
    (h : headThree lead lower upper bs = .char c rest) :
    String.utf8EncodeChar c ++ rest = lead :: bs := by
  unfold headThree at h
  split at h
  · cases h
  · split at h <;> cases h
  · rename_i b d bs
    split at h
    · cases h
    · rename_i hb
      split at h
      · cases h
      · rename_i hd
        cases h
        simp only [Bool.not_eq_true', Bool.not_eq_false, Bool.and_eq_true, decide_eq_true_eq,
          UInt8.le_iff_toNat_le] at hb
        rw [Bool.not_eq_true', Bool.not_eq_false, isTail_iff] at hd
        have hv : (lead.toNat % 16 * 4096 + low6 b * 64 + low6 d).isValidChar := by
          unfold Nat.isValidChar low6
          omega
        rw [encodeChar_ofNat hv, if_neg (by unfold low6; omega), if_neg (by unfold low6; omega),
          if_pos (by unfold low6; omega), ofNat_eq (b := lead) (by unfold low6; omega),
          ofNat_eq (b := b) (by unfold low6; omega), ofNat_eq (b := d) (by unfold low6; omega)]
        rfl

theorem encodeChar_of_headFour (hl : 0xF0 ≤ lead.toNat) (hu : lead.toNat ≤ 0xF4)
    (hlower : 0x80 ≤ lower.toNat) (hupper : upper.toNat ≤ 0xBF)
    (hshort : lead.toNat = 0xF0 → 0x90 ≤ lower.toNat)
    (hlast : lead.toNat = 0xF4 → upper.toNat ≤ 0x8F)
    (h : headFour lead lower upper bs = .char c rest) :
    String.utf8EncodeChar c ++ rest = lead :: bs := by
  unfold headFour at h
  split at h
  · cases h
  · split at h <;> cases h
  · split at h
    · cases h
    · split at h <;> cases h
  · rename_i b d e bs
    split at h
    · cases h
    · rename_i hb
      split at h
      · cases h
      · rename_i hd
        split at h
        · cases h
        · rename_i he
          cases h
          simp only [Bool.not_eq_true', Bool.not_eq_false, Bool.and_eq_true, decide_eq_true_eq,
            UInt8.le_iff_toNat_le] at hb
          rw [Bool.not_eq_true', Bool.not_eq_false, isTail_iff] at hd he
          have hv : (lead.toNat % 8 * 262144 + low6 b * 4096 + low6 d * 64 + low6 e).isValidChar := by
            unfold Nat.isValidChar low6
            omega
          rw [encodeChar_ofNat hv, if_neg (by unfold low6; omega), if_neg (by unfold low6; omega),
            if_neg (by unfold low6; omega), ofNat_eq (b := lead) (by unfold low6; omega),
            ofNat_eq (b := b) (by unfold low6; omega), ofNat_eq (b := d) (by unfold low6; omega),
            ofNat_eq (b := e) (by unfold low6; omega)]
          rfl

/-- **A character that was read** is written with the bytes that it was read from. -/
theorem encodeChar_of_head (h : head lead bs = .char c rest) :
    String.utf8EncodeChar c ++ rest = lead :: bs := by
  unfold head at h
  simp only [UInt8.lt_iff_toNat_lt, UInt8.le_iff_toNat_le, UInt8.reduceToNat, beq_iff_eq,
    ← UInt8.toNat_inj] at h
  split_ifs at h with h1 h2 h3 h4 h5 h6 h7 h8 h9
  · cases h
    rw [encodeChar_ofNat (.inl (by omega)), if_pos (by omega), ofNat_eq rfl]
    rfl
  · exact encodeChar_of_headTwo (by omega) (by omega) h
  · exact encodeChar_of_headThree (by omega) (by omega) (by decide) (by decide) (fun _ => by decide)
      (fun _ => by omega) h
  · exact encodeChar_of_headThree (by omega) (by omega) (by decide) (by decide) (fun _ => by omega)
      (fun _ => by decide) h
  · exact encodeChar_of_headThree (by omega) (by omega) (by decide) (by decide) (fun _ => by omega)
      (fun _ => by omega) h
  · exact encodeChar_of_headFour (by omega) (by omega) (by decide) (by decide) (fun _ => by decide)
      (fun _ => by omega) h
  · exact encodeChar_of_headFour (by omega) (by omega) (by decide) (by decide) (fun _ => by omega)
      (fun _ => by omega) h
  · exact encodeChar_of_headFour (by omega) (by omega) (by decide) (by decide) (fun _ => by omega)
      (fun _ => by decide) h

/-! ## Texts -/

theorem encodeChars_of_decodeFrom {index : Nat} (h : decodeFrom index bs = .ok cs) :
    encodeChars cs = bs := by
  induction hn : bs.length using Nat.strong_induction_on generalizing bs index cs with
  | _ n ih =>
    cases bs with
    | nil =>
      rw [decodeFrom] at h
      cases h
      rfl
    | cons b bs =>
      rw [decodeFrom] at h
      split at h
      · rename_i c rest hc
        have hl := length_of_head hc
        dsimp only at h
        split at h <;> cases h
        rw [← encodeChar_of_head hc]
        exact congrArg _ (ih rest.length (by rw [← hn]; simp; omega) ‹_› rfl)
      · cases h
      · cases h

/-- **Bytes decode** exactly if they are those of a text. -/
theorem decodeChars_eq_ok_iff : decodeChars bs = .ok cs ↔ bs = encodeChars cs :=
  ⟨fun h => (encodeChars_of_decodeFrom h).symm, fun h => h ▸ decodeFrom_encodeChars cs 0⟩

theorem decode_eq_ok_iff {s : String} : decode bs = .ok s ↔ bs = encode s := by
  constructor
  · intro h
    cases hd : decodeChars bs with
    | error f => simp [decode, hd, Except.map] at h
    | ok cs =>
      obtain rfl : String.ofList cs = s := by simpa [decode, hd, Except.map] using h
      rw [encode, String.toList_ofList]
      exact decodeChars_eq_ok_iff.1 hd
  · rintro rfl
    exact decode_encode s

theorem encode_injective {s t : String} (h : encode s = encode t) : s = t := by
  have hd := decode_encode s
  rw [h, decode_encode] at hd
  exact (Except.ok.inj hd).symm

theorem decodeLossyChars_encodeChars (cs : List Char) : decodeLossyChars (encodeChars cs) = cs := by
  induction cs with
  | nil =>
    show decodeLossyChars [] = []
    rw [decodeLossyChars]
  | cons c cs ih =>
    obtain ⟨b, bs, hb, hh⟩ := head_encodeChar c (encodeChars cs)
    have he : encodeChars (c :: cs) = b :: bs := hb
    rw [he, decodeLossyChars]
    split
    · rename_i hh'
      rw [hh] at hh'
      cases hh'
      rw [ih]
    · simp_all
    · simp_all

theorem decodeLossy_encode (s : String) : decodeLossy (encode s) = s := by
  rw [decodeLossy, encode, decodeLossyChars_encodeChars, String.ofList_toList]

/-- **Lossy decoding** loses nothing of the bytes of a text, and something of all others. -/
theorem encode_decodeLossy_iff : encode (decodeLossy bs) = bs ↔ ∃ s, bs = encode s := by
  constructor
  · exact fun h => ⟨_, h.symm⟩
  · rintro ⟨s, rfl⟩
    rw [decodeLossy_encode]

/-- What lossy decoding puts in is the replacement character. -/
theorem mem_encodeChars_decodeLossyChars {x : UInt8}
    (h : x ∈ encodeChars (decodeLossyChars bs)) :
    x ∈ bs ∨ x ∈ String.utf8EncodeChar replacement := by
  have hcons (c : Char) (cs : List Char) :
      encodeChars (c :: cs) = String.utf8EncodeChar c ++ encodeChars cs := rfl
  induction hn : bs.length using Nat.strong_induction_on generalizing bs with
  | _ n ih =>
    cases bs with
    | nil =>
      rw [decodeLossyChars] at h
      cases h
    | cons b bs =>
      rw [decodeLossyChars] at h
      split at h
      · rename_i c rest hc
        have hl := length_of_head hc
        rw [← encodeChar_of_head hc]
        rw [hcons, List.mem_append] at h
        rcases h with h | h
        · exact .inl (List.mem_append_left _ h)
        · exact (ih rest.length (by rw [← hn]; simp; omega) h rfl).imp_left
            (List.mem_append_right _)
      · rw [hcons, List.mem_append] at h
        rcases h with h | h
        · exact .inr h
        · exact (ih _ (by rw [← hn]; simp) h rfl).imp_left fun h =>
            List.mem_cons_of_mem _ (List.mem_of_mem_drop h)
      · exact .inr (by simpa [encodeChars] using h)

end Refetch.Text.Utf8
