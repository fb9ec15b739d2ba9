import Refetch.Header.ContentLength
import Refetch.Proofs.Header.MultiMap
import Refetch.Proofs.Text.Letters
/-!
# Declared lengths

The declared length of a body is read exactly: every number of 64 bits in any of its spellings, and
nothing else.

1. The digits are read one by one, and the number may grow beyond 64 bits with any of them. It never
   gets smaller again, so reading succeeds exactly if the number of all digits fits
   (`readDigits_eq_some_iff`).
2. With a plus sign or without one, and with blanks around, these are all spellings of a number
   (`declares_iff`).
3. So a list declares the number that the first of its values spells (`readsLength`).
-/

namespace Refetch

open Text (isBlank trimChars)

/-! ## Digits -/

theorem le_ofDigitChars (cs : List Char) (acc : Nat) : acc ≤ Nat.ofDigitChars 10 cs acc := by
  rw [Nat.ofDigitChars_eq_ofDigitChars_zero]
  exact (Nat.le_mul_of_pos_left acc (Nat.pow_pos (by decide))).trans (Nat.le_add_right _ _)

/-- **Digits are read** exactly if there are no other characters and their number fits. -/
theorem readDigits_eq_some_iff {acc n : Nat} {cs : List Char} (hacc : acc < lengthLimit) :
    readDigits acc cs = some n ↔
      (∀ c ∈ cs, c.isDigit = true) ∧ Nat.ofDigitChars 10 cs acc = n ∧ n < lengthLimit := by
  induction cs generalizing acc with
  | nil =>
    rw [readDigits, Nat.ofDigitChars_nil, Option.some_inj]
    constructor
    · rintro rfl
      exact ⟨List.forall_mem_nil _, rfl, hacc⟩
    · exact fun h => h.2.1
  | cons c cs ih =>
    rw [readDigits, Nat.ofDigitChars_cons, List.forall_mem_cons, Nat.mul_comm 10 acc]
    by_cases hc : c.isDigit = true
    · rw [if_pos hc]
      dsimp only
      by_cases hn : acc * 10 + (c.toNat - '0'.toNat) < lengthLimit
      · rw [if_pos hn, ih hn]
        exact ⟨fun ⟨hd, hv⟩ => ⟨⟨hc, hd⟩, hv⟩, fun ⟨⟨_, hd⟩, hv⟩ => ⟨hd, hv⟩⟩
      · -- the number is already too great, and does not become smaller
        have hle := le_ofDigitChars cs (acc * 10 + (c.toNat - '0'.toNat))
        rw [if_neg hn]
        refine ⟨nofun, ?_⟩
        rintro ⟨-, rfl, hlt⟩
        exact absurd (hle.trans_lt hlt) hn
    · rw [if_neg hc]
      exact ⟨nofun, fun h => absurd h.1.1 hc⟩

/-! ## Spellings -/

/-- Digits of the number, after a plus sign or without one. -/
def Spells (cs : List Char) (n : Nat) : Prop :=
  ∃ digits, (cs = digits ∨ cs = '+' :: digits) ∧ digits ≠ [] ∧
    (∀ c ∈ digits, c.isDigit = true) ∧ Nat.ofDigitChars 10 digits 0 = n

/-- A spelling of the number, which has 64 bits, with blanks around it. -/
def Declares (value : String) (n : Nat) : Prop :=
  ∃ before cs after, value.toList = before ++ cs ++ after ∧ (∀ c ∈ before, isBlank c = true) ∧
    (∀ c ∈ after, isBlank c = true) ∧ Spells cs n ∧ n < UInt64.size

theorem readLength_eq_some_iff {cs : List Char} {n : Nat} :
    readLength cs = some n ↔ Spells cs n ∧ n < lengthLimit := by
  have hz : 0 < lengthLimit := by decide
  have hplus : '+'.isDigit = false := rfl
  constructor
  · intro h
    unfold readLength at h
    split at h
    · cases h
    · cases h
    · rename_i rest hrest
      obtain ⟨hd, hv, hn⟩ := (readDigits_eq_some_iff hz).1 h
      exact ⟨⟨rest, .inr rfl, fun he => hrest (by rw [he]), hd, hv⟩, hn⟩
    · rename_i hnil _ _
      obtain ⟨hd, hv, hn⟩ := (readDigits_eq_some_iff hz).1 h
      exact ⟨⟨cs, .inl rfl, hnil, hd, hv⟩, hn⟩
  · rintro ⟨⟨digits, hcs, hne, hd, hv⟩, hn⟩
    have hr := (readDigits_eq_some_iff hz).2 ⟨hd, hv, hn⟩
    obtain ⟨c, digits, rfl⟩ := List.exists_cons_of_ne_nil hne
    rcases hcs with rfl | rfl
    · -- the first digit is no plus sign
      have hc : c ≠ '+' := fun he => by simp [he, hplus] at hd
      have hread : readLength (c :: digits) = readDigits 0 (c :: digits) := by
        unfold readLength
        split <;> simp_all
      rw [hread, hr]
    · exact hr

/-- There are no blanks in a spelling. -/
theorem Spells.isBlank_eq_false {cs : List Char} {n : Nat} (h : Spells cs n) :
    ∀ c ∈ cs, isBlank c = false := by
  have hdigit {c : Char} (hc : c.isDigit = true) : isBlank c = false := by
    rw [Char.isDigit, Bool.and_eq_true, decide_eq_true_eq, decide_eq_true_eq] at hc
    have hl : 48 ≤ c.toNat := hc.1
    have hu : c.toNat ≤ 57 := hc.2
    simp only [isBlank, Bool.or_eq_false_iff, Bool.and_eq_false_iff, decide_eq_false_iff_not,
      beq_eq_false_iff_ne]
    omega
  obtain ⟨digits, hcs, -, hd, -⟩ := h
  rcases hcs with rfl | rfl
  · exact fun c hc => hdigit (hd c hc)
  · exact List.forall_mem_cons.2 ⟨rfl, fun c hc => hdigit (hd c hc)⟩

/-- **A value declares a number** exactly if it is one of its spellings when it is trimmed. -/
theorem declares_iff {value : String} {n : Nat} :
    Declares value n ↔ readLength (trimChars value.toList) = some n := by
  rw [readLength_eq_some_iff]
  constructor
  · rintro ⟨before, cs, after, hv, hb, ha, hs, hn⟩
    rw [hv, Text.trimChars_append hb ha, Text.trimChars_of_no_blank hs.isBlank_eq_false]
    exact ⟨hs, hn⟩
  · rintro ⟨hs, hn⟩
    obtain ⟨before, after, hv, hb, ha⟩ := Text.exists_append_trimChars value.toList
    exact ⟨before, _, after, hv, hb, ha, hs, hn⟩

/-- The decimal digits of a number of 64 bits declare it. -/
theorem declares_toString (n : UInt64) : Declares (toString n.toNat) n.toNat := by
  rw [Nat.toString_eq_ofList_toDigits]
  refine ⟨[], Nat.toDigits 10 n.toNat, [], by simp, List.forall_mem_nil _, List.forall_mem_nil _,
    ⟨_, .inl rfl, Nat.toDigits_ne_nil, fun c hc => ?_, Nat.ofDigitChars_ten_toDigits⟩, n.toNat_lt⟩
  exact Nat.isDigit_of_mem_toDigits (by decide) (by decide) hc

/-! ## Lists -/

namespace HeaderList

variable {h : HeaderList}

theorem contains_iff_first {name : String} :
    h.contains name = true ↔ ∃ value, h.First name value := by
  simp only [← get?_eq_some_iff, ← Option.isSome_iff_exists]
  rw [contains, position?, List.findIdx?_isSome, get?, Option.isSome_map, List.isSome_find?]

/-- What is first stays first when entries come after it. -/
theorem First.extend {name value : String} (hf : h.First name value)
    (pairs : List (String × String)) : (h.extend pairs).First name value := by
  obtain ⟨before, written, after, he, hn, hb⟩ := hf
  exact ⟨before, written, after ++ pairs, by simp [HeaderList.extend, he], hn, hb⟩

/-- The name may be asked for in any letter case. -/
theorem contentLength?_eq (h : HeaderList) : h.contentLength? =
    (h.get? "Content-Length").bind fun v => readLength (trimChars v.toList) := by
  have hn : sameName "content-length" "Content-Length" = true := by decide
  rw [contentLength?, get?_eq_head?, get?_eq_head?, getAll_congr hn]

theorem First.contentLength?_eq {value : String} (hf : h.First "Content-Length" value) :
    h.contentLength? = readLength (trimChars value.toList) := by
  rw [HeaderList.contentLength?_eq, get?_eq_some_iff.2 hf]
  rfl

/-- How a list declares a length. -/
structure ReadsLength (h : HeaderList) : Prop where
  some_iff : ∀ n, h.contentLength? = some n ↔
    ∃ value, h.First "Content-Length" value ∧ Declares value n
  none_iff : h.contentLength? = none ↔ h.contains "Content-Length" = false ∨
    ∃ value, h.First "Content-Length" value ∧ ∀ n, ¬ Declares value n
  /-- Values that come later change nothing. -/
  later : h.contains "Content-Length" = true → ∀ pairs,
    (h.extend pairs).contentLength? = h.contentLength?
  /-- A number of 64 bits is read from its decimal digits. -/
  written : ∀ n : UInt64, h.First "Content-Length" (toString n.toNat) →
    h.contentLength? = some n.toNat

/-- **A declared length is read exactly.** -/
theorem readsLength (h : HeaderList) : h.ReadsLength := by
  have hsome (n : Nat) : h.contentLength? = some n ↔
      ∃ value, h.First "Content-Length" value ∧ Declares value n := by
    rw [contentLength?_eq, Option.bind_eq_some_iff]
    simp only [get?_eq_some_iff, declares_iff]
  refine ⟨hsome, ⟨fun hnone => ?absent, ?unread⟩, fun hc pairs => ?later,
    fun n hf => (hsome _).2 ⟨_, hf, declares_toString n⟩⟩
  case absent =>
    cases hc : h.contains "Content-Length" with
    | false => exact .inl rfl
    | true =>
      obtain ⟨value, hf⟩ := contains_iff_first.1 hc
      refine .inr ⟨value, hf, fun n hd => ?_⟩
      rw [(hsome n).2 ⟨value, hf, hd⟩] at hnone
      cases hnone
  case unread =>
    rintro (hc | ⟨value, hf, hd⟩) <;> refine Option.eq_none_iff_forall_ne_some.2 fun n hn => ?_
    · obtain ⟨value, hf, -⟩ := (hsome n).1 hn
      rw [contains_iff_first.2 ⟨value, hf⟩] at hc
      cases hc
    · exact hd n (declares_iff.2 (hf.contentLength?_eq.symm.trans hn))
  case later =>
    obtain ⟨value, hf⟩ := contains_iff_first.1 hc
    rw [hf.contentLength?_eq, (hf.extend pairs).contentLength?_eq]

example : (HeaderList.ofList [("CONTENT-length", " +0018446744073709551615\t"),
    ("Content-Length", "7")]).contentLength? = some 18446744073709551615 := by decide +kernel

end HeaderList

end Refetch
