import Mathlib.Data.List.TakeWhile
import Mathlib.Tactic
import Refetch.Text.Blank
import Refetch.Text.Utf8
/-!
# Letters and their bytes

Lower case changes the letters of ASCII alone. They are bytes of their own and no blanks, so neither
trimming nor the number of bytes is concerned.
-/

namespace Refetch.Text

/-- A visible character of ASCII or a space. -/
def IsPlain (c : Char) : Prop := 0x20 ≤ c.toNat ∧ c.toNat < 0x7F

instance (c : Char) : Decidable (IsPlain c) := by unfold IsPlain; infer_instance

/-! ## Letter case -/

theorem toNat_toLower (c : Char) :
    c.toLower.toNat = if 65 ≤ c.toNat ∧ c.toNat ≤ 90 then c.toNat + 32 else c.toNat := by
  have hu : (c.val ≥ 'A'.val ∧ c.val ≤ 'Z'.val) ↔ 65 ≤ c.toNat ∧ c.toNat ≤ 90 := Iff.rfl
  unfold Char.toLower
  by_cases h : 65 ≤ c.toNat ∧ c.toNat ≤ 90
  · have hl := h.2
    rw [dif_pos (hu.2 h), if_pos h]
    show (c.val + 32).toNat = c.val.toNat + 32
    simp only [Char.toNat] at hl
    rw [UInt32.toNat_add, show (32 : UInt32).toNat = 32 from rfl]
    omega
  · rw [dif_neg (mt hu.1 h), if_neg h]

/-- Letters are no blanks. -/
theorem isBlank_toLower (c : Char) : isBlank c.toLower = isBlank c := by
  rw [Bool.eq_iff_iff]
  simp only [isBlank, toNat_toLower, Bool.or_eq_true, Bool.and_eq_true, decide_eq_true_eq,
    beq_iff_eq]
  split <;> omega

/-! ## Trimming -/

theorem trimChars_map_toLower (cs : List Char) :
    trimChars (cs.map Char.toLower) = (trimChars cs).map Char.toLower := by
  have hf : isBlank ∘ Char.toLower = isBlank := funext isBlank_toLower
  have hd (cs : List Char) :
      (cs.map Char.toLower).dropWhile isBlank = (cs.dropWhile isBlank).map Char.toLower := by
    rw [List.dropWhile_map, hf]
  rw [trimChars, hd, ← List.map_reverse, hd, ← List.map_reverse, trimChars]

theorem mem_of_mem_trimChars {c : Char} {cs : List Char} (h : c ∈ trimChars cs) : c ∈ cs := by
  unfold trimChars at h
  have h := (List.dropWhile_sublist _).subset (List.mem_reverse.1 h)
  exact (List.dropWhile_sublist _).subset (List.mem_reverse.1 h)

/-- No blank is left at either end. -/
theorem isBlank_of_trimChars {c : Char} {cs : List Char}
    (h : c ∈ (trimChars cs).head? ∨ c ∈ (trimChars cs).getLast?) : isBlank c = false := by
  have hstart {ds : List Char} (h : c ∈ (ds.dropWhile isBlank).head?) : isBlank c = false := by
    have hd := List.head?_dropWhile_not isBlank ds
    rwa [show (ds.dropWhile isBlank).head? = some c from h] at hd
  unfold trimChars at h
  rcases h with h | h
  · rw [List.head?_reverse] at h
    -- what is dropped at the end leaves the first character alone, unless it drops all
    obtain ⟨pre, hpre⟩ := List.dropWhile_suffix isBlank (l := (cs.dropWhile isBlank).reverse)
    refine @hstart cs ?_
    rw [← List.getLast?_reverse, ← hpre, List.getLast?_append, h]
    rfl
  · rw [List.getLast?_reverse] at h
    exact hstart h

/-- What trimming drops are blanks, before and after what is left. -/
theorem exists_append_trimChars (cs : List Char) : ∃ before after,
    cs = before ++ trimChars cs ++ after ∧ (∀ c ∈ before, isBlank c = true) ∧
      ∀ c ∈ after, isBlank c = true := by
  refine ⟨cs.takeWhile isBlank, ((cs.dropWhile isBlank).reverse.takeWhile isBlank).reverse, ?_,
    fun c hc => List.mem_takeWhile_imp hc,
    fun c hc => List.mem_takeWhile_imp (List.mem_reverse.1 hc)⟩
  rw [trimChars, List.append_assoc, ← List.reverse_append, List.takeWhile_append_dropWhile,
    List.reverse_reverse, List.takeWhile_append_dropWhile]

theorem trimChars_of_ends {cs : List Char} (hs : ∀ c ∈ cs.head?, isBlank c = false)
    (he : ∀ c ∈ cs.getLast?, isBlank c = false) : trimChars cs = cs := by
  have hd {cs : List Char} (h : ∀ c ∈ cs.head?, isBlank c = false) : cs.dropWhile isBlank = cs := by
    cases cs with
    | nil => rfl
    | cons c cs =>
      have hc : isBlank c = false := h c rfl
      rw [List.dropWhile_cons_of_neg (by simp [hc])]
  rw [trimChars, hd hs, hd (by rwa [List.head?_reverse]), List.reverse_reverse]

theorem trimChars_of_no_blank {cs : List Char} (h : ∀ c ∈ cs, isBlank c = false) :
    trimChars cs = cs :=
  trimChars_of_ends (fun c hc => h c (List.mem_of_mem_head? hc))
    fun c hc => h c (List.mem_of_mem_getLast? hc)

/-- Blanks around a text are dropped, whatever the text. -/
theorem trimChars_append {before after : List Char} (hb : ∀ c ∈ before, isBlank c = true)
    (ha : ∀ c ∈ after, isBlank c = true) (cs : List Char) :
    trimChars (before ++ cs ++ after) = trimChars cs := by
  have hnil : after.dropWhile isBlank = [] := List.dropWhile_eq_nil_iff.2 ha
  have hend (ds : List Char) :
      ((ds ++ after).reverse.dropWhile isBlank) = ds.reverse.dropWhile isBlank := by
    rw [List.reverse_append, List.dropWhile_append_of_pos (by simpa using ha)]
  rw [List.append_assoc, trimChars, List.dropWhile_append_of_pos hb, List.dropWhile_append]
  split
  · rename_i h
    rw [trimChars, hnil, List.isEmpty_iff.1 h]
  · rw [hend, trimChars]

/-! ## Bytes -/

namespace Utf8

theorem encodeChar_of_ascii {c : Char} (h : c.toNat < 0x80) :
    String.utf8EncodeChar c = [UInt8.ofNat c.toNat] := by
  have h : c.val.toNat ≤ 127 := Nat.lt_succ_iff.1 h
  exact if_pos h

/-- Other characters have no byte of ASCII. -/
theorem le_of_mem_encodeChar {c : Char} (h : 0x80 ≤ c.toNat) {b : UInt8}
    (hb : b ∈ String.utf8EncodeChar c) : 0x80 ≤ b.toNat := by
  have h : ¬ c.val.toNat ≤ 127 := Nat.not_le.2 h
  unfold String.utf8EncodeChar at hb
  dsimp only at hb
  rw [if_neg h] at hb
  split_ifs at hb
  all_goals
    simp only [List.mem_cons, List.not_mem_nil, or_false] at hb
    rcases hb with rfl | rfl | rfl | rfl <;> rw [UInt8.toNat_ofNat'] <;> omega

theorem length_encodeChars_of_ascii {cs : List Char} (h : ∀ c ∈ cs, c.toNat < 0x80) :
    (encodeChars cs).length = cs.length := by
  induction cs with
  | nil => rfl
  | cons c cs ih =>
    obtain ⟨hc, hcs⟩ := List.forall_mem_cons.1 h
    have hcons : encodeChars (c :: cs) = String.utf8EncodeChar c ++ encodeChars cs :=
      List.flatMap_cons
    rw [hcons, List.length_append, encodeChar_of_ascii hc, ih hcs, List.length_singleton,
      List.length_cons, Nat.add_comm]

/-- Lower case is seen in the bytes of the letters of ASCII alone. -/
theorem encodeChar_toLower (c : Char) :
    String.utf8EncodeChar c.toLower = String.utf8EncodeChar c ∨
      ∃ n, 65 ≤ n ∧ n ≤ 90 ∧ String.utf8EncodeChar c = [UInt8.ofNat n] ∧
        String.utf8EncodeChar c.toLower = [UInt8.ofNat (n + 32)] := by
  have hl := toNat_toLower c
  by_cases h : 65 ≤ c.toNat ∧ c.toNat ≤ 90
  · rw [if_pos h] at hl
    refine .inr ⟨c.toNat, h.1, h.2, encodeChar_of_ascii (by omega), ?_⟩
    rw [encodeChar_of_ascii (by omega), hl]
  · rw [if_neg h] at hl
    rw [Char.toNat_inj.1 hl]
    exact .inl rfl

/-- Bytes that a test does not tell from their letters in lower case. -/
theorem encodeChars_map_toLower {p : UInt8 → Bool}
    (hp : ∀ n, 65 ≤ n → n ≤ 90 → p (UInt8.ofNat (n + 32)) = p (UInt8.ofNat n)) (cs : List Char) :
    (encodeChars (cs.map Char.toLower)).length = (encodeChars cs).length ∧
      (encodeChars (cs.map Char.toLower)).all p = (encodeChars cs).all p := by
  induction cs with
  | nil => exact ⟨rfl, rfl⟩
  | cons c cs ih =>
    have hc (c : Char) (cs : List Char) :
        encodeChars (c :: cs) = String.utf8EncodeChar c ++ encodeChars cs := List.flatMap_cons
    rw [List.map_cons, hc, hc, List.length_append, List.length_append, List.all_append,
      List.all_append, ih.1, ih.2]
    rcases encodeChar_toLower c with h | ⟨n, hl, hu, h, h'⟩
    · rw [h]
      exact ⟨rfl, rfl⟩
    · rw [h, h']
      simp only [List.length_singleton, List.all_cons, hp n hl hu, and_self]

end Utf8

end Refetch.Text
