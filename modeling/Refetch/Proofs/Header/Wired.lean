import Refetch.Header.Wire
import Refetch.Proofs.Header.Lookup
import Refetch.Proofs.Text.Letters
/-!
# What has a place on the wire

A list becomes a wire table if every entry has a place on the wire and the table does not overflow on
the way, which a list of few entries never makes it do. Names keep their places in any letter case,
and values theirs when they are trimmed.
-/

namespace Refetch

open Text (IsPlain trim)

/-! ## Values -/

variable {value : String}

theorem isHeaderValue_encode_iff : isHeaderValue (Text.Utf8.encode value) = true ↔
    ∀ c ∈ value.toList, isHeaderValue (String.utf8EncodeChar c) = true := by
  rw [isHeaderValue, Text.Utf8.encode, Text.Utf8.encodeChars, List.all_flatMap, List.all_eq_true]
  rfl

theorem isHeaderValue_trim (h : isHeaderValue (Text.Utf8.encode value) = true) :
    isHeaderValue (Text.Utf8.encode (trim value)) = true := by
  rw [isHeaderValue_encode_iff] at h ⊢
  rw [trim, String.toList_ofList]
  exact fun c hc => h c (Text.mem_of_mem_trimChars hc)

theorem isHeaderValue_of_plain (h : ∀ c ∈ value.toList, IsPlain c) :
    isHeaderValue (Text.Utf8.encode value) = true := by
  refine isHeaderValue_encode_iff.2 fun c hc => ?_
  have hb : ∀ n < 0x7F, 0x20 ≤ n → isHeaderValue [UInt8.ofNat n] = true := by decide
  obtain ⟨hl, hu⟩ := h c hc
  rw [Text.Utf8.encodeChar_of_ascii (by omega)]
  exact hb c.toNat hu hl

/-! ## Names -/

theorem isHeaderName_foldName (name : String) :
    isHeaderName (foldName name) = isHeaderName name := by
  have hp : ∀ n, 65 ≤ n → n ≤ 90 →
      isTokenByte (UInt8.ofNat (n + 32)) = isTokenByte (UInt8.ofNat n) := by
    intro n hl hu
    interval_cases n <;> rfl
  obtain ⟨hlen, hall⟩ := Text.Utf8.encodeChars_map_toLower hp name.toList
  have hempty := congrArg (fun n => decide (n = 0)) hlen
  simp only [← List.isEmpty_iff_length_eq_zero, Bool.decide_eq_true] at hempty
  rw [isHeaderName, isHeaderName, isToken, isToken, foldName, Text.Utf8.encode, Text.Utf8.encode,
    String.toList_ofList, hempty, hlen, hall]

theorem isHeaderName_of_sameName {a b : String} (h : sameName a b = true)
    (hb : isHeaderName b = true) : isHeaderName a = true := by
  rw [← isHeaderName_foldName, eq_of_beq h, isHeaderName_foldName, hb]

/-! ## Slots -/

namespace Slots

variable {t t' : Slots} {name : String} {names : List String}

/-- So many names never crowd a table out. -/
def ample : Nat := 6554

theorem used_prepare? (h : t.prepare? = some t') : t'.used = t.used := by
  unfold prepare? at h
  split at h
  · cases h
    rfl
  · split at h
    · split at h <;> cases h
      rfl
    · cases h
      rfl

theorem used_put_le (t : Slots) (name : String) : (t.put name).used ≤ t.used + 1 := by
  unfold put
  dsimp only
  split
  · exact Nat.le_succ _
  · exact Nat.le_refl _
  · exact Nat.le_refl _

theorem used_add?_le (h : t.add? name = some t') : t'.used ≤ t.used + 1 := by
  obtain ⟨u, hu, rfl⟩ := Option.map_eq_some_iff.1 h
  have hused := used_prepare? hu
  split
  · omega
  · have := u.used_put_le name
    omega

/-- A table that cannot be made ready has all its slots, and many of them are used. -/
theorem used_of_prepare? (h : t.prepare? = none) : ample ≤ t.used := by
  unfold prepare? at h
  split at h
  · cases h
  · split at h
    · rename_i hfull
      split at h
      · rename_i hbits
        have hpow : 2 ^ maxBits ≤ 2 ^ t.bits := Nat.pow_le_pow_right (by decide) hbits
        rw [show 2 ^ maxBits = 32768 by decide, ← Nat.one_shiftLeft] at hpow
        unfold ample
        omega
      · cases h
    · cases h

/-- **Few names** all find a place. -/
theorem isSome_addAll? (h : t.used + names.length ≤ ample) : (t.addAll? names).isSome := by
  induction names generalizing t with
  | nil => rfl
  | cons name names ih =>
    rw [List.length_cons] at h
    rw [addAll?]
    cases ha : t.add? name with
    | none =>
      have := used_of_prepare? (Option.map_eq_none_iff.1 ha)
      omega
    | some t' =>
      have := used_add?_le ha
      exact ih (by omega)

end Slots

/-! ## Lists -/

namespace HeaderList

/-- The entry has a place on the wire. -/
structure Wired (e : String × String) : Prop where
  name : isHeaderName e.1 = true
  value : isHeaderValue (Text.Utf8.encode e.2) = true

theorem entryFault?_eq_none_iff {name value : String} :
    entryFault? name value = none ↔ Wired (name, value) := by
  unfold entryFault?
  constructor
  · intro h
    split at h
    · cases h
    · split at h
      · cases h
      · exact ⟨by simp_all, by simp_all⟩
  · rintro ⟨hn, hv⟩
    simp only at hn hv
    simp [hn, hv]

/-- The fault of the first entry that has no place on the wire. -/
def wireFault? (es : List (String × String)) : Option ConfigFault :=
  es.findSome? fun e => entryFault? e.1 e.2

theorem wireFault?_eq_none_iff {es : List (String × String)} :
    wireFault? es = none ↔ ∀ e ∈ es, Wired e := by
  rw [wireFault?, List.findSome?_eq_none_iff]
  exact forall₂_congr fun e _ => entryFault?_eq_none_iff

/-- The lowercase names of the entries before the first fault. -/
def leadingNames (es : List (String × String)) : List String :=
  (es.takeWhile fun e => (entryFault? e.1 e.2).isNone).map fun e => foldName e.1

/-- The table of a list overflows: there are too many entries, or some name before the first fault has
no place. -/
def Overflows (h : HeaderList) : Prop :=
  WireHeaders.capacity < h.size ∨ (Slots.new h.size).addAll? (leadingNames h.entries) = none

instance (h : HeaderList) : Decidable h.Overflows :=
  inferInstanceAs (Decidable (_ ∨ _))

/-- The fields that the entries of a list are sent as. -/
def wireFields (h : HeaderList) : List (String × Bytes) :=
  h.entries.map fun (n, v) => (n, Text.Utf8.encode v)

theorem place_eq (slots : Slots) (w : WireHeaders) (es : List (String × String)) :
    place slots w es =
      match slots.addAll? (leadingNames es), wireFault? es with
      | none, _ => .crash .tooManyHeaders
      | some _, some fault => .error (.config fault)
      | some _, none => .ok (es.foldl (fun w e => w.append e.1 (Text.Utf8.encode e.2)) w) := by
  induction es generalizing slots w with
  | nil => rfl
  | cons e es ih =>
    obtain ⟨name, value⟩ := e
    rw [place, wireFault?, List.findSome?_cons, leadingNames, List.takeWhile_cons]
    cases hf : entryFault? name value with
    | some fault => rfl
    | none =>
      dsimp only [Option.isNone_none, if_true, List.map_cons]
      rw [if_pos rfl, List.map_cons, Slots.addAll?]
      cases ha : slots.add? (foldName name) with
      | none => rfl
      | some slots => exact ih slots _

/-- **What becomes of a list**: it overflows, or the first fault is told, or it is a table. -/
theorem toWire_eq (h : HeaderList) : h.toWire =
    if h.Overflows then .crash .tooManyHeaders
    else
      match wireFault? h.entries with
      | some fault => .error (.config fault)
      | none => .ok (.ofList h.wireFields) := by
  have hfold : h.entries.foldl (fun w e => w.append e.1 (Text.Utf8.encode e.2)) .empty =
      WireHeaders.ofList h.wireFields := by
    rw [WireHeaders.ofList, wireFields, List.foldl_map]
  rw [toWire, place_eq, hfold]
  by_cases hs : WireHeaders.capacity < h.size
  · have hover : h.Overflows := .inl hs
    rw [if_pos hs, if_pos hover]
  · rw [if_neg hs]
    cases ha : (Slots.new h.size).addAll? (leadingNames h.entries) with
    | none =>
      have hover : h.Overflows := .inr ha
      rw [if_pos hover]
    | some slots =>
      have hover : ¬ h.Overflows := by simp [Overflows, hs, ha]
      rw [if_neg hover]
      cases wireFault? h.entries <;> rfl

/-- **A list of few entries** does not overflow. -/
theorem not_overflows {h : HeaderList} (hs : h.size ≤ Slots.ample) : ¬ h.Overflows := by
  rintro (hc | hn)
  · exact absurd hc (Nat.not_lt.2 (Nat.le_trans hs (by decide)))
  · have hlen : (leadingNames h.entries).length ≤ h.size := by
      rw [leadingNames, List.length_map]
      exact (List.takeWhile_sublist _).length_le
    have hsome : ((Slots.new h.size).addAll? (leadingNames h.entries)).isSome :=
      Slots.isSome_addAll? (by rw [show (Slots.new h.size).used = 0 from rfl]; omega)
    rw [hn] at hsome
    cases hsome

/-- **A list has a wire table** exactly if it does not overflow and every entry is wired. -/
theorem exists_toWire_iff {h : HeaderList} : (∃ w, h.toWire = .ok w) ↔
    ¬ h.Overflows ∧ ∀ e ∈ h.entries, Wired e := by
  rw [← wireFault?_eq_none_iff, toWire_eq]
  split
  · simp [*]
  · cases wireFault? h.entries <;> simp [*]

theorem toWire_eq_crash_iff {h : HeaderList} {crash : Crash} :
    h.toWire = .crash crash ↔ h.Overflows ∧ crash = .tooManyHeaders := by
  rw [toWire_eq]
  split
  · simp [*, eq_comm]
  · cases wireFault? h.entries <;> simp [*]

/-- A list that overflows has no fault, it crashes; another one has the fault of an entry. -/
theorem toWire_cases (h : HeaderList) : (∃ w, h.toWire = .ok w) ∨
    (∃ f, h.toWire = .error (.config f)) ∨
    h.Overflows ∧ h.toWire = .crash .tooManyHeaders := by
  rw [toWire_eq]
  split
  · exact .inr (.inr ⟨‹_›, rfl⟩)
  · cases wireFault? h.entries with
    | none => exact .inl ⟨_, rfl⟩
    | some fault => exact .inr (.inl ⟨fault, rfl⟩)

end HeaderList

end Refetch
