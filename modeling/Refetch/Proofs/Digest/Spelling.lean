import Refetch.Proofs.Digest.Expecting
/-!
# How digests are spelled

1. A text spells some bytes if its digits are those written for the bytes, in letters of any case:
   this is the same as reading the bytes from it (`Hex.decode_eq_some_iff`).
2. A text that names a digest, blanks around it passed over, has 64 or 128 digits (`IsDigest`). These
   texts and no others are taken for a checksum (`Checksum.parse_isDigest`).
3. A checksum stands for the bytes that its text spells: what it accepts, which other checksum it
   equals and what its own digits are read as, all depend on these bytes alone
   (`Checksum.parse_stands`).
-/

namespace Refetch

namespace Text.Hex

/-- **Spelling**: bytes are read from a text if it writes them, in letters of any case. -/
theorem decode_eq_some_iff {s : String} {bs : Bytes} :
    decode s = some bs ↔ Digest.Checksum.lower s = encode bs := by
  rw [Digest.Checksum.lower, encode, String.ofList_inj]
  constructor
  · intro h
    exact (encodeChars_of_decodeChars h).symm
  · intro h
    rw [decode, ← decodeChars_map_toLower, h, decodeChars_encodeChars]

end Text.Hex

namespace Digest

open Text

/-! ## Texts of digests -/

namespace HashKind

/-- The number of bytes in a digest. -/
def size : HashKind → Nat
  | sha256 => 32
  | sha512 => 64

theorem length_digest (kind : HashKind) (bs : Bytes) :
    (kind.algorithm.digest bs).length = kind.size := by
  cases kind <;> rfl

theorem ofDigitCount_eq_some_iff {n : Nat} {kind : HashKind} :
    ofDigitCount n = some kind ↔ n = 2 * kind.size := by
  unfold ofDigitCount
  split <;> cases kind <;> simp [size] <;> omega

theorem size_injective : Function.Injective size := by
  intro a b h
  cases a <;> cases b <;> first | rfl | cases h

end HashKind

/-- Without the blanks around it, the text is 64 or 128 hexadecimal digits. -/
def IsDigest (s : String) : Prop :=
  (∀ c ∈ (trim s).toList, c ∈ Hex.digits) ∧
    ((trim s).toList.length = 64 ∨ (trim s).toList.length = 128)

theorem isDigest_iff {s : String} : IsDigest s ↔ ∃ kind, HashKind.detect? (trim s) = some kind := by
  have hk : ((trim s).toList.length = 64 ∨ (trim s).toList.length = 128) ↔
      ∃ kind, HashKind.ofDigitCount (trim s).toList.length = some kind := by
    simp only [HashKind.ofDigitCount_eq_some_iff]
    constructor
    · rintro (h | h)
      · exact ⟨.sha256, h⟩
      · exact ⟨.sha512, h⟩
    · rintro ⟨_ | _, h⟩
      · exact .inl h
      · exact .inr h
  rw [IsDigest, hk]
  simp only [HashKind.detect?_eq_some_iff, List.all_eq_true, Hex.isDigit_iff, exists_and_left]

namespace Checksum

variable {s : String} {c : Checksum} {bs : Bytes}

/-- A text is taken for a checksum or refused, blanks around it left out of the refusal. -/
theorem parse_isDigest (s : String) :
    (IsDigest s ∧ ∃ c, parse s = .ok c) ∨
      (¬ IsDigest s ∧ parse s = .error (.config (.checksumFormat (trim s)))) := by
  rw [isDigest_iff]
  rcases hd : HashKind.detect? (trim s) with _ | kind
  · exact .inr ⟨by simp, by simp only [parse, hd]⟩
  · exact .inl ⟨⟨kind, rfl⟩, ⟨kind, lower (trim s)⟩, by simp only [parse, hd]⟩

/-! ## What a checksum stands for -/

/-- The checksum of a text stands for these bytes. -/
structure Stands (c : Checksum) (s : String) (bs : Bytes) : Prop where
  /-- They are what the digits of the text are read as. -/
  read : Hex.decode (trim s) = some bs
  /-- They are as many as every digest of the checksum's kind has. -/
  length : ∀ data, (c.kind.algorithm.digest data).length = bs.length
  /-- Of the spellings of any bytes, in letters of any case, it accepts those of these bytes. -/
  spelling : ∀ d a, lower a = Hex.encode d → (c.accepts a = true ↔ d = bs)
  /-- It accepts nothing else. -/
  other : ∀ a, Hex.decode a ≠ some bs → c.accepts a = false
  /-- It is equal to the checksum of another text if that one spells the same bytes. -/
  equal : ∀ s' c', parse s' = .ok c' → (c = c' ↔ Hex.decode (trim s') = some bs)
  /-- It is read from its own digits again. -/
  again : parse c.expected = .ok c

/-- What a parsed checksum expects is written for as many bytes as a digest of its kind has. -/
theorem bytes_of_parse (h : parse s = .ok c) :
    ∃ bs, Hex.decode (trim s) = some bs ∧ bs.length = c.kind.size ∧ c.expected = Hex.encode bs := by
  obtain ⟨bs, hb, hk, he⟩ := expected_of_parse h
  have hl := Hex.length_of_decode hb
  rw [HashKind.ofDigitCount_eq_some_iff] at hk
  exact ⟨bs, hb, by omega, he⟩

theorem accepts_eq_true_iff (he : c.expected = Hex.encode bs) (a : String) :
    c.accepts a = true ↔ Hex.decode a = some bs := by
  rw [accepts, he, lower_encode, beq_iff_eq, Hex.decode_eq_some_iff, eq_comm]

/-- Checksums that write the same bytes are of one kind. -/
theorem eq_of_expected {c' : Checksum} (hl : bs.length = c.kind.size)
    (hl' : bs.length = c'.kind.size) (he : c.expected = Hex.encode bs)
    (he' : c'.expected = Hex.encode bs) : c = c' := by
  have hk : c.kind = c'.kind := HashKind.size_injective (hl.symm.trans hl')
  cases c
  cases c'
  simp_all

/-- A checksum has its digits in lower case, and no blank among them. -/
theorem parse_expected (h : parse s = .ok c) : parse c.expected = .ok c := by
  obtain ⟨bs, -, -, hw⟩ := bytes_of_parse h
  obtain ⟨hk, he⟩ := parse_eq_ok_iff.1 h
  have ht : trim c.expected = c.expected := by rw [hw, Hex.trim_encode]
  refine parse_eq_ok_iff.2 ⟨?_, ?_⟩
  · rw [ht, he, detect?_lower, hk]
  · rw [ht, hw, lower_encode]

theorem stands_of_parse (h : parse s = .ok c) : ∃ bs, c.Stands s bs := by
  obtain ⟨bs, hr, hl, he⟩ := bytes_of_parse h
  refine ⟨bs, hr, fun data => ?length, fun d a ha => ?spelling, fun a ha => ?other,
    fun s' c' h' => ?equal, parse_expected h⟩
  case length =>
    rw [c.kind.length_digest, hl]
  case spelling =>
    rw [accepts_eq_true_iff he, Hex.decode_eq_some_iff, ha, Hex.encode_injective.eq_iff]
  case other =>
    rw [← Bool.not_eq_true, accepts_eq_true_iff he]
    exact ha
  case equal =>
    obtain ⟨bs', hr', hl', he'⟩ := bytes_of_parse h'
    constructor
    · rintro rfl
      rw [hr', Hex.encode_injective (he.symm.trans he')]
    · intro hb
      obtain rfl : bs' = bs := Option.some.inj (hr'.symm.trans hb)
      exact eq_of_expected hl hl' he he'

/-- **Checksums stand for bytes.** A text is taken for a checksum if it is 64 or 128 hexadecimal
digits between blanks, and refused as a setting that does not fit otherwise. The checksum then
depends on the bytes that the digits write and on nothing else of the text: it accepts every
spelling of these bytes and nothing else, is equal to the checksums of the texts that write them,
and is read from its own digits again. -/
theorem parse_stands (s : String) :
    (IsDigest s ∧ ∃ c bs, parse s = .ok c ∧ c.Stands s bs) ∨
      (¬ IsDigest s ∧ parse s = .error (.config (.checksumFormat (trim s)))) := by
  rcases parse_isDigest s with ⟨hs, c, hc⟩ | h
  · obtain ⟨bs, hb⟩ := stands_of_parse hc
    exact .inl ⟨hs, c, bs, hc, hb⟩
  · exact .inr h

end Checksum

end Digest

end Refetch
