import Refetch.Proofs.Dest.Confinement
import Refetch.Proofs.Text.Hexadecimal
/-!
# File names survive percent-encoding

1. A segment spells some bytes if each of them is written there, as an escape with digits of either
   case or as the character of ASCII that it is (`Percent.Spells`). The bytes are read from any of
   their spellings (`Percent.decode_of_spells`).
2. A name that is plain already is left as it is (`bare_of_plain`).
3. So a URL that spells a plain name leads to that name in the directory, however it is spelled
   (`FileDest.inDirectory_spelled`).
-/

namespace Refetch.Url

namespace Percent

/-! ## Spellings -/

/-- The characters spell the bytes. -/
inductive Spells : List Char → Bytes → Prop
  | nil : Spells [] []
  | escape {a b : Char} {m n : Nat} {cs : List Char} {bs : Bytes}
      (ha : Text.Hex.value? a = some m) (hb : Text.Hex.value? b = some n) (h : Spells cs bs) :
      Spells ('%' :: a :: b :: cs) (UInt8.ofNat (m * 16 + n) :: bs)
  | literal {c : Char} {cs : List Char} {bs : Bytes} (hc : c ≠ '%') (ha : c.toNat < 0x80)
      (h : Spells cs bs) : Spells (c :: cs) (UInt8.ofNat c.toNat :: bs)

variable {c : Char} {cs : List Char} {bs : Bytes} {s : String}

/-- Characters of ASCII are bytes of their own. -/
theorem encodeChars_cons (h : c.toNat < 0x80) (cs : List Char) :
    Text.Utf8.encodeChars (c :: cs) = UInt8.ofNat c.toNat :: Text.Utf8.encodeChars cs := by
  have hc : Text.Utf8.encodeChars (c :: cs) =
      String.utf8EncodeChar c ++ Text.Utf8.encodeChars cs := List.flatMap_cons
  rw [hc, Text.Utf8.encodeChar_of_ascii h, List.singleton_append]

/-- A digit is a character of ASCII, and its byte has its value. -/
theorem value?_byte {n : Nat} (h : Text.Hex.value? c = some n) :
    c.toNat < 0x80 ∧ value? (UInt8.ofNat c.toNat) = some n := by
  have hl : c.toNat < 0x80 := by
    rw [Text.Hex.value?_eq] at h
    split_ifs at h <;> omega
  refine ⟨hl, ?_⟩
  rw [value?, UInt8.toNat_ofNat', Nat.mod_eq_of_lt (by omega), Char.ofNat_toNat, h]

theorem decodeBytes_of_ne {b : UInt8} (hb : b ≠ 0x25) (bs : Bytes) :
    decodeBytes (b :: bs) = b :: decodeBytes bs := by
  rw [decodeBytes]
  rintro a c rest rfl
  exact absurd rfl hb

/-- **Bytes are read from their spellings.** -/
theorem decodeBytes_of_spells (h : Spells cs bs) :
    decodeBytes (Text.Utf8.encodeChars cs) = bs := by
  induction h with
  | nil => rfl
  | @escape a b m n cs bs ha hb _ ih =>
    obtain ⟨hal, hav⟩ := value?_byte ha
    obtain ⟨hbl, hbv⟩ := value?_byte hb
    rw [encodeChars_cons (by decide), encodeChars_cons hal, encodeChars_cons hbl]
    show decodeBytes (0x25 :: _ :: _ :: _) = _
    rw [decodeBytes, hav, hbv, ih]
  | @literal c cs bs hc ha _ ih =>
    have hb : UInt8.ofNat c.toNat ≠ 0x25 := by
      intro h
      have hn := congrArg UInt8.toNat h
      rw [UInt8.toNat_ofNat', Nat.mod_eq_of_lt (by omega)] at hn
      exact hc (Char.toNat_inj.1 hn)
    rw [encodeChars_cons ha, decodeBytes_of_ne hb, ih]

theorem decode_of_spells (h : Spells s.toList bs) : decode s = bs := decodeBytes_of_spells h

/-- The empty text spells nothing. -/
theorem ne_empty_of_spells {text : String} (h : Spells s.toList (Text.Utf8.encode text))
    (hne : text ≠ "") : s ≠ "" := by
  intro hs
  have hd : Text.Utf8.encode text = Text.Utf8.encode "" := by
    rw [← decode_of_spells h, hs]
    decide
  exact hne (Text.Utf8.encode_injective hd)

end Percent

/-! ## Names that are plain already -/

theorem bare_of_plain {name : String} (hs : '/' ∉ name.toList ∧ '\\' ∉ name.toList)
    (hc : ∀ c ∈ name.toList, isControl c = false) (ht : Text.trim name = name) :
    bare name = name := by
  have hp : ∀ c ∈ name.toList, plainChar c = c := by
    intro c hm
    have hne : ¬ (c = '/' ∨ c = '\\') := by
      rintro (rfl | rfl)
      · exact hs.1 hm
      · exact hs.2 hm
    rw [plainChar, if_neg hne, if_neg (by rw [hc c hm]; exact Bool.false_ne_true)]
  rw [bare, List.map_congr_left hp, List.map_id', String.ofList_toList, ht]

end Refetch.Url

namespace Refetch.FileDest

open Storage (Path)

/-- **File names survive percent-encoding**: a URL whose last segment spells a plain name, whichever
way it does, leads to that name in the directory and to the sidecar beside it. -/
theorem inDirectory_spelled (directory name : String) (u : Url) (segment : String)
    (hdots : name ∉ Url.dots) (hsep : '/' ∉ name.toList ∧ '\\' ∉ name.toList)
    (hctl : ∀ c ∈ name.toList, Url.isControl c = false) (htrim : Text.trim name = name)
    (hend : u.EndsIn segment)
    (hspell : Url.Percent.Spells segment.toList (Text.Utf8.encode name)) :
    ∃ d, inDirectory directory u = .ok d ∧ d.path = Path.join directory name ∧
      d.etagPath = Path.join directory (name ++ ".etag") ∧ Child directory name d := by
  have hbare : Url.bare name = name := Url.bare_of_plain hsep hctl htrim
  have hempty : name ≠ "" := fun h => hdots (by rw [h]; decide)
  have hf := Url.fileName_of_text hend (Url.Percent.ne_empty_of_spells hspell hempty)
    (Url.Percent.decode_of_spells hspell)
  rw [hbare, if_neg hdots] at hf
  have hplain : Url.IsPlainName name := hbare ▸ Url.isPlainName_bare (hbare.symm ▸ hdots)
  refine ⟨.new (Path.join directory name), ?_, rfl, ?_, child_new hplain directory⟩
  · rw [inDirectory, hf]
  · rw [etagPath, new, Path.join_append]

/-- Digits of both cases, and characters that mean something in other parts of a URL. -/
theorem inDirectory_spelled_accented :
    ∃ d, inDirectory "downloads" ⟨"http", "", none, some (.domain "h"), none,
        .segments ["files", "%C3%a9+%25%3f"], none, none⟩ = .ok d ∧
      d.path = "downloads/é+%?" ∧ d.etagPath = "downloads/é+%?.etag" ∧
      Child "downloads" "é+%?" d := by
  have hspell : Url.Percent.Spells "%C3%a9+%25%3f".toList (Text.Utf8.encode "é+%?") := by
    have hb : Text.Utf8.encode "é+%?" = [0xC3, 0xA9, 0x2B, 0x25, 0x3F] := by decide
    have hs : "%C3%a9+%25%3f".toList =
        ['%', 'C', '3', '%', 'a', '9', '+', '%', '2', '5', '%', '3', 'f'] := rfl
    rw [hb, hs]
    refine .escape (m := 12) (n := 3) rfl rfl ?_
    refine .escape (m := 10) (n := 9) rfl rfl ?_
    refine .literal (by decide) (by decide) ?_
    refine .escape (m := 2) (n := 5) rfl rfl ?_
    exact .escape (m := 3) (n := 15) rfl rfl .nil
  have hctl : "é+%?".toList.all (!Url.isControl ·) = true := by decide
  exact inDirectory_spelled "downloads" "é+%?" _ "%C3%a9+%25%3f" (by decide) (by decide)
    (by simpa using hctl) (by decide) ⟨_, rfl, rfl⟩ hspell

end Refetch.FileDest
