import Refetch.Dest.File
import Refetch.Proofs.Storage.Locations
import Refetch.Proofs.Text.Decoding
import Refetch.Proofs.Text.Letters
/-!
# File names stay in their directory

1. A URL gives a file its name by the last segment of its path: the text that is percent-encoded
   there, made plain and trimmed (`Url.bare`). There is no such name for four reasons
   (`Url.NamesNoFile`).
2. Trimming comes after the replacement of characters and takes none in, so that a name that is left
   is one plain name (`isPlainName_bare`).
3. A plain name that is joined to a directory is one name more, and so is the name of the sidecar.
   Both lie in the directory, on every file system (`Refetch.FileDest.Child`).
-/

namespace Refetch.Url

open Text (isBlank trim trimChars)

variable {u : Url} {segment text : String}

/-! ## Plain names -/

/-- What is left of a text when separators and control characters have been replaced and the blanks
around it dropped. -/
def bare (text : String) : String := trim (String.ofList (text.toList.map plainChar))

/-- Names that are nothing or mean directories. -/
def dots : List String := ["", ".", ".."]

/-- The name names something in a directory, whatever the directory is. -/
structure IsPlainName (name : String) : Prop where
  not_dots : name ∉ dots
  no_separator : '/' ∉ name.toList ∧ '\\' ∉ name.toList
  no_control : ∀ c ∈ name.toList, isControl c = false
  no_blank : ∀ c, c ∈ name.toList.head? ∨ c ∈ name.toList.getLast? → isBlank c = false

theorem plainChar_spec (c : Char) :
    plainChar c ≠ '/' ∧ plainChar c ≠ '\\' ∧ isControl (plainChar c) = false := by
  have hu : '_' ≠ '/' ∧ '_' ≠ '\\' ∧ isControl '_' = false := by decide
  unfold plainChar
  split
  · exact hu
  · rename_i hs
    split
    · exact hu
    · rename_i hc
      exact ⟨fun h => hs (.inl h), fun h => hs (.inr h), by simpa using hc⟩

theorem toList_bare (text : String) : (bare text).toList = trimChars (text.toList.map plainChar) := by
  rw [bare, trim, String.toList_ofList, String.toList_ofList]

/-- **What is left of a text** is one plain name, unless it is nothing or dots. -/
theorem isPlainName_bare (h : bare text ∉ dots) : IsPlainName (bare text) := by
  have hplain : ∀ c ∈ (bare text).toList, c ≠ '/' ∧ c ≠ '\\' ∧ isControl c = false := by
    intro c hc
    rw [toList_bare] at hc
    obtain ⟨c', -, rfl⟩ := List.mem_map.1 (Text.mem_of_mem_trimChars hc)
    exact plainChar_spec c'
  refine ⟨h, ⟨fun hc => (hplain _ hc).1 rfl, fun hc => (hplain _ hc).2.1 rfl⟩,
    fun c hc => (hplain c hc).2.2, fun c hc => ?_⟩
  rw [toList_bare] at hc
  exact Text.isBlank_of_trimChars hc

example : bare " ..\\../etc\n " = ".._.._etc_" := by decide

theorem plainName?_toList (text : String) : plainName? text.toList =
    if bare text ∈ dots then none else some (bare text).toList := by
  have hmem : bare text ∈ dots ↔
      (bare text).toList = [] ∨ (bare text).toList = ['.'] ∨ (bare text).toList = ['.', '.'] := by
    have heq (s : String) : bare text = s ↔ (bare text).toList = s.toList :=
      String.toList_inj.symm
    simp only [dots, List.mem_cons, List.not_mem_nil, or_false]
    rw [heq, heq, heq]
    rfl
  simp only [hmem, plainName?, toList_bare]

/-! ## The last segment -/

/-- The path has segments, and this is the last one. -/
def EndsIn (u : Url) (segment : String) : Prop :=
  ∃ segments, u.pathSegments? = some segments ∧ segments.getLast? = some segment

theorem noSegments_or_endsIn (u : Url) :
    u.pathSegments? = none ∨ ∃ segment, u.EndsIn segment := by
  cases h : u.pathSegments? with
  | none => exact .inl rfl
  | some segments =>
    refine .inr ?_
    cases hl : segments.getLast? with
    | none =>
      obtain rfl := List.getLast?_eq_none_iff.1 hl
      unfold pathSegments? at h
      split at h <;> simp_all
    | some segment => exact ⟨segment, segments, h, hl⟩

theorem fileName_of_noSegments (h : u.pathSegments? = none) :
    u.fileName = .error (.noPath u.render) := by
  rw [fileName, h]

theorem fileName_of_empty (h : u.EndsIn "") : u.fileName = .error (.noFileName u.render) := by
  obtain ⟨segments, hs, hl⟩ := h
  rw [fileName, hs]
  dsimp only
  rw [hl]
  rfl

theorem fileName_of_endsIn (h : u.EndsIn segment) (hne : segment ≠ "") :
    u.fileName = match Text.Utf8.decodeChars (Percent.decode segment) with
      | .error fault => .error (.undecodable u.render fault)
      | .ok decoded =>
        match plainName? decoded with
        | none => .error (.unusableFileName u.render)
        | some name => .ok (String.ofList name) := by
  obtain ⟨segments, hs, hl⟩ := h
  rw [fileName, hs]
  dsimp only
  rw [hl]
  split
  · rename_i he
    cases he
  · exact absurd (Option.some.inj ‹_›) hne
  · rename_i he
    cases he
    rfl

/-- Bytes that are no text cannot be decoded. -/
theorem fileName_of_notText (h : u.EndsIn segment) (hne : segment ≠ "")
    (hn : ∀ text, Percent.decode segment ≠ Text.Utf8.encode text) :
    ∃ cause, Text.Utf8.decodeChars (Percent.decode segment) = .error cause ∧
      u.fileName = .error (.undecodable u.render cause) := by
  rw [fileName_of_endsIn h hne]
  cases hd : Text.Utf8.decodeChars (Percent.decode segment) with
  | error cause => exact ⟨cause, rfl, rfl⟩
  | ok cs =>
    refine absurd (Text.Utf8.decodeChars_eq_ok_iff.1 hd) ?_
    simpa [Text.Utf8.encode] using hn (String.ofList cs)

theorem fileName_of_text (h : u.EndsIn segment) (hne : segment ≠ "")
    (ht : Percent.decode segment = Text.Utf8.encode text) :
    u.fileName =
      if bare text ∈ dots then .error (.unusableFileName u.render) else .ok (bare text) := by
  rw [fileName_of_endsIn h hne, Text.Utf8.decodeChars_eq_ok_iff.2 ht]
  dsimp only
  rw [plainName?_toList]
  by_cases hd : bare text ∈ dots
  · rw [if_pos hd, if_pos hd]
  · rw [if_neg hd, if_neg hd]
    dsimp only
    rw [String.ofList_toList]

/-- Why a URL names no file. -/
inductive NamesNoFile (u : Url) : Prop
  | noSegments (h : u.pathSegments? = none)
  | emptySegment (h : u.EndsIn "")
  | notText {segment : String} (h : u.EndsIn segment)
      (hn : ∀ text, Percent.decode segment ≠ Text.Utf8.encode text)
  | nothingLeft {segment text : String} (h : u.EndsIn segment)
      (ht : Percent.decode segment = Text.Utf8.encode text) (hd : bare text ∈ dots)

/-- A URL names a file or has a reason not to. -/
theorem fileName_cases (u : Url) :
    (u.NamesNoFile ∧ ∃ fault, u.fileName = .error fault) ∨
      ∃ segment text, u.EndsIn segment ∧ Percent.decode segment = Text.Utf8.encode text ∧
        bare text ∉ dots ∧ u.fileName = .ok (bare text) := by
  rcases noSegments_or_endsIn u with h | ⟨segment, h⟩
  · exact .inl ⟨.noSegments h, _, fileName_of_noSegments h⟩
  · by_cases hne : segment = ""
    · subst hne
      exact .inl ⟨.emptySegment h, _, fileName_of_empty h⟩
    · by_cases ht : ∃ text, Percent.decode segment = Text.Utf8.encode text
      · obtain ⟨text, ht⟩ := ht
        have hf := fileName_of_text h hne ht
        by_cases hd : bare text ∈ dots
        · rw [if_pos hd] at hf
          exact .inl ⟨.nothingLeft h ht hd, _, hf⟩
        · rw [if_neg hd] at hf
          exact .inr ⟨segment, text, h, ht, hd, hf⟩
      · have hn := not_exists.1 ht
        obtain ⟨cause, -, hf⟩ := fileName_of_notText h hne hn
        exact .inl ⟨.notText h hn, _, hf⟩

theorem EndsIn.unique {segment' : String} (h : u.EndsIn segment) (h' : u.EndsIn segment') :
    segment = segment' := by
  obtain ⟨segments, hs, hl⟩ := h
  obtain ⟨segments', hs', hl'⟩ := h'
  obtain rfl : segments = segments' := Option.some.inj (hs.symm.trans hs')
  exact Option.some.inj (hl.symm.trans hl')

/-- A URL that names a file has no reason not to. -/
theorem not_namesNoFile (h : u.EndsIn segment) (ht : Percent.decode segment = Text.Utf8.encode text)
    (hd : bare text ∉ dots) : ¬ u.NamesNoFile := by
  rintro (hs | he | ⟨h', hn⟩ | ⟨h', ht', hd'⟩)
  · obtain ⟨segments, hs', -⟩ := h
    rw [hs] at hs'
    cases hs'
  · obtain rfl := h.unique he
    have hb : Percent.decode "" = Text.Utf8.encode "" := by decide
    obtain rfl := Text.Utf8.encode_injective (ht.symm.trans hb)
    exact hd (by decide)
  · obtain rfl := h.unique h'
    exact hn text ht
  · obtain rfl := h.unique h'
    obtain rfl := Text.Utf8.encode_injective (ht.symm.trans ht')
    exact hd hd'

end Refetch.Url

namespace Refetch.FileDest

open Storage (FileSystem Path)

/-- A destination whose target has a name in a directory. Target and sidecar are direct children of
the directory: their paths are its path and one name more, and so are their locations. -/
structure Child (directory name : String) (d : FileDest) : Prop where
  path : d = .new (Path.join directory name)
  target : d.target = (Path.ofText directory).child name
  sidecar : Path.ofText d.etagPath = (Path.ofText directory).child (name ++ ".etag")
  located : ∀ fs : FileSystem, fs.locate d.target = fs.locate (Path.ofText directory) ++ [name] ∧
    fs.locate (Path.ofText d.etagPath) = fs.locate (Path.ofText directory) ++ [name ++ ".etag"]

theorem child_new {name : String} (h : Url.IsPlainName name) (directory : String) :
    Child directory name (.new (Path.join directory name)) := by
  have hdots := h.not_dots
  simp only [Url.dots, List.mem_cons, List.not_mem_nil, or_false, not_or] at hdots
  have hsidecar : ∀ s : String, s.toList.length < 5 → name ++ ".etag" ≠ s := by
    rintro s hs rfl
    simp at hs
  have ht : (new (Path.join directory name)).target = (Path.ofText directory).child name :=
    Path.ofText_join hdots.1 h.no_separator.1 directory
  have hs : Path.ofText (new (Path.join directory name)).etagPath =
      (Path.ofText directory).child (name ++ ".etag") := by
    rw [etagPath, new, Path.join_append]
    refine Path.ofText_join (hsidecar _ (by decide)) ?_ directory
    rw [String.toList_append, List.mem_append, not_or]
    exact ⟨h.no_separator.1, by decide⟩
  refine ⟨rfl, ht, hs, fun fs => ⟨?_, ?_⟩⟩
  · rw [ht, fs.locate_child _ hdots.2.1 hdots.2.2]
  · rw [hs, fs.locate_child _ (hsidecar _ (by decide)) (hsidecar _ (by decide))]

/-- What a URL makes of a directory. -/
structure Confined (directory : String) (u : Url) : Prop where
  /-- The target's name is what is left of the text in the last segment, and a plain one. -/
  made : ∀ d, inDirectory directory u = .ok d → ∃ name, Url.IsPlainName name ∧
    Child directory name d ∧ ∃ segment text, u.EndsIn segment ∧
      Url.Percent.decode segment = Text.Utf8.encode text ∧ name = Url.bare text
  invalid : ∀ e, inDirectory directory u = .error e → ∃ fault, e = .invalidUrl fault
  fails_iff : (∃ e, inDirectory directory u = .error e) ↔ u.NamesNoFile

/-- **Targets stay in their directory**, for every directory and every URL. -/
theorem confined_inDirectory (directory : String) (u : Url) : Confined directory u := by
  rcases u.fileName_cases with ⟨hn, fault, hf⟩ | ⟨segment, text, h, ht, hd, hf⟩
  · have hr : inDirectory directory u = .error (.invalidUrl fault) := by
      rw [inDirectory, hf]
    refine ⟨fun d hok => ?_, fun e he => ⟨fault, ?_⟩, fun _ => hn, fun _ => ⟨_, hr⟩⟩
    · rw [hr] at hok
      cases hok
    · rw [hr] at he
      cases he
      rfl
  · have hr : inDirectory directory u = .ok (.new (Path.join directory (Url.bare text))) := by
      rw [inDirectory, hf]
    refine ⟨fun d hok => ?_, fun e he => ?_, fun ⟨e, he⟩ => ?_,
      fun hn => absurd hn (Url.not_namesNoFile h ht hd)⟩
    · rw [hr] at hok
      cases hok
      have hp := Url.isPlainName_bare hd
      exact ⟨_, hp, child_new hp directory, segment, text, h, ht, rfl⟩
    · rw [hr] at he
      cases he
    · rw [hr] at he
      cases he

end Refetch.FileDest
