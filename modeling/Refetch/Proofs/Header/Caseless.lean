import Refetch.Header.ContentLength
import Refetch.Proofs.Header.Conversion
/-!
# Letter case in header lists

Two names are the same if they have the same letters, those of ASCII in either case. Lists that differ
only so, and that are edited by calls that differ only so, give the same answers.

1. `SameLetters` says this of the characters of two names. Other letters than those of ASCII have to
   be equal (`sameName_iff`).
2. A list whose names are all put into lower case (`folded`) stands for all lists that are like it
   (`alike_iff`). Every edit of a list is an edit of that one (`folded_apply`), which has the same
   values under every name (`getAll_folded`) and the same wire table (`sameWire_folded`).
3. So lists that are alike stay so and answer alike, whatever the edits (`caseless_after`).
-/

namespace Refetch

/-! ## Letters of names -/

/-- A capital letter of ASCII, and the same letter in lower case. -/
def IsCapitalOf (c d : Char) : Prop := 65 ≤ c.toNat ∧ c.toNat ≤ 90 ∧ d.toNat = c.toNat + 32

/-- The same character, or the two cases of a letter of ASCII. -/
def SameLetter (c d : Char) : Prop := c = d ∨ IsCapitalOf c d ∨ IsCapitalOf d c

/-- The names differ at most in the case of letters of ASCII. -/
def SameLetters (a b : String) : Prop := List.Forall₂ SameLetter a.toList b.toList

theorem sameLetter_iff {c d : Char} : SameLetter c d ↔ c.toLower = d.toLower := by
  rw [← Char.toNat_inj, SameLetter, ← Char.toNat_inj, IsCapitalOf, IsCapitalOf,
    Text.toNat_toLower, Text.toNat_toLower]
  split_ifs <;> omega

theorem sameLetters_iff {a b : String} : SameLetters a b ↔ foldName a = foldName b := by
  have hl : SameLetter = fun c d => c.toLower = d.toLower :=
    funext fun c => funext fun d => propext sameLetter_iff
  rw [foldName, foldName, String.ofList_inj, ← List.forall₂_eq_eq_eq, List.forall₂_map_left_iff,
    List.forall₂_map_right_iff, SameLetters, hl]

/-- **Names are the same** exactly if they have the same letters. -/
theorem sameName_iff {a b : String} : sameName a b = true ↔ SameLetters a b := by
  rw [sameLetters_iff, sameName, beq_iff_eq]

instance (a b : String) : Decidable (SameLetters a b) := decidable_of_iff _ sameName_iff

example : SameLetters "eTag" "ETAG" ∧ ¬ SameLetters "é" "É" ∧ ¬ SameLetters "k" "\u212A" := by
  decide +kernel

/-! ## Pairs -/

section Pairs

variable {α : Type}

/-- Pairs under the same names, up to the case of letters. -/
def PairsAlike (ps qs : List (String × α)) : Prop :=
  List.Forall₂ (fun p q => SameLetters p.1 q.1 ∧ p.2 = q.2) ps qs

/-- The pair with its name in lower case. -/
def foldPair (p : String × α) : String × α := (foldName p.1, p.2)

theorem pairsAlike_iff {ps qs : List (String × α)} :
    PairsAlike ps qs ↔ ps.map foldPair = qs.map foldPair := by
  rw [← List.forall₂_eq_eq_eq, List.forall₂_map_left_iff, List.forall₂_map_right_iff, PairsAlike]
  simp only [foldPair, Prod.mk.injEq, sameLetters_iff]

end Pairs

namespace HeaderList

variable {h h₁ h₂ : HeaderList} {name other : String}

/-- The lists differ at most in the case of letters in their names. -/
def Alike (h₁ h₂ : HeaderList) : Prop := PairsAlike h₁.entries h₂.entries

/-- The edits differ at most in the case of letters in their names. -/
inductive Edit.Alike : Edit → Edit → Prop
  | add {n n' : String} (hn : SameLetters n n') (value : String) :
    Alike (.add n value) (.add n' value)
  | set {n n' : String} (hn : SameLetters n n') (value : String) :
    Alike (.set n value) (.set n' value)
  | remove {n n' : String} (hn : SameLetters n n') : Alike (.remove n) (.remove n')
  | addAll {table table' : List (String × List String)} (ht : PairsAlike table table') :
    Alike (.addAll table) (.addAll table')
  | extend {pairs pairs' : List (String × String)} (hp : PairsAlike pairs pairs') :
    Alike (.extend pairs) (.extend pairs')

/-! ## Names in lower case -/

/-- The list with all names in lower case. -/
def folded (h : HeaderList) : HeaderList := ⟨h.entries.map foldPair⟩

theorem alike_iff : h₁.Alike h₂ ↔ h₁.folded = h₂.folded := by
  rw [Alike, pairsAlike_iff, folded, folded, mk.injEq]

theorem named_foldPair (name : String) (e : String × String) :
    named (foldName name) (foldPair e) = named name e := by
  rw [named, named, sameName, sameName, foldPair, foldName_foldName, foldName_foldName]

theorem named_comp_foldPair (name : String) : named (foldName name) ∘ foldPair = named name :=
  funext (named_foldPair name)

theorem without_foldPair (name : String) (es : List (String × String)) :
    without (foldName name) (es.map foldPair) = (without name es).map foldPair := by
  rw [without, List.filter_map, without]
  simp only [Function.comp_def, named_foldPair]

theorem folded_set (h : HeaderList) (name value : String) :
    (h.set name value).folded = h.folded.set (foldName name) value := by
  rcases h.absent_or_first name with ha | ⟨before, e, after, he, hb, hn⟩
  · rw [set_of_absent ha, set_of_absent, folded, add, List.map_append]
    · rfl
    · exact List.forall_mem_map.2 fun e he => (named_foldPair name e).trans (ha e he)
  · have hfolded : h.folded.entries =
        before.map foldPair ++ foldPair e :: after.map foldPair := by
      rw [folded, he, List.map_append, List.map_cons]
    have hset := set_of_first hfolded
      (List.forall_mem_map.2 fun x hx => (named_foldPair name x).trans (hb x hx))
      ((named_foldPair name e).trans hn) value
    rw [without_foldPair] at hset
    refine congrArg mk (Eq.trans ?_ hset.symm)
    rw [set_of_first he hb hn, List.map_append, List.map_cons]
    rfl

/-- The edit with all names in lower case. -/
def Edit.folded : Edit → Edit
  | .add n v => .add (foldName n) v
  | .set n v => .set (foldName n) v
  | .remove n => .remove (foldName n)
  | .addAll table => .addAll (table.map foldPair)
  | .extend pairs => .extend (pairs.map foldPair)

theorem Edit.Alike.folded_eq {e e' : Edit} (h : e.Alike e') : e.folded = e'.folded := by
  cases h with
  | add hn value => rw [Edit.folded, Edit.folded, sameLetters_iff.1 hn]
  | set hn value => rw [Edit.folded, Edit.folded, sameLetters_iff.1 hn]
  | remove hn => rw [Edit.folded, Edit.folded, sameLetters_iff.1 hn]
  | addAll ht => rw [Edit.folded, Edit.folded, pairsAlike_iff.1 ht]
  | extend hp => rw [Edit.folded, Edit.folded, pairsAlike_iff.1 hp]

/-- **An edit of a list** is an edit of the list in lower case. -/
theorem folded_apply (h : HeaderList) (edit : Edit) :
    (edit.apply h).folded = edit.folded.apply h.folded := by
  have hextend (pairs : List (String × String)) :
      (h.extend pairs).folded = h.folded.extend (pairs.map foldPair) :=
    congrArg mk List.map_append
  cases edit with
  | add n v => exact hextend [(n, v)]
  | set n v => exact folded_set h n v
  | remove n => exact congrArg mk (without_foldPair n h.entries).symm
  | addAll table =>
    show (h.extend _).folded = h.folded.extend _
    rw [hextend, List.map_flatMap, List.flatMap_map]
    simp only [List.map_map]
    rfl
  | extend pairs => exact hextend pairs

theorem folded_after (h : HeaderList) (edits : List Edit) :
    (h.after edits).folded = h.folded.after (edits.map Edit.folded) := by
  induction edits generalizing h with
  | nil => rfl
  | cons edit edits ih =>
    rw [after, List.foldl_cons, ← after, ih, folded_apply]
    rfl

/-! ## Values -/

theorem getAll_folded (h : HeaderList) (name : String) :
    h.folded.getAll (foldName name) = h.getAll name := by
  rw [getAll, folded, List.filter_map, named_comp_foldPair, List.map_map, getAll]
  rfl

theorem Alike.getAll_eq (h : Alike h₁ h₂) (hn : SameLetters name other) :
    h₁.getAll name = h₂.getAll other := by
  rw [← getAll_folded, alike_iff.1 h, sameLetters_iff.1 hn, getAll_folded]

/-! ## Wire tables -/

/-- The same fault of entries whose names differ at most in the case of letters. -/
inductive SameFault : ConfigFault → ConfigFault → Prop
  | name {n n' : String} (hn : SameLetters n n') : SameFault (.headerName n) (.headerName n')
  | value {n n' : String} (hn : SameLetters n n') : SameFault (.headerValue n) (.headerValue n')

/-- The same table, the same fault or the same crash. -/
inductive SameWire : Outcome WireHeaders → Outcome WireHeaders → Prop
  | ok (w : WireHeaders) : SameWire (.ok w) (.ok w)
  | error {f f' : ConfigFault} (hf : SameFault f f') :
    SameWire (.error (.config f)) (.error (.config f'))
  | crash (c : Crash) : SameWire (.crash c) (.crash c)

theorem rel_entryFault? {n n' v : String} (hn : SameLetters n n') :
    Option.Rel SameFault (entryFault? n v) (entryFault? n' v) := by
  have hheader : isHeaderName n = isHeaderName n' := by
    rw [← isHeaderName_foldName, sameLetters_iff.1 hn, isHeaderName_foldName]
  rw [entryFault?, entryFault?, hheader]
  split_ifs
  · exact .some (.name hn)
  · exact .some (.value hn)
  · exact .none

theorem rel_wireFault? {es es' : List (String × String)} (h : PairsAlike es es') :
    Option.Rel SameFault (wireFault? es) (wireFault? es') ∧ leadingNames es = leadingNames es' := by
  induction h with
  | nil => exact ⟨.none, rfl⟩
  | @cons e e' es es' he _ ih =>
    obtain ⟨n, v⟩ := e
    obtain ⟨n', v'⟩ := e'
    obtain ⟨hn, rfl⟩ := he
    have hr := rel_entryFault? (v := v) hn
    rw [wireFault?, wireFault?, List.findSome?_cons, List.findSome?_cons, leadingNames,
      leadingNames, List.takeWhile_cons, List.takeWhile_cons]
    dsimp only
    revert hr
    generalize entryFault? n v = x, entryFault? n' v = y
    intro hr
    cases hr with
    | some hf => exact ⟨.some hf, rfl⟩
    | none => exact ⟨ih.1, congrArg₂ List.cons (sameLetters_iff.1 hn) ih.2⟩

theorem ofList_congr {ps qs : List (String × Bytes)} (h : PairsAlike ps qs) :
    WireHeaders.ofList ps = .ofList qs := by
  rw [WireHeaders.ofList, WireHeaders.ofList]
  generalize WireHeaders.empty = w
  induction h generalizing w with
  | nil => rfl
  | @cons p q _ _ hp _ ih =>
    obtain ⟨n, v⟩ := p
    obtain ⟨n', v'⟩ := q
    obtain ⟨hn, rfl⟩ := hp
    have happend : w.append n v = w.append n' v := by
      rw [WireHeaders.append, WireHeaders.append, sameLetters_iff.1 hn]
    rw [List.foldl_cons, List.foldl_cons]
    dsimp only
    rw [happend, ih]

theorem Alike.size_eq (h : Alike h₁ h₂) : h₁.size = h₂.size := List.Forall₂.length_eq h

/-- **Lists that are alike** have the same wire table. -/
theorem Alike.sameWire (h : Alike h₁ h₂) : SameWire h₁.toWire h₂.toWire := by
  have hfields : PairsAlike h₁.wireFields h₂.wireFields := by
    rw [PairsAlike, wireFields, wireFields, List.forall₂_map_left_iff, List.forall₂_map_right_iff]
    exact h.imp fun _ _ he => ⟨he.1, congrArg Text.Utf8.encode he.2⟩
  obtain ⟨hr, hnames⟩ := rel_wireFault? h
  have hover : h₁.Overflows ↔ h₂.Overflows := by
    rw [Overflows, Overflows, h.size_eq, hnames]
  rw [toWire_eq, toWire_eq]
  by_cases ho : h₁.Overflows
  · rw [if_pos ho, if_pos (hover.1 ho)]
    exact .crash _
  · rw [if_neg ho, if_neg fun ho' => ho (hover.2 ho')]
    revert hr
    generalize wireFault? h₁.entries = x, wireFault? h₂.entries = y
    intro hr
    cases hr with
    | none => exact ofList_congr hfields ▸ .ok (.ofList h₁.wireFields)
    | some hf => exact .error hf

/-! ## Answers -/

/-- The lists answer alike, asked for names that differ at most in the case of letters. -/
structure SameAnswers (h h' : HeaderList) : Prop where
  get : ∀ n n', SameLetters n n' → h.get? n = h'.get? n'
  getAll : ∀ n n', SameLetters n n' → h.getAll n = h'.getAll n'
  contains : ∀ n n', SameLetters n n' → h.contains n = h'.contains n'
  removed : ∀ n n', SameLetters n n' → (h.remove n).1 = (h'.remove n').1
  size : h.size = h'.size
  contentLength : h.contentLength? = h'.contentLength?
  wire : SameWire h.toWire h'.toWire

theorem Alike.sameAnswers (h : Alike h₁ h₂) : SameAnswers h₁ h₂ := by
  have hget {n n' : String} (hn : SameLetters n n') : h₁.get? n = h₂.get? n' := by
    rw [get?_eq_head?, get?_eq_head?, h.getAll_eq hn]
  refine ⟨fun _ _ => hget, fun _ _ => h.getAll_eq, fun n n' hn => ?_, fun n n' hn => ?_, h.size_eq,
    ?_, h.sameWire⟩
  · rw [Bool.eq_iff_iff, ← not_iff_not, Bool.not_eq_true, Bool.not_eq_true, contains_eq_false_iff,
      contains_eq_false_iff, h.getAll_eq hn]
  · rw [remove_fst, remove_fst, h.getAll_eq hn]
  · rw [contentLength?, contentLength?, hget (sameLetters_iff.2 rfl)]

/-- Names that do not have the same letters are different names: what is found, replaced, removed and
sent under a name are the entries whose names have its letters. -/
structure HeedsLetters (h : HeaderList) : Prop where
  getAll : ∀ name, h.getAll name = (h.entries.filter fun e => SameLetters e.1 name).map (·.2)
  get : ∀ name, h.get? name = (h.entries.find? fun e => SameLetters e.1 name).map (·.2)
  contains : ∀ name, h.contains name = true ↔ ∃ e ∈ h.entries, SameLetters e.1 name
  remove : ∀ name, (h.remove name).2.entries = h.entries.filter fun e => ¬ SameLetters e.1 name
  set : ∀ name value, ((h.set name value).entries.filter fun e => ¬ SameLetters e.1 name) =
    h.entries.filter fun e => ¬ SameLetters e.1 name
  wire : ∀ w, h.toWire = .ok w → ∀ name, w.getAll name =
    (h.entries.filter fun e => SameLetters e.1 name).map fun e => Text.Utf8.encode e.2

theorem heedsLetters (h : HeaderList) : h.HeedsLetters := by
  have hnamed (name : String) (e : String × String) :
      named name e = decide (SameLetters e.1 name) := by
    rw [Bool.eq_iff_iff, decide_eq_true_eq, named, sameName_iff]
  have hnot (name : String) (e : String × String) :
      (!named name e) = decide (¬ SameLetters e.1 name) := by
    rw [hnamed, ← decide_not]
  have hall (name : String) :
      h.getAll name = (h.entries.filter fun e => SameLetters e.1 name).map (·.2) := by
    rw [HeaderList.getAll, funext (hnamed name)]
  refine ⟨hall, fun name => ?get, fun name => ?contains, fun name => ?remove,
    fun name value => ?set, fun w hw name => ?wire⟩
  case get => rw [get?, funext (hnamed name)]
  case contains =>
    rw [HeaderList.contains, position?, List.findIdx?_isSome, List.any_eq_true]
    simp only [hnamed, decide_eq_true_eq]
  case remove =>
    show without name h.entries = _
    rw [without, funext (hnot name)]
  case set =>
    rw [← funext (hnot name)]
    exact filter_set (fun e he => congrArg not he) h value
  case wire => rw [(converts_toWire h).values w hw, hall, List.map_map]; rfl

/-! ## Runs of edits -/

theorem Alike.after {edits edits' : List Edit} (h : Alike h₁ h₂)
    (he : List.Forall₂ Edit.Alike edits edits') : (h₁.after edits).Alike (h₂.after edits') := by
  have hedits : edits.map Edit.folded = edits'.map Edit.folded := by
    rw [← List.forall₂_eq_eq_eq, List.forall₂_map_left_iff, List.forall₂_map_right_iff]
    exact he.imp fun _ _ => Edit.Alike.folded_eq
  rw [alike_iff, folded_after, folded_after, alike_iff.1 h, hedits]

/-- **Letter case never matters.** Lists that are alike stay so after any edits that are alike, and at
every moment answer alike. Letters outside of ASCII are told apart. -/
theorem caseless_after {edits edits' : List Edit} (h : Alike h₁ h₂)
    (he : List.Forall₂ Edit.Alike edits edits') :
    (h₁.after edits).Alike (h₂.after edits') ∧
      SameAnswers (h₁.after edits) (h₂.after edits') ∧ (h₁.after edits).HeedsLetters :=
  ⟨h.after he, (h.after he).sameAnswers, heedsLetters _⟩

/-- Two values of one name, in letters of either case, and one of a name that is not ASCII. -/
def spelled (first second : String) : HeaderList := ⟨[(first, "a"), ("É", "b"), (second, "c")]⟩

/-- One name that is there and one that is not, since letters outside of ASCII are not folded. -/
def respelled (name : String) : List Edit := [.set name "d", .add "é" "e"]

theorem caseless_respelled :
    (spelled "Accept" "ACCEPT").Alike (spelled "aCCEPT" "accept") ∧
    List.Forall₂ Edit.Alike (respelled "accept") (respelled "Accept") ∧
    ((spelled "Accept" "ACCEPT").after (respelled "accept")).Alike
      ((spelled "aCCEPT" "accept").after (respelled "Accept")) ∧
    SameAnswers ((spelled "Accept" "ACCEPT").after (respelled "accept"))
      ((spelled "aCCEPT" "accept").after (respelled "Accept")) ∧
    ((spelled "Accept" "ACCEPT").after (respelled "accept")).HeedsLetters := by
  have h : (spelled "Accept" "ACCEPT").Alike (spelled "aCCEPT" "accept") :=
    .cons ⟨by decide +kernel, rfl⟩ (.cons ⟨by decide +kernel, rfl⟩
      (.cons ⟨by decide +kernel, rfl⟩ .nil))
  have he : List.Forall₂ Edit.Alike (respelled "accept") (respelled "Accept") :=
    .cons (.set (by decide +kernel) "d") (.cons (.add (by decide +kernel) "e") .nil)
  exact ⟨h, he, caseless_after h he⟩

end HeaderList

end Refetch
