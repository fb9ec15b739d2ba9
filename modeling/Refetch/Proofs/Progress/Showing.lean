import Refetch.Progress.Console
import Refetch.Proofs.Progress.Templates
import Refetch.Proofs.Text.Letters
/-!
# When a display can be shown

The look of a display is text that a caller chose. A malformed template is as good as none. What
stops a display is a field that is too wide and characters that do not make up a bar: they have to be
two at least, and equally wide.

1. `Look.Refused` says what is wrong with a look, and which crash it comes to. The template is read
   first (`Look.layout_eq_error_iff`).
2. So a bar is there exactly if its look is not enabled or fits (`Look.exists_toBar_iff`), whatever
   the length, and a display starts with it (`Console.exists_start_iff`).
3. Visible characters of ASCII take one column each, so that two or more of them make up a bar
   (`fitsBar_of_plain`).
-/

namespace Refetch.Progress

open Text (charColumns IsPlain)
open Template (Overwide Malformed parse_tooWide_iff parse_malformed_iff)

variable {l : Look} {length : Option Nat} {crash : Crash} {text t : String}

/-! ## What does not fit -/

/-- The characters make up a bar. -/
structure FitsBar (text : String) : Prop where
  two : 2 ≤ text.length
  even : ∃ n, ∀ c ∈ text.toList, charColumns c = n

/-- Why the characters do not make up a bar. -/
inductive Unfit (text : String) : Crash → Prop
  | few (h : text.length < 2) : Unfit text .tooFewBarCharacters
  | uneven (h : 2 ≤ text.length)
    (hn : ¬ ∃ n, ∀ c ∈ text.toList, charColumns c = n) : Unfit text .unevenBarCharacters

theorem fitsBar_iff : FitsBar text ↔ ∀ crash, ¬ Unfit text crash := by
  constructor
  · rintro h crash (hf | ⟨-, hn⟩)
    · exact absurd h.two (Nat.not_le.2 hf)
    · exact hn h.even
  · intro h
    have htwo : 2 ≤ text.length := Nat.le_of_not_lt fun hf => h _ (.few hf)
    exact ⟨htwo, by_contra fun hn => h _ (.uneven htwo hn)⟩

namespace Look

/-- The look can be shown. -/
structure Fits (l : Look) : Prop where
  template : ∀ t, l.template = some t → ¬ Overwide t.toList
  characters : ∀ t, l.characters = some t → FitsBar t

/-- What is wrong with a look. -/
inductive Refused (l : Look) : Crash → Prop
  | template {t : String} (ht : l.template = some t) (h : Overwide t.toList) :
    Refused l .fieldTooWide
  | characters {t : String} {crash : Crash}
    (hw : ∀ t, l.template = some t → ¬ Overwide t.toList) (ht : l.characters = some t)
    (h : Unfit t crash) : Refused l crash

theorem fits_iff : l.Fits ↔ ∀ crash, ¬ l.Refused crash := by
  constructor
  · rintro h crash (⟨ht, hw⟩ | ⟨-, ht, hu⟩)
    · exact h.template _ ht hw
    · exact fitsBar_iff.1 (h.characters _ ht) _ hu
  · intro h
    have hw : ∀ t, l.template = some t → ¬ Overwide t.toList := fun t ht ho =>
      h _ (.template ht ho)
    exact ⟨hw, fun t ht => fitsBar_iff.2 fun crash hu => h _ (.characters hw ht hu)⟩

end Look

/-! ## Layouts -/

theorem evenCell?_eq_none_iff {cs : List Char} (hcs : cs ≠ []) :
    evenCell? cs = none ↔ ¬ ∃ n, ∀ c ∈ cs, charColumns c = n := by
  obtain ⟨c, rest, rfl⟩ := List.exists_cons_of_ne_nil hcs
  simp only [evenCell?, List.forall_mem_cons, exists_eq_left', ite_eq_right_iff, reduceCtorEq,
    imp_false, List.all_eq_true, beq_iff_eq]

theorem readCharacters_eq_error_iff : readCharacters text = .error crash ↔ Unfit text crash := by
  unfold readCharacters
  split_ifs with hf
  · constructor
    · rintro ⟨⟩
      exact .few hf
    · rintro (_ | ⟨h, -⟩)
      · rfl
      · exact absurd hf (Nat.not_lt.2 h)
  · have htwo := Nat.le_of_not_lt hf
    have hne : text.toList ≠ [] := fun he => by
      rw [← String.length_toList, he] at htwo
      exact absurd htwo (by decide)
    cases he : evenCell? text.toList with
    | none =>
      constructor
      · rintro ⟨⟩
        exact .uneven htwo ((evenCell?_eq_none_iff hne).1 he)
      · rintro (h | _)
        · exact absurd h hf
        · rfl
    | some n =>
      refine ⟨nofun, ?_⟩
      rintro (h | ⟨-, hn⟩)
      · exact absurd h hf
      · rw [(evenCell?_eq_none_iff hne).2 hn] at he
        cases he

/-- The width of a cell is that of the characters. -/
theorem columns_of_readCharacters {cs : List Char} {n : Nat}
    (h : readCharacters text = .ok (cs, n)) : ∀ c ∈ text.toList, charColumns c = n := by
  unfold readCharacters at h
  split_ifs at h
  cases hcs : text.toList with
  | nil => simp
  | cons c rest =>
    rw [hcs, evenCell?] at h
    split_ifs at h with he
    simp only [Except.ok.injEq, Prod.mk.injEq] at h
    simpa [← h.2] using he

theorem readTemplate_eq_error_iff {o : Option String} : readTemplate o = .error crash ↔
    crash = .fieldTooWide ∧ ∃ t, o = some t ∧ Overwide t.toList := by
  cases o with
  | none => simp [readTemplate]
  | some t =>
    simp only [readTemplate, Option.some.injEq, exists_eq_left', ← parse_tooWide_iff]
    cases Template.parse t with
    | ok u => simp
    | error fault => cases fault <;> simp [eq_comm]

/-- **A malformed template is as good as none.** -/
theorem readTemplate_of_malformed (h : Malformed t.toList) :
    readTemplate (some t) = readTemplate none := by
  simp only [readTemplate, parse_malformed_iff.2 h]

namespace Look

theorem layout_eq_error_iff : l.layout = .error crash ↔ l.Refused crash := by
  unfold layout
  cases ht : readTemplate l.template with
  | error x =>
    obtain ⟨rfl, t, ht, ho⟩ := readTemplate_eq_error_iff.1 ht
    constructor
    · rintro ⟨⟩
      exact .template ht ho
    · rintro (_ | ⟨hw, -, -⟩)
      · rfl
      · exact absurd ho (hw t ht)
  | ok template =>
    have hw : ∀ t, l.template = some t → ¬ Overwide t.toList := fun t hl ho => by
      rw [readTemplate_eq_error_iff.2 ⟨rfl, t, hl, ho⟩] at ht
      cases ht
    cases hc : l.characters with
    | none =>
      refine ⟨nofun, ?_⟩
      rintro (⟨ht, ho⟩ | ⟨-, ht, -⟩)
      · exact absurd ho (hw _ ht)
      · cases hc.symm.trans ht
    | some text =>
      have hread : l.Refused crash ↔ readCharacters text = .error crash := by
        rw [readCharacters_eq_error_iff]
        constructor
        · rintro (⟨ht, ho⟩ | ⟨-, ht, hu⟩)
          · exact absurd ho (hw _ ht)
          · cases hc.symm.trans ht
            exact hu
        · exact .characters hw hc
      rw [hread]
      cases hr : readCharacters text <;> simp [hr]

theorem layout_of_malformed (ht : l.template = some t) (h : Malformed t.toList) :
    l.layout = { l with template := none }.layout := by
  rw [layout, ht, readTemplate_of_malformed h]
  rfl

/-- Cells are flat if all of the characters are. -/
theorem flat_of_layout {y : Layout} (h : l.layout = .ok y) (hy : y.cell = 0) :
    ∃ t, l.characters = some t ∧ ∀ c ∈ t.toList, charColumns c = 0 := by
  unfold layout at h
  split at h
  · cases h
  · split at h
    · cases h
      cases hy
    · rename_i text hc
      split at h
      · cases h
      · cases h
        exact ⟨text, hc, hy ▸ columns_of_readCharacters ‹_›⟩

/-! ## Bars -/

theorem toBar_eq_error_iff :
    l.toBar length = .error crash ↔ l.enabled = true ∧ l.Refused crash := by
  rw [← layout_eq_error_iff, toBar]
  split_ifs with he
  · cases l.layout <;> simp [he]
  · simp [he]

/-- **A bar is there** if its look is not enabled or fits, and in no other case. -/
theorem exists_toBar_iff :
    (∃ b, l.toBar length = .ok b) ↔ (l.enabled = true → l.Fits) := by
  rw [fits_iff]
  cases h : l.toBar length with
  | ok b =>
    refine ⟨fun _ he crash hr => ?_, fun _ => ⟨b, rfl⟩⟩
    rw [toBar_eq_error_iff.2 ⟨he, hr⟩] at h
    cases h
  | error crash =>
    obtain ⟨he, hr⟩ := toBar_eq_error_iff.1 h
    exact ⟨nofun, fun hf => absurd hr (hf he crash)⟩

example : ∀ l ∈ [bar, spinner, defaults, hidden], (l.toBar none).isOk = true := by
  decide +kernel

theorem toBar_of_malformed (ht : l.template = some t) (h : Malformed t.toList)
    (length : Option Nat) : l.toBar length = { l with template := none }.toBar length := by
  rw [toBar, toBar, layout_of_malformed ht h]

/-- Drawing the bar of a look, wherever it stands, fails for flat characters alone. -/
theorem flat_of_draw {b b' : Bar} (h : l.toBar length = .ok b) (hb : b'.layout = b.layout)
    {width : Nat} (hd : b'.draw width = .error crash) :
    ∃ t, l.characters = some t ∧ ∀ c ∈ t.toList, charColumns c = 0 := by
  unfold Bar.draw at hd
  rw [hb] at hd
  unfold toBar at h
  split_ifs at h
  · cases hy : l.layout with
    | error x => simp [hy] at h
    | ok y =>
      simp only [hy, Except.ok.injEq] at h
      subst h
      dsimp only at hd
      split_ifs at hd with _ hflat
      exact flat_of_layout hy hflat.1
  · cases h
    cases hd

end Look

/-! ## Displays -/

namespace Console

variable {c : Console}

/-- A display starts with the bar of its look. -/
theorem start_eq (c : Console) (length : Option Nat) : c.start length =
    ((c.style.forLength length).toBar length).map fun b =>
      { c with bar := some (b.setMessage c.message, (c.style.forLength length).clear) } := by
  unfold start
  dsimp only
  cases (c.style.forLength length).toBar length <;> rfl

theorem start_eq_error_iff : c.start length = .error crash ↔
    (c.style.forLength length).toBar length = .error crash := by
  rw [start_eq]
  cases (c.style.forLength length).toBar length <;> simp [Except.map]

theorem exists_start_iff : (∃ c', c.start length = .ok c') ↔
    ∃ b, (c.style.forLength length).toBar length = .ok b := by
  rw [start_eq]
  cases (c.style.forLength length).toBar length <;> simp [Except.map]

end Console

/-! ## Visible characters of ASCII -/

theorem charColumns_of_plain {c : Char} (h : IsPlain c) : charColumns c = 1 := by
  rw [charColumns, if_pos h.2]

/-- **Visible characters of ASCII make up a bar**, if there are two. -/
theorem fitsBar_of_plain (h : ∀ c ∈ text.toList, IsPlain c) (htwo : 2 ≤ text.length) :
    FitsBar text :=
  ⟨htwo, 1, fun c hc => charColumns_of_plain (h c hc)⟩

end Refetch.Progress
