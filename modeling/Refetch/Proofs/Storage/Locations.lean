import Mathlib.Data.List.DropRight
import Mathlib.Tactic
import Refetch.Storage.FileSystem
/-!
# Locations of paths

1. A location holds at most one node; putting and removing a node is felt there alone.
2. A walk that succeeds ends where its names lead by themselves (`walk_eq_follow`), whatever the
   directories are. So a path has one location (`locate`) in all file systems with the same current
   directory, and every call that gets through works on that location.
3. A path that can be placed stays so while directories stay (`place_mono`).
4. What is written after a path goes to its last name (`splitNames_append`).
-/

namespace Refetch.Storage

/-! ## Names with a suffix -/

/-- The last name of a text that was split. -/
def lastName (cs : List Char) : List String := if cs.isEmpty then [] else [String.ofList cs]

theorem splitNames_of_no_slash {cs : List Char} (h : '/' ∉ cs) (acc : List Char) :
    splitNames acc cs = lastName (acc.reverse ++ cs) := by
  induction cs generalizing acc with
  | nil => cases acc <;> simp [splitNames, lastName]
  | cons c cs ih =>
    rw [List.mem_cons, not_or] at h
    rw [splitNames, if_neg (Ne.symm h.1), ih h.2]
    simp

/-- What is written after a text goes to its last name. -/
theorem splitNames_append (acc cs : List Char) : ∃ names last, ∀ xs, '/' ∉ xs →
    splitNames acc (cs ++ xs) = names ++ lastName (last ++ xs) := by
  induction cs generalizing acc with
  | nil => exact ⟨[], acc.reverse, fun xs hx => splitNames_of_no_slash hx acc⟩
  | cons c cs ih =>
    simp only [List.cons_append, splitNames]
    by_cases hc : c = '/'
    · obtain ⟨names, last, h⟩ := ih []
      by_cases ha : acc.isEmpty
      · exact ⟨names, last, fun xs hx => by rw [if_pos hc, if_pos ha, h xs hx]⟩
      · exact ⟨String.ofList acc.reverse :: names, last, fun xs hx => by
          rw [if_pos hc, if_neg ha, h xs hx]; rfl⟩
    · obtain ⟨names, last, h⟩ := ih (c :: acc)
      exact ⟨names, last, fun xs hx => by rw [if_neg hc, h xs hx]⟩

/-- A slash ends a name. -/
theorem splitNames_slash (acc cs xs : List Char) :
    splitNames acc (cs ++ '/' :: xs) = splitNames acc cs ++ splitNames [] xs := by
  induction cs generalizing acc with
  | nil =>
    simp only [List.nil_append, splitNames, if_true]
    split <;> rfl
  | cons c cs ih =>
    simp only [List.cons_append, splitNames, ih]
    split
    · split <;> rfl
    · rfl

/-- The path of a name in the directory that a path names. -/
def Path.child (p : Path) (name : String) : Path := ⟨p.absolute, p.names ++ [name], false⟩

/-- What is written before a name that is joined to a directory leads to the directory. It is nothing
or ends in a slash. -/
theorem Path.join_eq (directory name : String) : ∃ front : List Char,
    (join directory name).toList = front ++ name.toList ∧ (front = [] ∨ ∃ cs, front = cs ++ ['/']) ∧
      splitNames [] front = (ofText directory).names ∧
      (front.head? == some '/') = (ofText directory).absolute := by
  unfold join
  split
  · rename_i hd
    refine ⟨directory.toList, String.toList_append, hd.imp (fun h => ?_) fun h => ?_, rfl, rfl⟩
    · simpa using h
    · exact List.getLast?_eq_some_iff.1 h
  · rename_i hd
    have hd : directory.toList ≠ [] := fun h => hd (.inl (by simpa using h))
    refine ⟨directory.toList ++ ['/'], by simp, .inr ⟨_, rfl⟩, ?_, ?_⟩
    · rw [splitNames_slash]
      exact List.append_nil _
    · rw [List.head?_append_of_ne_nil _ hd]
      rfl

/-- **A name without a slash** that is joined to a directory is one name more. -/
theorem Path.ofText_join {name : String} (hne : name ≠ "") (hs : '/' ∉ name.toList)
    (directory : String) : ofText (join directory name) = (ofText directory).child name := by
  obtain ⟨front, htext, hfront, hnames, habs⟩ := join_eq directory name
  have hn : name.toList ≠ [] := by simpa using hne
  have hlast : splitNames [] name.toList = [name] := by
    rw [splitNames_of_no_slash hs, lastName, if_neg (by simpa using hn)]
    simp
  have hslash : ((front ++ name.toList).getLast? == some '/') = false := by
    rw [List.getLast?_append_of_ne_nil _ hn, beq_eq_false_iff_ne]
    exact fun h => hs (List.mem_of_getLast? h)
  rw [ofText, htext, hslash, child, ← hnames, ← habs]
  rcases hfront with rfl | ⟨cs, rfl⟩
  · have hh : (name.toList.head? == some '/') = false := by
      rw [beq_eq_false_iff_ne]
      exact fun h => hs (List.mem_of_head? h)
    simp [hlast, hh, splitNames]
  · rw [List.append_assoc, List.singleton_append, splitNames_slash, hlast, splitNames_slash]
    simp [splitNames]

/-- What is written after a joined name is written after the name. -/
theorem Path.join_append (directory name extension : String) :
    join directory name ++ extension = join directory (name ++ extension) := by
  unfold join
  split
  · rw [String.append_assoc]
  · rw [String.append_assoc]

/-- What is written after the text of a path goes to its last name, if it has one. -/
theorem Path.ofText_append (text ext : String) (hs : '/' ∉ ext.toList) (hne : ext ≠ "") :
    ∃ names last, (ofText text).names = names ++ lastName last ∧
      (ofText (text ++ ext)).names = names ++ [String.ofList (last ++ ext.toList)] ∧
      (ofText (text ++ ext)).absolute = (ofText text).absolute := by
  obtain ⟨names, last, h⟩ := splitNames_append [] text.toList
  have hl : ext.toList ≠ [] := by simpa using hne
  refine ⟨names, last, ?_, ?_, ?_⟩
  · have ht := h [] (by simp)
    rwa [List.append_nil, List.append_nil] at ht
  · simp only [ofText, String.toList_append]
    rw [h _ hs, lastName, if_neg (by simp [hl])]
  · simp only [ofText, String.toList_append]
    cases text.toList with
    | nil =>
      have hh : (ext.toList.head? == some '/') = false := by
        rw [beq_eq_false_iff_ne]
        exact fun h => hs (List.mem_of_head? h)
      simp [hh]
    | cons c cs => rfl

/-! ## File names -/

/-- The name of the file that a path is about. Dots at the end of the path do not count. -/
def Path.fileName? (p : Path) : Option String :=
  match (dropDots p.names).getLast? with
  | none | some "." | some ".." => none
  | some n => some n

/-- The names of a path end in dots that do not count. -/
theorem Path.dropDots_append (names : List String) :
    ∃ dots, (∀ d ∈ dots, d = ".") ∧ names = dropDots names ++ dots := by
  cases names with
  | nil => exact ⟨[], by simp, rfl⟩
  | cons n rest =>
    refine ⟨rest.rtakeWhile (· == "."), fun d hd => ?_, ?_⟩
    · simpa using List.mem_rtakeWhile_imp hd
    · show n :: rest = n :: (rest.rdropWhile (· == ".") ++ rest.rtakeWhile (· == "."))
      rw [List.rdropWhile_append_rtakeWhile]

theorem Path.dropDots_of_getLast? {names : List String} {n : String}
    (hn : names.getLast? = some n) (h : n ≠ ".") : dropDots names = names := by
  obtain ⟨dots, hdots, he⟩ := dropDots_append names
  rcases List.eq_nil_or_concat dots with rfl | ⟨dots, d, rfl⟩
  · rw [List.append_nil] at he
    exact he.symm
  · rw [he, List.concat_eq_append, ← List.append_assoc, List.getLast?_concat] at hn
    have hd := hdots d (by simp)
    exact absurd ((Option.some.inj hn).symm.trans hd) h

theorem Path.fileName?_of_getLast? {p : Path} {n : String} (hn : p.names.getLast? = some n)
    (h1 : n ≠ ".") (h2 : n ≠ "..") : p.fileName? = some n := by
  rw [fileName?, dropDots_of_getLast? hn h1, hn]
  split <;> simp_all

theorem Path.fileName?_eq_some {p : Path} {n : String} (h : p.fileName? = some n) :
    n ≠ "." ∧ n ≠ ".." ∧ (dropDots p.names).getLast? = some n := by
  unfold fileName? at h
  split at h
  · cases h
  · cases h
  · cases h
  · rename_i m hd hu hn
    cases h
    exact ⟨hd, hu, hn⟩

theorem Path.names_of_fileName? {p : Path} {n : String} (h : p.fileName? = some n) :
    ∃ dots, (∀ d ∈ dots, d = ".") ∧ p.names = (dropDots p.names).dropLast ++ [n] ++ dots := by
  obtain ⟨dots, hdots, hnames⟩ := dropDots_append p.names
  have hn := (fileName?_eq_some h).2.2
  have hlast := List.dropLast_append_getLast? n (by simpa using hn)
  exact ⟨dots, hdots, hlast.symm ▸ hnames⟩

/-- The directory of a path is the path without its last name, or the current one. -/
theorem Path.directory_eq {p : Path} {n : String} (hn : (dropDots p.names).getLast? = some n) :
    p.directory = ⟨p.absolute, (dropDots p.names).dropLast, false⟩ ∨
      p.directory = here ∧ p.absolute = false ∧ (dropDots p.names).dropLast = [] := by
  have hp : p.parent? = some ⟨p.absolute, (dropDots p.names).dropLast, false⟩ := by
    unfold parent?
    cases hns : dropDots p.names with
    | nil => simp [hns] at hn
    | cons m rest => rfl
  unfold directory
  rw [hp]
  dsimp only
  split
  · rename_i he
    exact .inr (by simpa [isEmpty] using he)
  · exact .inl rfl

namespace FileSystem

variable {fs fs' : FileSystem} {loc l : Location} {node : Node}

/-! ## Nodes -/

theorem lookup_filter_ne (nodes : List (Location × Node)) (loc l : Location) :
    (nodes.filter (·.1 != loc)).lookup l = if l = loc then none else nodes.lookup l := by
  induction nodes with
  | nil => simp
  | cons e nodes ih =>
    obtain ⟨k, n⟩ := e
    rw [List.filter_cons, List.lookup_cons]
    by_cases hk : k = loc
    · subst hk
      rw [if_neg (by simp), ih]
      by_cases hl : l = k
      · rw [if_pos hl, if_pos hl]
      · rw [if_neg hl, if_neg hl, beq_false_of_ne hl]
    · by_cases hl : l = k
      · subst hl
        simp [hk]
      · simp [hk, List.lookup_cons, beq_false_of_ne hl, ih]

@[simp] theorem lookup_root (fs : FileSystem) : fs.lookup [] = some .directory := rfl

theorem lookup_insert (fs : FileSystem) (hl : loc ≠ []) (node : Node) (l : Location) :
    (fs.insert loc node).lookup l = if l = loc then some node else fs.lookup l := by
  unfold lookup insert
  rw [List.lookup_cons, lookup_filter_ne]
  by_cases h : l = loc
  · subst h
    simp [hl]
  · simp [h, beq_false_of_ne h]

theorem lookup_erase (fs : FileSystem) (hl : loc ≠ []) (l : Location) :
    (fs.erase loc).lookup l = if l = loc then none else fs.lookup l := by
  unfold lookup erase
  rw [lookup_filter_ne]
  by_cases h : l = loc
  · subst h
    simp [hl]
  · simp [h]

/-- The content and the time of the file at a location, if there is one. -/
def fileAt (fs : FileSystem) (loc : Location) : Option (Bytes × Timestamp) :=
  match fs.lookup loc with
  | some (.file data t) => some (data, t)
  | _ => none

theorem fileAt_eq_some_iff {data : Bytes} {t : Timestamp} :
    fs.fileAt loc = some (data, t) ↔ fs.lookup loc = some (.file data t) := by
  unfold fileAt
  split <;> simp_all

theorem fileAt_of_lookup_eq (h : fs'.lookup l = fs.lookup l) : fs'.fileAt l = fs.fileAt l := by
  rw [fileAt, h, fileAt]

theorem fileAt_of_none (h : fs.lookup l = none) : fs.fileAt l = none := by
  rw [fileAt, h]

theorem fileAt_of_directory (h : fs.lookup l = some .directory) : fs.fileAt l = none := by
  rw [fileAt, h]

end FileSystem

/-! ## Walks -/

theorem follow_append (loc : Location) (ns ms : List String) :
    follow loc (ns ++ ms) = follow (follow loc ns) ms := by
  induction ns generalizing loc with
  | nil => rfl
  | cons n ns ih =>
    rw [List.cons_append, follow, follow]
    split
    · exact ih loc
    · split
      · exact ih _
      · exact ih _

theorem follow_singleton {loc : Location} {n : String} (hd : n ≠ ".") (hu : n ≠ "..") :
    follow loc [n] = loc ++ [n] := by
  simp [follow, hd, hu]

theorem follow_dots {dots : List String} (h : ∀ d ∈ dots, d = ".") (loc : Location) :
    follow loc dots = loc := by
  induction dots with
  | nil => rfl
  | cons d dots ih =>
    rw [follow, if_pos (h d (List.mem_cons_self ..))]
    exact ih fun d hd => h d (List.mem_cons_of_mem _ hd)

theorem follow_plain {names : List String} (h : Plain names) (loc : Location) :
    follow loc names = loc ++ names := by
  induction names generalizing loc with
  | nil => simp [follow]
  | cons n names ih =>
    simp only [Plain, List.mem_cons, not_or] at h
    rw [follow, if_neg (Ne.symm h.1.1), if_neg (Ne.symm h.2.1), ih ⟨h.1.2, h.2.2⟩]
    simp

theorem plain_dropLast {loc : Location} (h : Plain loc) : Plain loc.dropLast :=
  ⟨fun hm => h.1 (List.mem_of_mem_dropLast hm), fun hm => h.2 (List.mem_of_mem_dropLast hm)⟩

theorem plain_concat {loc : Location} {n : String} (h : Plain loc) (hd : n ≠ ".") (hu : n ≠ "..") :
    Plain (loc ++ [n]) := by
  simp only [Plain, List.mem_append, List.mem_singleton, not_or]
  exact ⟨⟨h.1, hd.symm⟩, h.2, hu.symm⟩

/-- The dots of a path do not get into its location. -/
theorem plain_follow {loc : Location} (h : Plain loc) (names : List String) :
    Plain (follow loc names) := by
  induction names generalizing loc with
  | nil => exact h
  | cons n names ih =>
    rw [follow]
    split
    · exact ih h
    · split
      · exact ih (plain_dropLast h)
      · exact ih (plain_concat h ‹_› ‹_›)

namespace FileSystem

variable {fs fs' : FileSystem} {loc l : Location} {node : Node} {p : Path}

/-- **A walk that succeeds** ends where the names lead. -/
theorem walk_eq_follow {names : List String} (h : fs.walk loc names = .ok l) :
    l = follow loc names := by
  induction names generalizing loc with
  | nil =>
    cases h
    rfl
  | cons n names ih =>
    rw [walk] at h
    rw [follow]
    split at h
    · cases h
    · cases h
    · split at h
      · rw [if_pos ‹_›]
        exact ih h
      · rw [if_neg ‹_›]
        split at h
        · rw [if_pos ‹_›]
          exact ih h
        · rw [if_neg ‹_›]
          split at h
          · cases h
          · exact ih h

theorem plain_locate (fs : FileSystem) (p : Path) : Plain (fs.locate p) := by
  refine plain_follow ?_ _
  unfold start
  split
  · exact ⟨List.not_mem_nil, List.not_mem_nil⟩
  · exact fs.plain

theorem locate_congr (h : fs'.current = fs.current) (p : Path) : fs'.locate p = fs.locate p := by
  simp only [locate, start, h]

theorem locate_child (fs : FileSystem) (p : Path) {name : String} (hd : name ≠ ".")
    (hu : name ≠ "..") : fs.locate (p.child name) = fs.locate p ++ [name] := by
  show follow (fs.start p) (p.names ++ [name]) = _
  rw [follow_append, follow_singleton hd hu]
  rfl

/-- **A path with a file name** leads to that name in its directory. -/
theorem locate_of_fileName? {n : String} (h : p.fileName? = some n) :
    fs.locate p = fs.locate p.directory ++ [n] := by
  obtain ⟨h1, h2, hn⟩ := Path.fileName?_eq_some h
  obtain ⟨dots, hdots, hnames⟩ := Path.names_of_fileName? h
  have hp : fs.locate p = follow (fs.start p) (Path.dropDots p.names).dropLast ++ [n] := by
    have hloc := congrArg (follow (fs.start p)) hnames
    rwa [follow_append, follow_dots hdots, follow_append, follow_singleton h1 h2] at hloc
  rw [hp]
  rcases Path.directory_eq hn with h | ⟨h, ha, hd⟩
  · rw [h]
    rfl
  · rw [h, hd]
    simp [locate, start, Path.here, ha, follow]

theorem locate_ofLocation (h : Plain loc) : fs.locate (.ofLocation loc) = loc := by
  simp [locate, start, Path.ofLocation, follow_plain h]

theorem resolve_eq_ok (h : fs.resolve p = .ok (l, node)) :
    l = fs.locate p ∧ fs.lookup l = some node := by
  unfold resolve at h
  split at h
  · cases h
  · split at h
    · cases h
    · have hw := walk_eq_follow ‹_›
      split at h
      · cases h
      · split at h <;> cases h
        exact ⟨hw, ‹_›⟩
      · cases h
        exact ⟨hw, ‹_›⟩

theorem walk_append {names names' : List String} (h : fs.walk loc names = .ok l) :
    fs.walk loc (names ++ names') = fs.walk l names' := by
  induction names generalizing loc with
  | nil =>
    cases h
    rfl
  | cons n names ih =>
    rw [walk] at h
    rw [List.cons_append, walk]
    split at h
    · cases h
    · cases h
    · split at h
      · rw [if_pos ‹_›]
        exact ih h
      · rw [if_neg ‹_›]
        split at h
        · rw [if_pos ‹_›]
          exact ih h
        · rw [if_neg ‹_›]
          split at h
          · cases h
          · rw [if_neg ‹_›]
            exact ih h

/-- What it takes to place a path: its text is fine, and so are the directory and the last name. -/
theorem place_eq_entry_iff {dir : Location} {n : String} :
    fs.place p = .ok (.entry dir n) ↔
      textFault? p = none ∧ fs.walk (fs.start p) p.names.dropLast = .ok dir ∧
        fs.lookup dir = some .directory ∧ p.names.getLast? = some n ∧ n ≠ "." ∧ n ≠ ".." ∧
        nameSize n ≤ nameLimit := by
  unfold place
  constructor
  · intro h
    split at h
    · cases h
    · split at h
      · cases h
      · split at h
        · cases h
        · cases h
        · split at h
          · cases h
          · cases h
          · cases h
          · rename_i hd hu hn
            split at h <;> cases h
            exact ⟨‹_›, ‹_›, ‹_›, hn, hd, hu, Nat.le_of_not_lt ‹_›⟩
  · rintro ⟨ht, hw, hd, hn, h1, h2, hl⟩
    simp only [ht, hw, hd, hn]
    split <;> simp_all [Nat.not_lt.2 hl]

theorem names_of_getLast? {names : List String} {n : String} (h : names.getLast? = some n) :
    names = names.dropLast ++ [n] :=
  (List.dropLast_append_getLast? n (by simpa using h)).symm

theorem place_eq_entry {dir : Location} {n : String} (h : fs.place p = .ok (.entry dir n)) :
    dir ++ [n] = fs.locate p := by
  obtain ⟨-, hw, -, hn, h1, h2, -⟩ := place_eq_entry_iff.1 h
  rw [locate, names_of_getLast? hn, follow_append, ← walk_eq_follow hw, follow_singleton h1 h2]

/-- The path names a file, or the place for one, in a directory that is there. -/
def Placed (fs : FileSystem) (p : Path) : Prop :=
  p.slash = false ∧ ∃ dir n, fs.place p = .ok (.entry dir n)

/-- **A path that can be placed** leads to the file that is there. -/
theorem Placed.resolve (h : fs.Placed p) {data : Bytes} {t : Timestamp}
    (hf : fs.fileAt (fs.locate p) = some (data, t)) :
    fs.resolve p = .ok (fs.locate p, .file data t) := by
  obtain ⟨hs, dir, n, h⟩ := h
  obtain ⟨ht, hw, hd, hn, h1, h2, hl⟩ := place_eq_entry_iff.1 h
  have hw' : fs.walk (fs.start p) p.names = .ok (fs.locate p) := by
    rw [names_of_getLast? hn, walk_append hw, walk, hd, ← place_eq_entry h]
    simp [h1, h2, Nat.not_lt.2 hl, walk]
  unfold FileSystem.resolve
  simp [ht, hw', fileAt_eq_some_iff.1 hf, hs, hn, h1]

/-- Walks go on as before while directories stay. -/
theorem walk_mono (hd : ∀ l, fs.lookup l = some .directory → fs'.lookup l = some .directory)
    {names : List String} (h : fs.walk loc names = .ok l) : fs'.walk loc names = .ok l := by
  induction names generalizing loc with
  | nil => exact h
  | cons n names ih =>
    rw [walk] at h ⊢
    split at h
    · cases h
    · cases h
    · rename_i hl
      rw [hd _ hl]
      dsimp only
      split at h
      · rw [if_pos ‹_›]
        exact ih h
      · rw [if_neg ‹_›]
        split at h
        · rw [if_pos ‹_›]
          exact ih h
        · rw [if_neg ‹_›]
          split at h
          · cases h
          · rw [if_neg ‹_›]
            exact ih h

/-- **A path that can be placed** can still be placed while directories stay. -/
theorem place_mono (hd : ∀ l, fs.lookup l = some .directory → fs'.lookup l = some .directory)
    (hc : fs'.current = fs.current) {x : Place} (h : fs.place p = .ok x) :
    fs'.place p = .ok x := by
  have hs : fs'.start p = fs.start p := by rw [start, hc, start]
  unfold place at h ⊢
  rw [hs]
  split at h
  · cases h
  · split at h
    · cases h
    · rename_i hw
      rw [walk_mono hd hw]
      dsimp only
      split at h
      · cases h
      · cases h
      · rename_i hl
        rw [hd _ hl]
        exact h

end FileSystem

end Refetch.Storage
