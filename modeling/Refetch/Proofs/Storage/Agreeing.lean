import Refetch.Proofs.Storage.Changes
/-!
# File systems that agree in part

1. A call looks at the locations on the way of its paths (`trail`) and nowhere else. On two file
   systems that agree there (`Agree`) it has the same answer and makes the same changes (`Alike`).
2. It also leaves all lookups alone but those of some files (`Touched`). Unlike `Changed`, this
   includes that no directory appears: a call that makes directories is looked at only where they
   all stand.
3. The number of a temporary file is the first one whose name is free, so that it is found alike
   where the names from `issued` on are (`Agree.freeNumber`), though the two file systems may hold
   different numbers of files.
-/

namespace Refetch.Storage

/-! ## Names of paths -/

theorem Path.dropDots_isPrefix (names : List String) : dropDots names <+: names := by
  obtain ⟨dots, -, h⟩ := dropDots_append names
  exact ⟨dots, h.symm⟩

theorem Path.names_parent? {p q : Path} (h : p.parent? = some q) :
    q.absolute = p.absolute ∧ q.names <+: p.names := by
  have hd := dropDots_isPrefix p.names
  unfold parent? at h
  split at h
  · cases h
  · rename_i n rest hn
    cases h
    have hl := List.dropLast_prefix (n :: rest)
    exact ⟨rfl, hl.trans (hn ▸ hd)⟩

/-! ## Trails -/

/-- The locations that a walk along names comes to. -/
def trail : Location → List String → List Location
  | loc, [] => [loc]
  | loc, n :: rest => loc :: trail (follow loc [n]) rest

theorem follow_cons (loc : Location) (n : String) (names : List String) :
    follow loc (n :: names) = follow (follow loc [n]) names := follow_append loc [n] names

theorem mem_trail_self (loc : Location) (names : List String) : loc ∈ trail loc names := by
  cases names <;> simp [trail]

theorem follow_mem_trail (loc : Location) (names : List String) :
    follow loc names ∈ trail loc names := by
  induction names generalizing loc with
  | nil => exact mem_trail_self loc []
  | cons n names ih =>
    rw [follow_cons]
    exact List.mem_cons_of_mem _ (ih _)

theorem mem_trail_append {loc l : Location} {ns ms : List String} :
    l ∈ trail loc (ns ++ ms) ↔ l ∈ trail loc ns ∨ l ∈ trail (follow loc ns) ms := by
  induction ns generalizing loc with
  | nil =>
    simp only [List.nil_append, trail, List.mem_singleton, follow]
    exact ⟨.inr, fun h => h.elim (fun h => h ▸ mem_trail_self loc ms) id⟩
  | cons n ns ih =>
    rw [List.cons_append, follow_cons, trail, trail, List.mem_cons, List.mem_cons, ih, or_assoc]

theorem mem_trail_mono {loc l : Location} {ns ms : List String} (h : ns <+: ms)
    (hl : l ∈ trail loc ns) : l ∈ trail loc ms := by
  obtain ⟨rest, rfl⟩ := h
  exact mem_trail_append.2 (.inl hl)

theorem mem_trail_concat {loc l : Location} {ns : List String} {n : String} :
    l ∈ trail loc (ns ++ [n]) ↔ l ∈ trail loc ns ∨ l = follow loc (ns ++ [n]) := by
  rw [mem_trail_append, follow_append]
  simp only [trail, List.mem_cons, List.not_mem_nil, or_false]
  constructor
  · rintro (h | rfl | h)
    · exact .inl h
    · exact .inl (follow_mem_trail loc ns)
    · exact .inr h
  · rintro (h | h)
    · exact .inl h
    · exact .inr (.inr h)

theorem mem_trail_dots {loc l : Location} {dots : List String} (h : ∀ d ∈ dots, d = ".")
    (hl : l ∈ trail loc dots) : l = loc := by
  induction dots with
  | nil => exact List.mem_singleton.1 hl
  | cons d dots ih =>
    rw [trail, h d (List.mem_cons_self ..), List.mem_cons] at hl
    exact hl.elim id (ih fun d hd => h d (List.mem_cons_of_mem _ hd))

/-- The walk from the root to a location comes through the directories above it. -/
theorem above_of_mem_trail {loc l : Location} {names : List String} (h : Plain names)
    (hl : l ∈ trail loc names) : l <+: loc ++ names := by
  induction names generalizing loc with
  | nil =>
    rw [List.mem_singleton.1 hl, List.append_nil]
  | cons n names ih =>
    simp only [Plain, List.mem_cons, not_or] at h
    rw [trail, follow_singleton (Ne.symm h.1.1) (Ne.symm h.2.1), List.mem_cons] at hl
    rcases hl with rfl | hl
    · exact List.prefix_append _ _
    · simpa using ih ⟨h.1.2, h.2.2⟩ hl

namespace FileSystem

variable {fs fs' fs'' : FileSystem} {loc l : Location} {p q : Path} {data : Bytes}
  {t : Timestamp} {K W W' : Set Location}

/-- The locations on the way of a path. -/
def trail (fs : FileSystem) (p : Path) : List Location := Storage.trail (fs.start p) p.names

theorem locate_mem_trail (fs : FileSystem) (p : Path) : fs.locate p ∈ fs.trail p :=
  follow_mem_trail _ _

theorem trail_congr (h : fs'.current = fs.current) (p : Path) : fs'.trail p = fs.trail p := by
  simp only [trail, start, h]

/-- The way of a path with a file name is that of its directory, and the file. -/
theorem mem_trail_of_fileName? {n : String} (h : p.fileName? = some n) (hl : l ∈ fs.trail p) :
    l ∈ fs.trail p.directory ∨ l = fs.locate p := by
  have hdir : ∀ x ∈ Storage.trail (fs.start p) (Path.dropDots p.names).dropLast,
      x ∈ fs.trail p.directory := by
    intro x hx
    rcases Path.directory_eq (Path.fileName?_eq_some h).2.2 with hd | ⟨hd, ha, hnil⟩
    · rw [hd]
      exact hx
    · rw [hnil, start, ha] at hx
      rw [hd, List.mem_singleton.1 hx]
      exact mem_trail_self _ _
  obtain ⟨dots, hdots, hnames⟩ := Path.names_of_fileName? h
  have hloc : fs.locate p = follow (fs.start p) ((Path.dropDots p.names).dropLast ++ [n]) := by
    have hall := congrArg (follow (fs.start p)) hnames
    rwa [follow_append, follow_dots hdots] at hall
  rw [trail, hnames, mem_trail_append, mem_trail_concat] at hl
  rcases hl with (hl | hl) | hl
  · exact .inl (hdir l hl)
  · exact .inr (hl.trans hloc.symm)
  · exact .inr ((mem_trail_dots hdots hl).trans hloc.symm)

theorem walk_congr {names : List String}
    (h : ∀ l ∈ Storage.trail loc names, fs'.lookup l = fs.lookup l) :
    fs'.walk loc names = fs.walk loc names := by
  induction names generalizing loc with
  | nil => rfl
  | cons n names ih =>
    have hrest := fun l hl => h l (List.mem_cons_of_mem _ hl)
    rw [walk, walk, h loc (mem_trail_self _ _)]
    split
    · rfl
    · rfl
    · split
      · refine ih fun l hl => hrest l ?_
        rwa [‹n = "."›]
      · split
        · refine ih fun l hl => hrest l ?_
          rwa [‹n = ".."›]
        · split
          · rfl
          · refine ih fun l hl => hrest l ?_
            rwa [follow_singleton ‹_› ‹_›]

/-- A walk to a directory comes through directories. -/
theorem lookup_of_mem_trail {names : List String} (h : fs.walk loc names = .ok l)
    (hl : fs.lookup l = some .directory) {x : Location} (hx : x ∈ Storage.trail loc names) :
    fs.lookup x = some .directory := by
  induction names generalizing loc with
  | nil =>
    cases h
    rwa [List.mem_singleton.1 hx]
  | cons n names ih =>
    rw [walk] at h
    rw [Storage.trail, List.mem_cons] at hx
    split at h
    · cases h
    · cases h
    · rcases hx with rfl | hx
      · assumption
      · split at h
        · exact ih h (by rwa [‹n = "."›] at hx)
        · split at h
          · exact ih h (by rwa [‹n = ".."›] at hx)
          · split at h
            · cases h
            · exact ih h (by rwa [follow_singleton ‹_› ‹_›] at hx)

/-! ## Changes that are bounded -/

/-- Between two file systems nothing changed but some files, and no directory appeared or went. -/
structure Touched (W : Set Location) (fs fs' : FileSystem) : Prop where
  current : fs'.current = fs.current
  issued : fs.issued ≤ fs'.issued
  directories : ∀ l, fs.lookup l = some .directory → fs'.lookup l = some .directory
  elsewhere : ∀ l ∉ W, fs'.lookup l = fs.lookup l

namespace Touched

theorem refl (W : Set Location) (fs : FileSystem) : Touched W fs fs :=
  ⟨rfl, Nat.le_refl _, fun _ h => h, fun _ _ => rfl⟩

theorem tick (fs : FileSystem) : Touched W fs fs.tick :=
  ⟨rfl, Nat.le_refl _, fun _ h => h, fun _ _ => rfl⟩

theorem mono (h : Touched W fs fs') (hs : W ⊆ W') : Touched W' fs fs' :=
  ⟨h.current, h.issued, h.directories, fun l hl => h.elsewhere l fun hm => hl (hs hm)⟩

theorem trans (h : Touched W fs fs') (h' : Touched W fs' fs'') : Touched W fs fs'' :=
  ⟨h'.current.trans h.current, h.issued.trans h'.issued,
    fun l hl => h'.directories l (h.directories l hl),
    fun l hl => (h'.elsewhere l hl).trans (h.elsewhere l hl)⟩

theorem insert (h : fs.lookup loc ≠ some .directory) (data : Bytes) (t : Timestamp) :
    Touched {loc} fs (fs.insert loc (.file data t)) := by
  have hl := lookup_insert fs (ne_nil_of_lookup h) (.file data t)
  refine ⟨rfl, Nat.le_refl _, fun l hd => ?_, fun l hn => ?_⟩
  · rw [hl, if_neg (by rintro rfl; exact h hd), hd]
  · rw [hl, if_neg (by simpa using hn)]

theorem erase (h : fs.lookup loc ≠ some .directory) : Touched {loc} fs (fs.erase loc) := by
  have hl := lookup_erase fs (ne_nil_of_lookup h)
  refine ⟨rfl, Nat.le_refl _, fun l hd => ?_, fun l hn => ?_⟩
  · rw [hl, if_neg (by rintro rfl; exact h hd), hd]
  · rw [hl, if_neg (by simpa using hn)]

end Touched

/-! ## Agreement -/

/-- Two file systems are the same but for lookups elsewhere. -/
structure Agree (K : Set Location) (fs fs' : FileSystem) : Prop where
  current : fs'.current = fs.current
  clock : fs'.clock = fs.clock
  verdicts : fs'.verdicts = fs.verdicts
  issued : fs'.issued = fs.issued
  lookup : ∀ l ∈ K, fs'.lookup l = fs.lookup l

/-- The outcomes of a call on two file systems: one answer, the same changes in sight, and on the
first none but at some locations. -/
structure Alike {α : Type} (K W : Set Location) (fs : FileSystem) (r r' : α × FileSystem) :
    Prop where
  answer : r'.1 = r.1
  agree : Agree K r.2 r'.2
  touched : Touched W fs r.2

/-- The same of what a call tries. -/
inductive Tried {α : Type} (K W : Set Location) (fs : FileSystem) :
    Except IoError (α × FileSystem) → Except IoError (α × FileSystem) → Prop
  | error (e : IoError) : Tried K W fs (.error e) (.error e)
  | ok (a : α) {x x' : FileSystem} (agree : Agree K x x') (touched : Touched W fs x) :
    Tried K W fs (.ok (a, x)) (.ok (a, x'))

theorem Alike.mono {α : Type} {r r' : α × FileSystem} (h : Alike K W fs r r') (hs : W ⊆ W') :
    Alike K W' fs r r' := ⟨h.answer, h.agree, h.touched.mono hs⟩

/-- Both fail with one error, or both give one value. -/
theorem Alike.outcomes {α : Type} {r r' : Except IoError α × FileSystem} (h : Alike K W fs r r') :
    ∃ x x', Agree K x x' ∧ Touched W fs x ∧
      ((∃ e, r = (.error e, x) ∧ r' = (.error e, x')) ∨ ∃ a, r = (.ok a, x) ∧ r' = (.ok a, x')) := by
  obtain ⟨o, x⟩ := r
  obtain ⟨o', x'⟩ := r'
  obtain rfl : o' = o := h.answer
  refine ⟨x, x', h.agree, h.touched, ?_⟩
  cases o' with
  | error e => exact .inl ⟨e, rfl, rfl⟩
  | ok a => exact .inr ⟨a, rfl, rfl⟩

namespace Agree

theorem tick (h : Agree K fs fs') : Agree K fs.tick fs'.tick :=
  ⟨h.current, h.clock, congrArg List.tail h.verdicts, h.issued, h.lookup⟩

theorem insert (h : Agree K fs fs') (hl : loc ≠ []) (node : Node) :
    Agree K (fs.insert loc node) (fs'.insert loc node) := by
  refine ⟨h.current, h.clock, h.verdicts, h.issued, fun l hk => ?_⟩
  rw [lookup_insert fs hl, lookup_insert fs' hl, h.lookup l hk]

theorem erase (h : Agree K fs fs') (hl : loc ≠ []) : Agree K (fs.erase loc) (fs'.erase loc) := by
  refine ⟨h.current, h.clock, h.verdicts, h.issued, fun l hk => ?_⟩
  rw [lookup_erase fs hl, lookup_erase fs' hl, h.lookup l hk]

theorem start (h : Agree K fs fs') (p : Path) : fs'.start p = fs.start p := by
  rw [FileSystem.start, h.current, FileSystem.start]

theorem locate (h : Agree K fs fs') (p : Path) : fs'.locate p = fs.locate p :=
  locate_congr h.current p

theorem resolve (h : Agree K fs fs') (hp : ∀ l ∈ fs.trail p, l ∈ K) :
    fs'.resolve p = fs.resolve p := by
  have hw : fs'.walk (fs.start p) p.names = fs.walk (fs.start p) p.names :=
    walk_congr fun l hl => h.lookup l (hp l hl)
  unfold FileSystem.resolve
  rw [h.start, hw]
  split
  · rfl
  · split
    · rfl
    · rename_i hl
      rw [walk_eq_follow hl, h.lookup _ (hp _ (follow_mem_trail _ _))]

theorem place (h : Agree K fs fs') (hp : ∀ l ∈ fs.trail p, l ∈ K) :
    fs'.place p = fs.place p := by
  have hp' : ∀ l ∈ Storage.trail (fs.start p) p.names.dropLast, l ∈ K := fun l hl =>
    hp l (mem_trail_mono (List.dropLast_prefix _) hl)
  have hw : fs'.walk (fs.start p) p.names.dropLast = fs.walk (fs.start p) p.names.dropLast :=
    walk_congr fun l hl => h.lookup l (hp' l hl)
  unfold FileSystem.place
  rw [h.start, hw]
  split
  · rfl
  · split
    · rfl
    · rename_i hl
      rw [walk_eq_follow hl, h.lookup _ (hp' _ (follow_mem_trail _ _))]

theorem change_eq {α : Type} (fs : FileSystem)
    (act : FileSystem → Except IoError (α × FileSystem)) : fs.change act =
      match fs.verdicts.head? with
      | some (.refused e) => (.error e, fs.tick)
      | _ =>
        match act fs.tick with
        | .ok (a, x) => (.ok a, x)
        | .error e => (.error e, fs.tick) := rfl

/-- A call fails alike if it is refused or cannot be carried out, and then changes nothing. -/
theorem change {α : Type} {act : FileSystem → Except IoError (α × FileSystem)}
    (h : Agree K fs fs')
    (hact : Agree K fs.tick fs'.tick → Tried K W fs.tick (act fs.tick) (act fs'.tick)) :
    Alike K W fs (fs.change act) (fs'.change act) := by
  have ht := hact h.tick
  rw [change_eq, change_eq, h.verdicts]
  split
  · exact ⟨rfl, h.tick, .tick fs⟩
  · generalize act fs.tick = r at ht ⊢
    generalize act fs'.tick = r' at ht ⊢
    cases ht with
    | error e => exact ⟨rfl, h.tick, .tick fs⟩
    | ok a agree touched => exact ⟨rfl, agree, (Touched.tick fs).trans touched⟩

/-! ## Files -/

theorem setModified (h : Agree K fs fs') (hp : ∀ l ∈ fs.trail p, l ∈ K) (t : Timestamp) :
    Alike K {fs.locate p} fs (fs.setModified p t) (fs'.setModified p t) := by
  refine h.change fun h => ?_
  rw [h.resolve hp]
  split
  · exact .error _
  · exact .error _
  · rename_i l old t' hr
    obtain ⟨hl, hf⟩ := resolve_eq_ok hr
    have hd : fs.tick.lookup l ≠ some .directory := by rw [hf]; simp
    have ht : Touched {l} fs.tick (fs.tick.insert l (.file old t)) := .insert hd old t
    rw [locate_tick] at hl
    exact .ok () (h.insert (ne_nil_of_lookup hd) _) (hl ▸ ht)

theorem removeFile (h : Agree K fs fs') (hp : ∀ l ∈ fs.trail p, l ∈ K) :
    Alike K {fs.locate p} fs (fs.removeFile p) (fs'.removeFile p) := by
  refine h.change fun h => ?_
  rw [h.place hp]
  split
  · exact .error _
  · exact .error _
  · rename_i dir n hpl
    have hl := place_eq_entry hpl
    rw [locate_tick] at hl
    rw [hl, h.lookup _ (hp _ (locate_mem_trail fs p))]
    split
    · exact .error _
    · exact .error _
    · rename_i hf
      have hd : fs.tick.lookup (fs.locate p) ≠ some .directory := by rw [hf]; simp
      split
      · exact .error _
      · exact .ok () (h.erase (ne_nil_of_lookup hd)) (.erase hd)

theorem renameFile (h : Agree K fs fs') (hp : ∀ l ∈ fs.trail p, l ∈ K)
    (hq : ∀ l ∈ fs.trail q, l ∈ K) :
    Alike K {fs.locate p, fs.locate q} fs (fs.renameFile p q) (fs'.renameFile p q) := by
  refine h.change fun h => ?_
  rw [h.place hp, h.place hq]
  split
  · exact .error _
  · exact .error _
  · rename_i dir n dir' n' hpl hql
    have hlp := place_eq_entry hpl
    have hlq := place_eq_entry hql
    rw [locate_tick] at hlp hlq
    rw [hlp, hlq, h.lookup _ (hp _ (locate_mem_trail fs p)),
      h.lookup _ (hq _ (locate_mem_trail fs q))]
    split
    · exact .error _
    · exact .error _
    · rename_i data t hf
      have hd : fs.tick.lookup (fs.locate p) ≠ some .directory := by rw [hf]; simp
      split
      · exact .error _
      · split
        · exact .error _
        · rename_i hd'
          have hne := ne_nil_of_lookup hd
          have hd'' : (fs.tick.erase (fs.locate p)).lookup (fs.locate q) ≠ some .directory := by
            rw [lookup_erase fs.tick hne]
            split
            · simp
            · exact hd'
          refine .ok () ((h.erase hne).insert (ne_nil_of_lookup hd'') _) ?_
          exact ((Touched.erase hd).mono (by simp)).trans ((Touched.insert hd'' _ _).mono (by simp))
  · exact .error _

theorem room (h : Agree K fs fs') (size : Nat) : fs'.room size = fs.room size := by
  rw [FileSystem.room, h.verdicts, FileSystem.room]

theorem append (h : Agree K fs fs') (hl : loc ∈ K) (data : Bytes) :
    Alike K {loc} fs (fs.append loc data) (fs'.append loc data) := by
  unfold FileSystem.append
  rw [h.room]
  refine h.change fun h => ?_
  rw [h.lookup loc hl, h.clock]
  split
  · rename_i hf
    have hd : fs.tick.lookup loc ≠ some .directory := by rw [hf]; simp
    exact .ok _ (h.insert (ne_nil_of_lookup hd) _) (.insert hd _ _)
  · exact .ok _ h (.refl _ _)

/-- Writing until it is done gives back the same on both. -/
theorem appendAll (h : Agree K fs fs') (hl : loc ∈ K) (data : Bytes) :
    let r := fs.appendAll loc data
    let r' := fs'.appendAll loc data
    r'.1 = r.1 ∧ r'.2.1 = r.2.1 ∧ Agree K r.2.2 r'.2.2 ∧ Touched {loc} fs r.2.2 := by
  induction fs, data using appendAll_induction loc generalizing fs' with
  | done fs => exact appendAll_nil fs' loc ▸ ⟨rfl, rfl, h, .refl _ fs⟩
  | wrote fs data n x hd hx ih =>
    obtain ⟨y, y', hagree, ht, ⟨e, hr, -⟩ | ⟨m, hr, hr'⟩⟩ := (h.append hl data).outcomes <;>
      rw [hx] at hr <;> cases hr
    obtain ⟨ha, hb, hc, ht'⟩ := ih hagree
    rw [appendAll_of_ok hd hr']
    exact ⟨ha, hb, hc, ht.trans ht'⟩
  | again fs data e x hd hx hi ih =>
    obtain ⟨y, y', hagree, ht, ⟨e, hr, hr'⟩ | ⟨m, hr, -⟩⟩ := (h.append hl data).outcomes <;>
      rw [hx] at hr <;> cases hr
    obtain ⟨ha, hb, hc, ht'⟩ := ih hagree
    rw [appendAll_of_interrupted hd hr' hi]
    exact ⟨ha, hb, hc, ht.trans ht'⟩
  | failed fs data e x hd hx hi =>
    obtain ⟨y, y', hagree, ht, ⟨e, hr, hr'⟩ | ⟨m, hr, -⟩⟩ := (h.append hl data).outcomes <;>
      rw [hx] at hr <;> cases hr
    rw [appendAll_of_error hd hr' hi]
    exact ⟨rfl, rfl, hagree, ht⟩

theorem createFile (h : Agree K fs fs') (hp : ∀ l ∈ fs.trail p, l ∈ K) :
    Alike K {fs.locate p} fs (fs.createFile p) (fs'.createFile p) := by
  refine h.change fun h => ?_
  rw [h.place hp]
  split
  · exact .error _
  · exact .error _
  · rename_i dir n hpl
    have hl := place_eq_entry hpl
    rw [locate_tick] at hl
    rw [hl, h.lookup _ (hp _ (locate_mem_trail fs p)), h.clock]
    split
    · exact .error _
    · split
      · exact .error _
      · rename_i hd
        exact .ok _ (h.insert (ne_nil_of_lookup hd) _) (.insert hd _ _)

theorem writeFile (h : Agree K fs fs') (hp : ∀ l ∈ fs.trail p, l ∈ K) (data : Bytes) :
    Alike K {fs.locate p} fs (fs.writeFile p data) (fs'.writeFile p data) := by
  obtain ⟨x, x', hagree, ht, ⟨e, hr, hr'⟩ | ⟨loc, hr, hr'⟩⟩ := (h.createFile hp).outcomes <;>
    rw [FileSystem.writeFile, FileSystem.writeFile, hr, hr']
  · exact ⟨rfl, hagree, ht⟩
  · obtain rfl := (changed_createFile hr).1
    obtain ⟨ha, -, hc, ht'⟩ := hagree.appendAll (hp _ (locate_mem_trail fs p)) data
    exact ⟨ha, hc, ht.trans ht'⟩

/-! ## Directories -/

theorem isDirectory (h : Agree K fs fs') (hp : ∀ l ∈ fs.trail p, l ∈ K) :
    fs'.isDirectory p = fs.isDirectory p := by
  rw [FileSystem.isDirectory, h.resolve hp, FileSystem.isDirectory]

end Agree

/-- All on the way of a path are directories, the last one included. -/
def Stands (fs : FileSystem) (p : Path) : Prop := ∀ l ∈ fs.trail p, fs.lookup l = some .directory

theorem Stands.of_touched (h : fs.Stands p) (ht : Touched W fs fs') : fs'.Stands p := by
  intro l hl
  rw [trail_congr ht.current] at hl
  exact ht.directories l (h l hl)

theorem stands_of_resolve (h : fs.resolve p = .ok (l, .directory)) : fs.Stands p := by
  have hl := resolve_eq_ok h
  unfold FileSystem.resolve at h
  split at h
  · cases h
  · split at h
    · cases h
    · rename_i x hw
      obtain rfl : x = l := (walk_eq_follow hw).trans hl.1.symm
      exact fun y hy => lookup_of_mem_trail hw hl.2 hy

theorem trail_parent? (h : p.parent? = some q) (hl : l ∈ fs.trail q) : l ∈ fs.trail p := by
  obtain ⟨ha, hn⟩ := Path.names_parent? h
  have hs : fs.start q = fs.start p := by rw [start, ha, start]
  rw [trail, hs] at hl
  exact mem_trail_mono hn hl

/-- Where a directory stands none is made. -/
theorem Stands.mkdir (hs : fs.Stands p) : ∃ e, (fs.mkdir p) = (.error e, fs.tick) := by
  cases h : (fs.mkdir p).1 with
  | error e => exact ⟨e, Prod.ext h (change_eq_error h)⟩
  | ok u =>
    obtain ⟨x, ha, -⟩ := change_eq_ok h
    split at ha
    · cases ha
    · cases ha
    · rename_i dir n hp
      have hl := place_eq_entry hp
      have hd : fs.tick.lookup (dir ++ [n]) = some .directory := by
        rw [hl]
        exact hs _ (locate_mem_trail fs p)
      rw [hd] at ha
      cases ha

namespace Agree

theorem mkdir (h : Agree K fs fs') (hs : fs.Stands p) (hp : ∀ l ∈ fs.trail p, l ∈ K) :
    ∃ e, fs.mkdir p = (.error e, fs.tick) ∧ fs'.mkdir p = (.error e, fs'.tick) := by
  have hs' : fs'.Stands p := fun l hl => by
    rw [trail_congr h.current] at hl
    rw [h.lookup l (hp l hl), hs l hl]
  obtain ⟨e, he⟩ := hs.mkdir
  obtain ⟨e', he'⟩ := hs'.mkdir
  have ha : Alike K ∅ fs (fs.mkdir p) (fs'.mkdir p) := by
    unfold FileSystem.mkdir
    refine h.change fun h => ?_
    rw [h.place hp]
    split
    · exact .error _
    · exact .error _
    · rename_i dir n hpl
      have hl := place_eq_entry hpl
      rw [locate_tick] at hl
      have hm := locate_mem_trail fs p
      rw [hl, h.lookup _ (hp _ hm), show fs.tick.lookup _ = _ from hs _ hm]
      exact .error _
  have haa := ha.answer
  rw [he, he'] at haa
  cases haa
  exact ⟨e, he, he'⟩

theorem mkdirAll (h : Agree K fs fs') (hs : fs.Stands p) (hp : ∀ l ∈ fs.trail p, l ∈ K) :
    Alike K ∅ fs (fs.mkdirAll p) (fs'.mkdirAll p) := by
  induction hn : p.names.length using Nat.strong_induction_on generalizing fs fs' p with
  | _ n ih =>
    obtain ⟨e, he, he'⟩ := h.mkdir hs hp
    have ht := Touched.tick (W := ∅) fs
    rw [FileSystem.mkdirAll, FileSystem.mkdirAll, he, he']
    split
    · exact ⟨rfl, h, .refl _ _⟩
    · dsimp only
      split
      · split
        · exact ⟨rfl, h.tick, ht⟩
        · rename_i q hq
          have hsub {l : Location} (hl : l ∈ fs.tick.trail q) : l ∈ fs.trail p := trail_parent? hq hl
          have hr := ih q.names.length (hn ▸ Path.parent?_lt hq) h.tick (fun l hl => hs l (hsub hl))
            (fun l hl => hp l (hsub hl)) rfl
          obtain ⟨x, x', hagree, hx, ⟨e, hr, hr'⟩ | ⟨u, hr, hr'⟩⟩ := hr.outcomes
          · rw [hr, hr']
            exact ⟨rfl, hagree, ht.trans hx⟩
          · have hx := ht.trans hx
            have hp' : ∀ l ∈ x.trail p, l ∈ K := fun l hl => hp l (by rwa [trail_congr hx.current] at hl)
            obtain ⟨f, hf, hf'⟩ := hagree.mkdir (hs.of_touched hx) hp'
            have hd := hagree.tick.isDirectory hp'
            rw [hr, hr']
            dsimp only
            rw [hf, hf']
            dsimp only
            rw [hd]
            split
            · exact ⟨rfl, hagree.tick, hx.trans (.tick x)⟩
            · exact ⟨rfl, hagree.tick, hx.trans (.tick x)⟩
      · rw [h.tick.isDirectory hp]
        split
        · exact ⟨rfl, h.tick, ht⟩
        · exact ⟨rfl, h.tick, ht⟩

end Agree

/-! ## Temporary files -/

theorem isTemporaryName_temporaryName (n : Nat) : isTemporaryName (temporaryName n) = true := by
  have hl : ".tmp".toList.length = 4 := by decide
  have hdigit : ∀ c ∈ Nat.toDigits 10 n, c.isAlphanum = true := fun c hc => by
    rw [Char.isAlphanum, Nat.isDigit_of_mem_toDigits (by decide) (by decide) hc, Bool.or_true]
  unfold isTemporaryName
  rw [toList_temporaryName, ← hl, List.drop_left]
  simp only [List.length_append, hl, List.length_replicate, Bool.and_eq_true, List.all_append,
    List.all_eq_true, decide_eq_true_eq, List.isPrefixOf_iff_prefix]
  refine ⟨⟨List.prefix_append _ _, by omega⟩, fun c hc => ?_, hdigit⟩
  rw [List.eq_of_mem_replicate hc]
  decide

/-- The number of a temporary file is the first one that can be taken. -/
theorem freeNumber_spec (fs : FileSystem) (dir reserved : Location) :
    fs.issued ≤ fs.freeNumber dir reserved ∧
      ∀ n, fs.issued ≤ n → n < fs.freeNumber dir reserved →
        dir ++ [temporaryName n] = reserved ∨ fs.lookup (dir ++ [temporaryName n]) ≠ none := by
  unfold freeNumber
  cases h : (List.range' fs.issued (fs.nodes.length + 2)).find? fun n =>
      dir ++ [temporaryName n] != reserved && (fs.lookup (dir ++ [temporaryName n])).isNone with
  | none => exact ⟨Nat.le_refl _, fun n hn hl => absurd hl (Nat.not_lt.2 hn)⟩
  | some k =>
    obtain ⟨-, hk, hbefore⟩ := List.find?_range'_eq_some.1 h
    refine ⟨?_, fun n hn hl => ?_⟩
    · simp at hk
      exact hk.1
    · have := hbefore n hn hl
      by_cases hr : dir ++ [temporaryName n] = reserved
      · exact .inl hr
      · refine .inr fun hnone => ?_
        simp [hr, hnone] at this

namespace Agree

variable {dir reserved : Location}

/-- The names that can still be given are in sight. -/
theorem freeNumber_le (h : Agree K fs fs')
    (hk : ∀ n, fs.issued ≤ n → dir ++ [temporaryName n] ∈ K) :
    fs'.freeNumber dir reserved ≤ fs.freeNumber dir reserved := by
  by_contra hlt
  have hle := (freeNumber_spec fs dir reserved).1
  obtain ⟨hne, hfree⟩ := lookup_freeNumber fs dir reserved
  rcases (freeNumber_spec fs' dir reserved).2 _ (h.issued ▸ hle) (Nat.not_le.1 hlt) with hr | hf
  · exact hne hr
  · exact hf ((h.lookup _ (hk _ hle)).trans hfree)

theorem symm (h : Agree K fs fs') : Agree K fs' fs :=
  ⟨h.current.symm, h.clock.symm, h.verdicts.symm, h.issued.symm, fun l hl => (h.lookup l hl).symm⟩

theorem freeNumber (h : Agree K fs fs') (hk : ∀ n, fs.issued ≤ n → dir ++ [temporaryName n] ∈ K) :
    fs'.freeNumber dir reserved = fs.freeNumber dir reserved :=
  Nat.le_antisymm (h.freeNumber_le hk) (h.symm.freeNumber_le (h.issued ▸ hk))

end Agree

/-- The names that were given to temporary files between two states of the numbering. -/
def given (dir : Location) (m n : Nat) : Set Location :=
  {l | ∃ k, m ≤ k ∧ k < n ∧ l = dir ++ [temporaryName k]}

/-- A temporary file gets the next free name, or nothing changes. -/
theorem makeTemporary_cases (fs : FileSystem) (p : Path) (reserved : Location) :
    (∃ e, fs.makeTemporary p reserved = (.error e, fs.tick)) ∨
      ∃ x, fs.makeTemporary p reserved =
          (.ok (fs.locate p ++ [temporaryName (fs.freeNumber (fs.locate p) reserved)]), x) ∧
        x.issued = fs.freeNumber (fs.locate p) reserved + 1 := by
  cases h : (fs.makeTemporary p reserved).1 with
  | error e => exact .inl ⟨e, Prod.ext h (change_eq_error h)⟩
  | ok loc =>
    obtain ⟨x, ha, hx⟩ := change_eq_ok h
    have hx : fs.makeTemporary p reserved = (.ok loc, x) := Prod.ext h hx
    split at ha
    · cases ha
    · cases ha
    · rename_i dir hr
      obtain ⟨rfl, -⟩ := resolve_eq_ok hr
      dsimp only at ha
      split at ha
      · cases ha
      · cases ha
        exact .inr ⟨_, hx, rfl⟩

theorem given_mono (dir : Location) {m m' n n' : Nat} (hm : m' ≤ m) (hn : n ≤ n') :
    given dir m n ⊆ given dir m' n' :=
  fun _ ⟨k, hk, hk', hl⟩ => ⟨k, hm.trans hk, hk'.trans_le hn, hl⟩

/-- What was given once is not given later. -/
theorem not_given_of_given {dir : Location} {m n k : Nat} (h : loc ∈ given dir m n) :
    loc ∉ given dir n k := by
  rintro ⟨b, hb, -, rfl⟩
  obtain ⟨a, -, ha, he⟩ := h
  obtain rfl := temporaryName_injective (List.singleton_inj.1 (List.append_cancel_left he))
  exact Nat.not_lt.2 hb ha

theorem mem_given_of_makeTemporary {reserved : Location} {x : FileSystem}
    (h : fs.makeTemporary p reserved = (.ok loc, x)) :
    loc ∈ given (fs.locate p) fs.issued x.issued := by
  rcases makeTemporary_cases fs p reserved with ⟨e, he⟩ | ⟨y, hy, hi⟩
  · rw [he] at h
    cases h
  · rw [hy] at h
    cases h
    exact ⟨_, (freeNumber_spec fs _ reserved).1, hi ▸ Nat.lt_succ_self _, rfl⟩

theorem Agree.makeTemporary (h : Agree K fs fs') (reserved : Location)
    (hp : ∀ l ∈ fs.trail p, l ∈ K) (habove : ∀ l, l <+: fs.locate p → l ∈ K)
    (hk : ∀ n, fs.issued ≤ n → fs.locate p ++ [temporaryName n] ∈ K) :
    Alike K (given (fs.locate p) fs.issued (fs.makeTemporary p reserved).2.issued) fs
      (fs.makeTemporary p reserved) (fs'.makeTemporary p reserved) := by
  have hn := freeNumber_spec fs (fs.locate p) reserved
  have ha : Alike K {fs.locate p ++ [temporaryName (fs.freeNumber (fs.locate p) reserved)]} fs
      (fs.makeTemporary p reserved) (fs'.makeTemporary p reserved) := by
    refine h.change fun h => ?_
    rw [h.resolve hp]
    split
    · exact .error _
    · exact .error _
    · rename_i dir hr
      obtain ⟨hdir, -⟩ := resolve_eq_ok hr
      rw [locate_tick] at hdir
      subst hdir
      obtain ⟨-, hfree⟩ := lookup_freeNumber fs.tick (fs.locate p) reserved
      have hd : fs.tick.lookup (fs.locate p ++
          [temporaryName (fs.tick.freeNumber (fs.locate p) reserved)]) ≠ some .directory := by
        rw [hfree]
        simp
      dsimp only
      rw [h.freeNumber hk, h.place]
      · split
        · exact .error _
        · have hi := h.insert (ne_nil_of_lookup hd) (.file [] fs.tick.clock)
          have ht := Touched.insert hd [] fs.tick.clock
          rw [h.clock]
          exact .ok _ ⟨hi.current, hi.clock, hi.verdicts, rfl, hi.lookup⟩
            ⟨ht.current, Nat.le_succ_of_le hn.1, ht.directories, ht.elsewhere⟩
      · -- the file is opened by its path from the root
        intro l hl
        have hdots := temporaryName_ne_dots (fs.tick.freeNumber (fs.locate p) reserved)
        have hl := above_of_mem_trail (plain_concat (plain_locate fs p) hdots.1 hdots.2) hl
        rcases List.prefix_concat_iff.1 hl with rfl | hl
        · exact hk _ hn.1
        · exact habove l hl
  rcases makeTemporary_cases fs p reserved with ⟨e, he⟩ | ⟨x, hx, -⟩
  · refine ⟨ha.answer, ha.agree, ?_⟩
    rw [he]
    exact .tick fs
  · refine ha.mono ?_
    rintro l rfl
    have hg := mem_given_of_makeTemporary hx
    rwa [hx]

end FileSystem

end Refetch.Storage
