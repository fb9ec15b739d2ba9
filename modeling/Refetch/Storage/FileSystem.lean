import Refetch.Bytes
import Refetch.Storage.Path
import Refetch.Text.Quoted
import Refetch.Text.Utf8
import Refetch.Time.Timestamp
/-!
# File systems

A file system maps locations, the name lists below its root, to files and directories. A call walks
along its path first; each name on the way must be a directory. Then the call looks at the last
name, and fails with the number that tells why it cannot be carried out.

1. Queries (`resolve`, `readFile`, `modified?`) change nothing.
2. A single change of names or files succeeds or changes nothing. Calls of more than one, such as
   `writeFile`, may stop between them.
3. `verdicts` lists what the device has in store for the next changes, whatever they ask for; with an
   empty list it grants all of them. A change that it lets be repeated when interrupted, as opening a
   file, counts once.
4. `clock` is the time that a written file gets. It stands still by itself.
5. `issued` counts the names that temporary files were given, so that none is given twice. The names
   stand for ones drawn at random, which do not happen to be the name that a file is to get later.
-/

namespace Refetch.Storage

abbrev Location := List String

/-- No name of the location is one of the two dots that paths may hold. -/
def Plain (loc : Location) : Prop := "." ∉ loc ∧ ".." ∉ loc

instance (loc : Location) : Decidable (Plain loc) := inferInstanceAs (Decidable (_ ∧ _))

inductive Node
  | file (data : Bytes) (modified : Timestamp)
  | directory
  deriving Repr, DecidableEq

/-- What becomes of a change that can be carried out. -/
inductive Verdict
  | granted
  /-- A write takes one byte and so many more at most; any other change is granted. -/
  | cut (more : Nat)
  | refused (fault : IoError)
  deriving Repr, DecidableEq

structure FileSystem where
  nodes : List (Location × Node)
  /-- Where relative paths start. -/
  current : Location
  clock : Timestamp
  verdicts : List Verdict
  issued : Nat
  plain : Plain current := by decide
  deriving Repr, DecidableEq

/-- Where names lead from a location, if everything on the way is a directory. -/
def follow : Location → List String → Location
  | loc, [] => loc
  | loc, n :: rest =>
    if n = "." then follow loc rest
    else if n = ".." then follow loc.dropLast rest
    else follow (loc ++ [n]) rest

namespace FileSystem

/-- A file system with one empty directory, the current one. -/
def fresh (clock : Timestamp) : FileSystem := ⟨[(["work"], .directory)], ["work"], clock, [], 0, by decide⟩

def lookup (fs : FileSystem) (loc : Location) : Option Node :=
  if loc = [] then some .directory else fs.nodes.lookup loc

/-- Puts a node at a location. -/
def insert (fs : FileSystem) (loc : Location) (node : Node) : FileSystem :=
  { fs with nodes := (loc, node) :: fs.nodes.filter (·.1 != loc) }

def erase (fs : FileSystem) (loc : Location) : FileSystem :=
  { fs with nodes := fs.nodes.filter (·.1 != loc) }

/-! ## Walks -/

/-- The bytes that one name can have. -/
def nameLimit : Nat := 255

/-- The bytes that a path can have. -/
def pathLimit : Nat := 4095

def nameSize (name : String) : Nat := (Text.Utf8.encode name).length

/-- Follows names from a location. The last name need not be there. -/
def walk (fs : FileSystem) : Location → List String → Except Errno Location
  | loc, [] => .ok loc
  | loc, n :: rest =>
    match fs.lookup loc with
    | none => .error .noEntry
    | some (.file ..) => .error .notDirectory
    | some .directory =>
      if n = "." then walk fs loc rest
      else if n = ".." then walk fs loc.dropLast rest
      else if nameLimit < nameSize n then .error .nameTooLong
      else walk fs (loc ++ [n]) rest

def nulFault : IoError :=
  .custom .invalidInput "file name contained an unexpected NUL byte"

/-- Failures that the text of a path alone brings about. -/
def textFault? (p : Path) : Option IoError :=
  if p.names.any fun n => n.toList.any (·.toNat == 0) then some nulFault
  else if p.isEmpty then some (.os .noEntry)
  else if pathLimit < p.names.foldr (fun n size => nameSize n + 1 + size) 0 then some (.os .nameTooLong)
  else none

def start (fs : FileSystem) (p : Path) : Location := if p.absolute then [] else fs.current

/-- The location of a path. -/
def locate (fs : FileSystem) (p : Path) : Location := follow (fs.start p) p.names

/-- Location and node of an existing path. -/
def resolve (fs : FileSystem) (p : Path) : Except IoError (Location × Node) :=
  match textFault? p with
  | some e => .error e
  | none =>
    match fs.walk (fs.start p) p.names with
    | .error e => .error (.os e)
    | .ok loc =>
      match fs.lookup loc with
      | none => .error (.os .noEntry)
      | some (.file data t) =>
        if p.slash || p.names.getLast? == some "." then .error (.os .notDirectory)
        else .ok (loc, .file data t)
      | some .directory => .ok (loc, .directory)

/-- Where the last name of a path is to be found. -/
inductive Place
  /-- The directory and the name in it. -/
  | entry (directory : Location) (name : String)
  /-- The path ends in `.`, `..` or nothing. -/
  | special
  deriving Repr, DecidableEq

/-- Walks to the directory of the last name. -/
def place (fs : FileSystem) (p : Path) : Except IoError Place :=
  match textFault? p with
  | some e => .error e
  | none =>
    match fs.walk (fs.start p) p.names.dropLast with
    | .error e => .error (.os e)
    | .ok loc =>
      match fs.lookup loc with
      | none => .error (.os .noEntry)
      | some (.file ..) => .error (.os .notDirectory)
      | some .directory =>
        match p.names.getLast? with
        | none | some "." | some ".." => .ok .special
        | some n =>
          if nameLimit < nameSize n then .error (.os .nameTooLong) else .ok (.entry loc n)

/-! ## Queries -/

def contains (fs : FileSystem) (p : Path) : Bool :=
  match fs.resolve p with
  | .ok _ => true
  | .error _ => false

def isDirectory (fs : FileSystem) (p : Path) : Bool :=
  match fs.resolve p with
  | .ok (_, .directory) => true
  | _ => false

/-- The content of a file. -/
def readFile (fs : FileSystem) (p : Path) : Except IoError Bytes :=
  match fs.resolve p with
  | .error e => .error e
  | .ok (_, .directory) => .error (.os .isDirectory)
  | .ok (_, .file data _) => .ok data

/-- The content of a file, if it is text. -/
def readText? (fs : FileSystem) (p : Path) : Option String :=
  match fs.readFile p with
  | .ok data => (Text.Utf8.decode data).toOption
  | .error _ => none

/-- When a file was written; a directory counts as written just now. -/
def modified? (fs : FileSystem) (p : Path) : Option Timestamp :=
  match fs.resolve p with
  | .ok (_, .file _ t) => some t
  | .ok (_, .directory) => some fs.clock
  | .error _ => none

/-! ## Changes -/

/-- Carries out a change unless the next verdict is a refusal. -/
def change {α : Type} (fs : FileSystem) (act : FileSystem → Except IoError (α × FileSystem)) :
    Except IoError α × FileSystem :=
  let rest := { fs with verdicts := fs.verdicts.tail }
  match fs.verdicts.head? with
  | some (.refused e) => (.error e, rest)
  | _ =>
    match act rest with
    | .ok (a, fs') => (.ok a, fs')
    | .error e => (.error e, rest)

def mkdir (fs : FileSystem) (p : Path) : Except IoError Unit × FileSystem :=
  fs.change fun fs =>
    match fs.place p with
    | .error e => .error e
    | .ok .special => .error (.os .exists)
    | .ok (.entry dir n) =>
      match fs.lookup (dir ++ [n]) with
      | some _ => .error (.os .exists)
      | none => .ok ((), fs.insert (dir ++ [n]) .directory)

/-- Makes a directory and those above it; one that exists already is fine. -/
def mkdirAll (fs : FileSystem) (p : Path) : Except IoError Unit × FileSystem :=
  if p.isEmpty then (.ok (), fs)
  else
    match fs.mkdir p with
    | (.ok (), fs') => (.ok (), fs')
    | (.error e, fs') =>
      if e.kind == .notFound then
        match h : p.parent? with
        | none => (.error (.custom .other "failed to create whole tree"), fs')
        | some q =>
          have := Path.parent?_lt h
          match mkdirAll fs' q with
          | (.error e, fs'') => (.error e, fs'')
          | (.ok (), fs'') =>
            match fs''.mkdir p with
            | (.ok (), fs3) => (.ok (), fs3)
            | (.error e, fs3) => if fs3.isDirectory p then (.ok (), fs3) else (.error e, fs3)
      else if fs'.isDirectory p then (.ok (), fs') else (.error e, fs')
termination_by p.names.length

/-- Sets the time of an existing file. -/
def setModified (fs : FileSystem) (p : Path) (t : Timestamp) : Except IoError Unit × FileSystem :=
  fs.change fun fs =>
    match fs.resolve p with
    | .error e => .error e
    | .ok (_, .directory) => .error (.os .isDirectory)
    | .ok (loc, .file data _) => .ok ((), fs.insert loc (.file data t))

def removeFile (fs : FileSystem) (p : Path) : Except IoError Unit × FileSystem :=
  fs.change fun fs =>
    match fs.place p with
    | .error e => .error e
    | .ok .special => .error (.os .isDirectory)
    | .ok (.entry dir n) =>
      match fs.lookup (dir ++ [n]) with
      | none => .error (.os .noEntry)
      | some .directory => .error (.os .isDirectory)
      | some (.file ..) =>
        if p.slash then .error (.os .notDirectory) else .ok ((), fs.erase (dir ++ [n]))

/-- Removes a directory with all that is in it. -/
def removeTree (fs : FileSystem) (p : Path) : Except IoError Unit × FileSystem :=
  fs.change fun fs =>
    match fs.resolve p with
    | .error e => .error e
    | .ok (_, .file ..) => .error (.os .notDirectory)
    | .ok (loc, .directory) =>
      .ok ((), { fs with nodes := fs.nodes.filter fun e => !loc.isPrefixOf e.1 })

/-- Moves a file to another name, in the place of the file that has it. -/
def renameFile (fs : FileSystem) (source target : Path) : Except IoError Unit × FileSystem :=
  fs.change fun fs =>
    match fs.place source, fs.place target with
    | .error e, _ => .error e
    | _, .error e => .error e
    | .ok (.entry dir n), .ok (.entry dir' n') =>
      match fs.lookup (dir ++ [n]) with
      | none => .error (.os .noEntry)
      | some .directory => .error (.os .invalid)
      | some (.file data t) =>
        if target.slash then .error (.os .notDirectory)
        else
          match fs.lookup (dir' ++ [n']) with
          | some .directory => .error (.os .isDirectory)
          | _ => .ok ((), (fs.erase (dir ++ [n])).insert (dir' ++ [n']) (.file data t))
    | _, _ => .error (.os .busy)

/-! ## Writing -/

/-- How many of so many bytes the next write takes. -/
def room (fs : FileSystem) (size : Nat) : Nat :=
  match fs.verdicts.head? with
  | some (.cut more) => min (more + 1) size
  | _ => size

/-- Adds bytes to an open file, all or the first ones of them, and tells how many. One whose name is
gone takes them along. -/
def append (fs : FileSystem) (loc : Location) (data : Bytes) : Except IoError Nat × FileSystem :=
  let n := fs.room data.length
  fs.change fun fs =>
    match fs.lookup loc with
    | some (.file old _) => .ok (n, fs.insert loc (.file (old ++ data.take n) fs.clock))
    | _ => .ok (n, fs)

theorem room_le (fs : FileSystem) (size : Nat) : fs.room size ≤ size := by
  unfold room
  split
  · exact Nat.min_le_right _ _
  · exact Nat.le_refl _

theorem room_pos (fs : FileSystem) {size : Nat} (h : 0 < size) : 0 < fs.room size := by
  unfold room
  split
  · exact Nat.lt_min.2 ⟨Nat.succ_pos _, h⟩
  · exact h

section Append

variable {fs fs' : FileSystem} {loc : Location} {data : Bytes} {n : Nat} {e : IoError}

theorem append_ok (h : (fs.append loc data).1 = .ok n) : n = fs.room data.length := by
  unfold append change at h
  dsimp only at h
  split at h
  · cases h
  · split at h <;> rename_i hx <;> split at hx <;> cases hx <;> cases h <;> rfl

/-- No verdict is added, and a failure uses one up. -/
theorem verdicts_append (fs : FileSystem) (loc : Location) (data : Bytes) :
    (fs.append loc data).2.verdicts.length ≤ fs.verdicts.length ∧
      ∀ e, (fs.append loc data).1 = .error e →
        (fs.append loc data).2.verdicts.length < fs.verdicts.length := by
  unfold append change
  cases hr : fs.verdicts with
  | nil =>
    dsimp only [List.head?_nil]
    split <;> rename_i h <;> split at h <;> cases h <;> exact ⟨Nat.le_refl 0, nofun⟩
  | cons v rest =>
    cases v with
    | refused e => simp
    | granted | cut =>
      dsimp only [List.head?_cons]
      split <;> rename_i h <;> split at h <;> cases h <;> exact ⟨Nat.le_succ _, nofun⟩

/-- What a write leaves to be written is less than before. -/
theorem append_lt (hd : data ≠ []) (h : fs.append loc data = (.ok n, fs')) :
    fs'.verdicts.length + (data.length - n) < fs.verdicts.length + data.length := by
  have hv := (verdicts_append fs loc data).1
  have hn := append_ok (congrArg Prod.fst h)
  have hpos := fs.room_pos (List.length_pos_iff.2 hd)
  have hle := fs.room_le data.length
  rw [h] at hv
  dsimp only at hv
  omega

theorem append_error_lt (h : fs.append loc data = (.error e, fs')) :
    fs'.verdicts.length + data.length < fs.verdicts.length + data.length := by
  have hv := (verdicts_append fs loc data).2 e (by rw [h])
  rw [h] at hv
  exact Nat.add_lt_add_right hv _

end Append

/-- Adds bytes to an open file by as many writes as it takes, anew after each interruption. Gives
back what could not be written. -/
def appendAll (fs : FileSystem) (loc : Location) (data : Bytes) :
    Except IoError Unit × Bytes × FileSystem :=
  if hd : data = [] then (.ok (), [], fs)
  else
    match h : fs.append loc data with
    | (.ok n, fs') =>
      have := append_lt hd h
      fs'.appendAll loc (data.drop n)
    | (.error e, fs') =>
      have := append_error_lt h
      if e.isInterrupted then fs'.appendAll loc data else (.error e, data, fs')
termination_by fs.verdicts.length + data.length

section AppendAll

variable {fs fs' : FileSystem} {loc : Location} {data : Bytes} {n : Nat} {e : IoError}

@[simp] theorem appendAll_nil (fs : FileSystem) (loc : Location) :
    fs.appendAll loc [] = (.ok (), [], fs) := by
  rw [appendAll]
  simp

theorem appendAll_of_ok (hd : data ≠ []) (h : fs.append loc data = (.ok n, fs')) :
    fs.appendAll loc data = fs'.appendAll loc (data.drop n) := by
  rw [appendAll]
  split
  · contradiction
  · split <;> simp_all

theorem appendAll_of_interrupted (hd : data ≠ []) (h : fs.append loc data = (.error e, fs'))
    (hi : e.isInterrupted) : fs.appendAll loc data = fs'.appendAll loc data := by
  rw [appendAll]
  split
  · contradiction
  · split <;> simp_all

theorem appendAll_of_error (hd : data ≠ []) (h : fs.append loc data = (.error e, fs'))
    (hi : e.isInterrupted = false) : fs.appendAll loc data = (.error e, data, fs') := by
  rw [appendAll]
  split
  · contradiction
  · split <;> simp_all

/-- What goes for nothing to write and for a failure, and is handed on by a write and by an
interruption, goes for all writes. -/
theorem appendAll_induction (loc : Location)
    {motive : FileSystem → Bytes → Except IoError Unit × Bytes × FileSystem → Prop}
    (done : ∀ fs, motive fs [] (.ok (), [], fs))
    (wrote : ∀ fs data n fs', data ≠ [] → fs.append loc data = (.ok n, fs') →
      motive fs' (data.drop n) (fs'.appendAll loc (data.drop n)) →
      motive fs data (fs'.appendAll loc (data.drop n)))
    (again : ∀ fs data e fs', data ≠ [] → fs.append loc data = (.error e, fs') → e.isInterrupted →
      motive fs' data (fs'.appendAll loc data) → motive fs data (fs'.appendAll loc data))
    (failed : ∀ fs data e fs', data ≠ [] → fs.append loc data = (.error e, fs') →
      e.isInterrupted = false → motive fs data (.error e, data, fs'))
    (fs : FileSystem) (data : Bytes) : motive fs data (fs.appendAll loc data) := by
  induction fs, data using appendAll.induct loc with
  | case1 fs => exact appendAll_nil fs loc ▸ done fs
  | case2 fs data hd n fs' h _ ih => exact appendAll_of_ok hd h ▸ wrote fs data n fs' hd h ih
  | case3 fs data hd e fs' h _ hi ih =>
    exact appendAll_of_interrupted hd h hi ▸ again fs data e fs' hd h hi ih
  | case4 fs data hd e fs' h _ hi =>
    rw [Bool.not_eq_true] at hi
    exact appendAll_of_error hd h hi ▸ failed fs data e fs' hd h hi

theorem verdicts_appendAll (fs : FileSystem) (loc : Location) (data : Bytes) :
    (fs.appendAll loc data).2.2.verdicts.length ≤ fs.verdicts.length ∧
      ∀ e, (fs.appendAll loc data).1 = .error e →
        (fs.appendAll loc data).2.2.verdicts.length < fs.verdicts.length := by
  have step (fs fs' : FileSystem) (data : Bytes) (r : Except IoError Nat)
      (h : fs.append loc data = (r, fs')) : fs'.verdicts.length ≤ fs.verdicts.length := by
    have hv := (verdicts_append fs loc data).1
    rwa [h] at hv
  induction fs, data using appendAll_induction loc with
  | done fs => exact ⟨Nat.le_refl _, nofun⟩
  | wrote fs data n fs' _ h ih =>
    have hv := step fs fs' data _ h
    exact ⟨Nat.le_trans ih.1 hv, fun e he => Nat.lt_of_lt_of_le (ih.2 e he) hv⟩
  | again fs data e fs' _ h _ ih =>
    have hv := step fs fs' data _ h
    exact ⟨Nat.le_trans ih.1 hv, fun e he => Nat.lt_of_lt_of_le (ih.2 e he) hv⟩
  | failed fs data e fs' _ h _ =>
    have hv := (verdicts_append fs loc data).2 e (by rw [h])
    rw [h] at hv
    exact ⟨Nat.le_of_lt hv, fun _ _ => hv⟩

end AppendAll

/-- Opens a file to write it anew. It is made if need be, and what was in it goes. -/
def createFile (fs : FileSystem) (p : Path) : Except IoError Location × FileSystem :=
  fs.change fun fs =>
    match fs.place p with
    | .error e => .error e
    | .ok .special => .error (.os .isDirectory)
    | .ok (.entry dir n) =>
      if p.slash then .error (.os .isDirectory)
      else
        match fs.lookup (dir ++ [n]) with
        | some .directory => .error (.os .isDirectory)
        | _ => .ok (dir ++ [n], fs.insert (dir ++ [n]) (.file [] fs.clock))

/-- Makes or replaces a file. If it fails when the file is open, some first bytes are in it. -/
def writeFile (fs : FileSystem) (p : Path) (data : Bytes) : Except IoError Unit × FileSystem :=
  match fs.createFile p with
  | (.error e, fs) => (.error e, fs)
  | (.ok loc, fs) => ((fs.appendAll loc data).1, (fs.appendAll loc data).2.2)

/-! ## Temporary files -/

/-- Six digits at least. -/
def temporaryName (n : Nat) : String :=
  let digits := Nat.toDigits 10 n
  String.ofList (".tmp".toList ++ List.replicate (6 - digits.length) '0' ++ digits)

/-- A name as temporary files have. -/
def isTemporaryName (name : String) : Bool :=
  ".tmp".toList.isPrefixOf name.toList && 10 ≤ name.toList.length &&
    (name.toList.drop 4).all Char.isAlphanum

/-- The first number from `issued` on whose name is free in a directory and not reserved. -/
def freeNumber (fs : FileSystem) (dir reserved : Location) : Nat :=
  ((List.range' fs.issued (fs.nodes.length + 2)).find? fun n =>
    dir ++ [temporaryName n] != reserved &&
      (fs.lookup (dir ++ [temporaryName n])).isNone).getD fs.issued

/-- A failure, with the file that it is about. -/
def faultAt (loc : Location) (e : IoError) : IoError :=
  .custom e.kind (e.message ++ " at path " ++ Text.quoted ("/" ++ "/".intercalate loc))

/-- Makes an empty file of a new name in a directory, away from the reserved location. The file is
opened by its path from the root, so that it can be found again from there. -/
def makeTemporary (fs : FileSystem) (directory : Path) (reserved : Location) :
    Except IoError Location × FileSystem :=
  fs.change fun fs =>
    match fs.resolve directory with
    | .error e => .error e
    | .ok (_, .file ..) => .error (.os .notDirectory)
    | .ok (dir, .directory) =>
      let n := fs.freeNumber dir reserved
      let loc := dir ++ [temporaryName n]
      match fs.place (.ofLocation loc) with
      | .error e => .error (faultAt loc e)
      | .ok _ => .ok (loc, { fs.insert loc (.file [] fs.clock) with issued := n + 1 })

/-! ## Listing -/

/-- The first text's bytes do not come after the second's. -/
def byteOrder (a b : String) : Bool :=
  !(Text.Utf8.encode b).lex (Text.Utf8.encode a) fun x y => x.toNat < y.toNat

/-- Name by name; a directory comes before what is in it. -/
def locationOrder : Location → Location → Bool
  | [], _ => true
  | _ :: _, [] => false
  | a :: as, b :: bs => if a = b then locationOrder as bs else byteOrder a b

/-- Everything below a location, depth first, with locations from there. -/
def listing (fs : FileSystem) (loc : Location) : List (Location × Node) :=
  ((fs.nodes.filter fun e => loc.isPrefixOf e.1 && e.1 != loc).map fun e =>
    (e.1.drop loc.length, e.2)).mergeSort fun a b => locationOrder a.1 b.1

end FileSystem

end Refetch.Storage
