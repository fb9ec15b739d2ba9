/-!
# Header lists

Name and value pairs in the order in which they were given. Names are compared without regard to
the case of ASCII letters, and kept as they were written.
-/

namespace Refetch

/-- The name in lowercase; letters outside of ASCII stay. -/
def foldName (name : String) : String := String.ofList (name.toList.map Char.toLower)

/-- The two names differ at most in the case of ASCII letters. -/
def sameName (a b : String) : Bool := foldName a == foldName b

structure HeaderList where
  entries : List (String × String)
  deriving Repr, DecidableEq

namespace HeaderList

def empty : HeaderList := ⟨[]⟩

instance : EmptyCollection HeaderList := ⟨empty⟩
instance : Inhabited HeaderList := ⟨empty⟩

def ofList (pairs : List (String × String)) : HeaderList := ⟨pairs⟩

def toList (h : HeaderList) : List (String × String) := h.entries

def size (h : HeaderList) : Nat := h.entries.length

def isEmpty (h : HeaderList) : Bool := h.entries.isEmpty

/-- The entry carries this name. -/
def named (name : String) (entry : String × String) : Bool := sameName entry.1 name

/-- Where the first entry of the name stands. -/
def position? (h : HeaderList) (name : String) : Option Nat := h.entries.findIdx? (named name)

def contains (h : HeaderList) (name : String) : Bool := (h.position? name).isSome

/-- The first value of the name. -/
def get? (h : HeaderList) (name : String) : Option String :=
  (h.entries.find? (named name)).map (·.2)

/-- The values of the name, in order. -/
def getAll (h : HeaderList) (name : String) : List String :=
  (h.entries.filter (named name)).map (·.2)

/-- Adds an entry at the end. -/
def add (h : HeaderList) (name value : String) : HeaderList := ⟨h.entries ++ [(name, value)]⟩

def without (name : String) (entries : List (String × String)) : List (String × String) :=
  entries.filter fun e => !named name e

/-- Makes the value the only one of its name. It takes the place of the first one, and of the entries
behind that place those of the name go; or it goes last. -/
def set (h : HeaderList) (name value : String) : HeaderList :=
  match h.position? name with
  | some first =>
    ⟨((h.entries.set first (name, value)).zipIdx.filter fun (e, index) =>
      index ≤ first || !named name e).map (·.1)⟩
  | none => h.add name value

def erase (h : HeaderList) (name : String) : HeaderList := ⟨without name h.entries⟩

/-- Drops the values of the name; answers how many there were. -/
def remove (h : HeaderList) (name : String) : Nat × HeaderList :=
  (h.size - (h.erase name).size, h.erase name)

/-- Adds all pairs at the end. -/
def extend (h : HeaderList) (pairs : List (String × String)) : HeaderList := ⟨h.entries ++ pairs⟩

/-- Adds every value of a table, name by name. -/
def addAll (h : HeaderList) (table : List (String × List String)) : HeaderList :=
  h.extend (table.flatMap fun (name, values) => values.map fun value => (name, value))

end HeaderList

end Refetch
