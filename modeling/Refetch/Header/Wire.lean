import Refetch.Error
import Refetch.Header.List
import Refetch.Header.Slots
/-!
# Headers on the wire

A wire table holds lowercase names in the order in which they came first, each with its values in
order. Names are tokens of at most 65535 bytes; values are bytes without control characters, tabs
apart.

A header list becomes a wire table entry by entry, until a name or a value has no place on the wire,
which is reported, or the table has no slot for a name. A wire table becomes a header list with the
values as text: those outside of visible ASCII are decoded lossily.
-/

namespace Refetch

/-- The bytes that a token may hold. -/
def isTokenByte (b : UInt8) : Bool :=
  (0x30 ≤ b && b ≤ 0x39) || (0x41 ≤ b && b ≤ 0x5A) || (0x61 ≤ b && b ≤ 0x7A) ||
  b == 0x21 || (0x23 ≤ b && b ≤ 0x27) || b == 0x2A || b == 0x2B || b == 0x2D || b == 0x2E ||
  b == 0x5E || b == 0x5F || b == 0x60 || b == 0x7C || b == 0x7E

def isToken (bs : Bytes) : Bool := !bs.isEmpty && bs.all isTokenByte

def isHeaderName (name : String) : Bool :=
  let bs := Text.Utf8.encode name
  isToken bs && bs.length ≤ 65535

def isValueByte (b : UInt8) : Bool := (0x20 ≤ b && b != 0x7F) || b == 0x09

def isHeaderValue (value : Bytes) : Bool := value.all isValueByte

/-- A value of visible ASCII characters, spaces and tabs. -/
def isPlainValue (value : Bytes) : Bool := value.all fun b => isValueByte b && b < 0x80

structure WireHeaders where
  fields : List (String × List Bytes)
  deriving Repr, DecidableEq

namespace WireHeaders

def empty : WireHeaders := ⟨[]⟩

/-- Adds a value after those of its name. -/
def appendTo (name : String) (value : Bytes) :
    List (String × List Bytes) → List (String × List Bytes)
  | [] => [(name, [value])]
  | (n, vs) :: rest =>
    if n == name then (n, vs ++ [value]) :: rest else (n, vs) :: appendTo name value rest

def append (w : WireHeaders) (name : String) (value : Bytes) : WireHeaders :=
  ⟨appendTo (foldName name) value w.fields⟩

def getAll (w : WireHeaders) (name : String) : List Bytes :=
  ((w.fields.find? (·.1 == foldName name)).map (·.2)).getD []

def get? (w : WireHeaders) (name : String) : Option Bytes := (w.getAll name).head?

def contains (w : WireHeaders) (name : String) : Bool := w.fields.any (·.1 == foldName name)

def erase (w : WireHeaders) (name : String) : WireHeaders :=
  ⟨w.fields.filter (·.1 != foldName name)⟩

/-- Makes the value the only one of its name. -/
def insert (w : WireHeaders) (name : String) (value : Bytes) : WireHeaders :=
  if w.contains name then
    ⟨w.fields.map fun f => if f.1 == foldName name then (f.1, [value]) else f⟩
  else w.append name value

/-- The fields one by one, those of a name together. -/
def toList (w : WireHeaders) : List (String × Bytes) :=
  w.fields.flatMap fun (name, values) => values.map fun value => (name, value)

/-- The fields of the list, added one by one. -/
def ofList (pairs : List (String × Bytes)) : WireHeaders :=
  pairs.foldl (fun w (name, value) => w.append name value) empty

/-- The greatest number of fields that a table is made for. -/
def capacity : Nat := 24576

end WireHeaders

namespace HeaderList

/-- The fault of an entry that has no place on the wire. -/
def entryFault? (name value : String) : Option ConfigFault :=
  if !isHeaderName name then some (.headerName name)
  else if !isHeaderValue (Text.Utf8.encode value) then some (.headerValue name)
  else none

/-- Adds entries to a table and its slots. -/
def place (slots : Slots) (w : WireHeaders) : List (String × String) → Outcome WireHeaders
  | [] => .ok w
  | (name, value) :: rest =>
    match entryFault? name value with
    | some fault => .error (.config fault)
    | none =>
      match slots.add? (foldName name) with
      | none => .crash .tooManyHeaders
      | some slots => place slots (w.append name (Text.Utf8.encode value)) rest

/-- The table is made with room for all entries. -/
def toWire (h : HeaderList) : Outcome WireHeaders :=
  if WireHeaders.capacity < h.size then .crash .tooManyHeaders
  else place (.new h.size) .empty h.entries

def ofWire (w : WireHeaders) : HeaderList :=
  ⟨w.toList.map fun (n, v) => (n, Text.Utf8.decodeLossy v)⟩

end HeaderList

end Refetch
