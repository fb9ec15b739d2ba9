import Refetch.Text.Utf8
/-!
# Slots of a wire table

The names of a wire table stand in slots, whose number is a power of two, each as near as can be
behind the slot that its hash points to. A name takes the slot of one that is nearer to its own, and
what is there moves on.

A name that comes to stand far away, or that makes many others move, is a sign of crowding. Before the
next name, a crowded table either doubles its slots, if they are well used, or hashes with a random
key from then on, after which crowding counts no more. There are 32768 slots at most, so that a table
which would have to double them has no place for the name.
-/

namespace Refetch

/-! ## Hashes -/

/-- The names that are hashed by their number instead of their letters. -/
def standardNames : List String := [
  "accept", "accept-charset", "accept-encoding", "accept-language", "accept-ranges",
  "access-control-allow-credentials", "access-control-allow-headers",
  "access-control-allow-methods", "access-control-allow-origin", "access-control-expose-headers",
  "access-control-max-age", "access-control-request-headers", "access-control-request-method",
  "age", "allow", "alt-svc", "authorization", "cache-control", "cache-status",
  "cdn-cache-control", "connection", "content-disposition", "content-encoding",
  "content-language", "content-length", "content-location", "content-range",
  "content-security-policy", "content-security-policy-report-only", "content-type", "cookie",
  "dnt", "date", "etag", "expect", "expires", "forwarded", "from", "host", "if-match",
  "if-modified-since", "if-none-match", "if-range", "if-unmodified-since", "last-modified",
  "link", "location", "max-forwards", "origin", "pragma", "proxy-authenticate",
  "proxy-authorization", "public-key-pins", "public-key-pins-report-only", "range", "referer",
  "referrer-policy", "refresh", "retry-after", "sec-websocket-accept",
  "sec-websocket-extensions", "sec-websocket-key", "sec-websocket-protocol",
  "sec-websocket-version", "server", "set-cookie", "strict-transport-security", "te", "trailer",
  "transfer-encoding", "user-agent", "upgrade", "upgrade-insecure-requests", "vary", "via",
  "warning", "www-authenticate", "x-content-type-options", "x-dns-prefetch-control",
  "x-frame-options", "x-xss-protection"]

/-- The hash FNV-1a. -/
def fnv (bs : Bytes) : UInt64 :=
  bs.foldl (fun h b => (h ^^^ b.toUInt64) * 0x100000001b3) 0xcbf29ce484222325

/-- A small number in eight bytes, the lowest one first. -/
def wordBytes (n : Nat) : Bytes := UInt8.ofNat n :: List.replicate 7 0

/-- Fifteen bits of the hash of a lowercase name. -/
def nameHash (name : String) : Nat :=
  let bs := match standardNames.findIdx? (· == name) with
    | some i => wordBytes 0 ++ wordBytes i
    | none => wordBytes 1 ++ Text.Utf8.encode name
  (fnv bs).toNat % 32768

/-! ## Places -/

/-- A name in its slot. -/
structure Slot where
  hash : Nat
  name : String
  deriving Repr, DecidableEq

/-- What was found for a name on the way from the slot that its hash points to. -/
inductive Place
  | free (i : Nat)
  /-- The name is there already. -/
  | taken
  /-- The slot of a name that is nearer to its own; so far was the way. -/
  | nearer (i way : Nat)
  deriving Repr, DecidableEq

/-- Looks for a place, `way` slots after the one that the hash points to. A table has a free slot, so
that the search ends before it has gone round. -/
def seek (slots : Array (Option Slot)) (s : Slot) : (left way : Nat) → Place
  | 0, _ => .taken
  | left + 1, way =>
    let i := (s.hash + way) % slots.size
    match slots[i]?.join with
    | none => .free i
    | some t =>
      if (i + slots.size - t.hash % slots.size) % slots.size < way then .nearer i way
      else if t = s then .taken
      else seek slots s left (way + 1)

/-- Puts a name into a slot. What is there goes into the next one, and so on to the first free slot.
Gives the number of those that moved. -/
def push (slots : Array (Option Slot)) (s : Slot) (i : Nat) : (left moved : Nat) →
    Array (Option Slot) × Nat
  | 0, moved => (slots, moved)
  | left + 1, moved =>
    let here := i % slots.size
    match slots[here]?.join with
    | none => (slots.setIfInBounds here (some s), moved)
    | some t => push (slots.setIfInBounds here (some s)) t (i + 1) left (moved + 1)

/-- The first free slot from the one that the hash points to. -/
def firstFree (slots : Array (Option Slot)) (s : Slot) : (left way : Nat) → Nat
  | 0, way => (s.hash + way) % slots.size
  | left + 1, way =>
    let i := (s.hash + way) % slots.size
    if slots[i]?.join.isNone then i else firstFree slots s left (way + 1)

/-! ## Tables -/

structure Slots where
  /-- There are two to the power of this many slots. -/
  bits : Nat
  slots : Array (Option Slot)
  /-- How many of them have a name. -/
  used : Nat
  /-- A sign of crowding was seen. -/
  crowded : Bool
  /-- Names are hashed with a random key. -/
  randomized : Bool
  deriving Repr, DecidableEq

namespace Slots

/-- The greatest exponent of the number of slots. -/
def maxBits : Nat := 15

/-- A table with room for so many names, of which a quarter of the slots is kept free. -/
def new (names : Nat) : Slots :=
  let least := names + names / 3
  let bits := if least ≤ 1 then 0 else (least - 1).log2 + 1
  ⟨bits, Array.replicate (1 <<< bits) none, 0, false, false⟩

/-- Twice as many slots, filled again in the order of the names from the first one in its own slot. -/
def double (t : Slots) : Slots :=
  let old := t.slots.toList
  let first := (t.slots.zipIdx.findIdx? fun (s, i) =>
    s.any fun s => s.hash % t.slots.size == i).getD 0
  let slots := (old.drop first ++ old.take first).foldl
    (fun slots s => match s with
      | none => slots
      | some s => slots.setIfInBounds (firstFree slots s slots.size 0) (some s))
    (Array.replicate (1 <<< (t.bits + 1)) none)
  { t with bits := t.bits + 1, slots := slots, crowded := false }

/-- Makes ready for one more name: none if that takes more slots than there may be. -/
def prepare? (t : Slots) : Option Slots :=
  if !t.crowded || t.randomized then some t
  else if 1 <<< t.bits ≤ 5 * t.used then
    if maxBits ≤ t.bits then none else some t.double
  else some { t with randomized := true }

/-- Puts a name into its place. -/
def put (t : Slots) (name : String) : Slots :=
  let s : Slot := ⟨nameHash name, name⟩
  match seek t.slots s t.slots.size 0 with
  | .taken => t
  | .free i => { t with slots := t.slots.setIfInBounds i (some s), used := t.used + 1 }
  | .nearer i way =>
    let (slots, moved) := push t.slots s i t.slots.size 0
    { t with
      slots := slots
      used := t.used + 1
      crowded := t.crowded || 512 ≤ way || 128 ≤ moved }

/-- Adds a lowercase name. What is in a table with a random key is not followed, as nothing depends
on it. -/
def add? (t : Slots) (name : String) : Option Slots :=
  t.prepare?.map fun t => if t.randomized then t else t.put name

/-- Adds names one by one. -/
def addAll? (t : Slots) : List String → Option Slots
  | [] => some t
  | name :: names => (t.add? name).bind fun t => t.addAll? names

end Slots

end Refetch
