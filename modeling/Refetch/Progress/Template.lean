import Refetch.Text.Blank
/-!
# Templates of progress displays

A template is text with fields between braces. A field has a key and, after a colon, an alignment,
a number of columns, a mark that cuts off what is too long, and colours, which are passed over.
Doubled braces stand for themselves, and so does an opening brace before a blank.

A template is read character by character. It is malformed if a character has no meaning where it
stands; a field that the end of the template leaves open is dropped, unless its key is complete.
-/

namespace Refetch.Progress

inductive Align
  | left
  | center
  | right
  deriving Repr, DecidableEq

structure Field where
  key : String
  align : Align
  width : Option Nat
  /-- What is wider is cut off. -/
  truncate : Bool
  deriving Repr, DecidableEq

namespace Template

inductive Part
  | text (text : String)
  | field (field : Field)
  | newline
  deriving Repr, DecidableEq

end Template

abbrev Template := List Template.Part

namespace Template

/-- Why a text is no template. -/
inductive Fault
  | malformed
  | tooWide
  deriving Repr, DecidableEq

/-- Where in a template the next character stands. -/
inductive Place
  | text
  /-- After an opening brace. -/
  | opened
  | key
  /-- After the colon. -/
  | align
  | width
  /-- After the point. -/
  | colour
  /-- After a closing brace in the text. -/
  | closed
  deriving Repr, DecidableEq

structure Reading where
  place : Place
  /-- The characters of the text, key or width under way, the last one first. -/
  pending : List Char
  /-- The parts read, the last one first. -/
  parts : List Part
  deriving Repr, DecidableEq

namespace Reading

def start : Reading := ⟨.text, [], []⟩

def pendingText (r : Reading) : String := String.ofList r.pending.reverse

def push (r : Reading) (c : Char) (place : Place) : Reading :=
  { r with pending := c :: r.pending, place := place }

/-- Ends the text under way. -/
def endText (r : Reading) : Reading :=
  if r.pending.isEmpty then r
  else { r with pending := [], parts := .text r.pendingText :: r.parts }

/-- Ends the key under way; its field follows. -/
def endKey (r : Reading) (place : Place) : Reading :=
  ⟨place, [], .field ⟨r.pendingText, .left, none, false⟩ :: r.parts⟩

/-- Takes the brace, what followed it and a blank for text. -/
def backtrack (r : Reading) (c : Char) : Reading :=
  ⟨.text, [], .text (String.ofList ('{' :: r.pending.reverse ++ [c])) :: r.parts⟩

/-- Changes the field read last. -/
def adjust (r : Reading) (place : Place) (f : Field → Field) : Reading :=
  match r.parts with
  | .field d :: rest => { r with place := place, parts := .field (f d) :: rest }
  | _ => { r with place := place }

/-- The greatest number of columns of a field. -/
def widthLimit : Nat := 65535

/-- Ends the number of columns under way. -/
def endWidth (r : Reading) (place : Place) : Except Fault Reading :=
  if r.pending.isEmpty then .ok { r with place := place }
  else
    let n := r.pending.reverse.foldl (fun n c => n * 10 + (c.toNat - '0'.toNat)) 0
    if widthLimit < n then .error .tooWide
    else .ok { r.adjust place (fun f => { f with width := some n }) with pending := [] }

/-- The blanks of ASCII. -/
def isSpace (c : Char) : Bool := c == ' ' || c == '\t' || c == '\n' || c == '\x0C' || c == '\r'

def step (r : Reading) (c : Char) : Except Fault Reading :=
  match r.place with
  | .text =>
    if c = '{' then .ok { r with place := .opened }
    else if c = '\n' then
      let r := r.endText
      .ok { r with parts := .newline :: r.parts }
    else if c = '}' then .ok (r.push c .closed)
    else .ok (r.push c .text)
  | .closed => if c = '}' then .ok { r with place := .text } else .error .malformed
  | .opened =>
    if c = '{' then .ok (r.push c .text)
    else if isSpace c then .ok (r.backtrack c)
    else if c = '}' ∨ c = ':' then .error .malformed
    else .ok (r.endText.push c .key)
  | .key =>
    if isSpace c then .ok (r.backtrack c)
    else if c = '}' then .ok (r.endKey .text)
    else if c = ':' then .ok (r.endKey .align)
    else .ok (r.push c .key)
  | .align =>
    if c = '<' then .ok (r.adjust .width fun f => { f with align := .left })
    else if c = '^' then .ok (r.adjust .width fun f => { f with align := .center })
    else if c = '>' then .ok (r.adjust .width fun f => { f with align := .right })
    else shared r c
  | .width => shared r c
  | .colour => .ok (if c = '}' then { r with place := .text } else r)
where
  /-- What may stand where a number of columns begins or goes on. -/
  shared (r : Reading) (c : Char) : Except Fault Reading :=
    if c.isDigit then .ok (r.push c .width)
    else if c = '!' then .ok (r.adjust .width fun f => { f with truncate := true })
    else if c = '.' then r.endWidth .colour
    else if c = '}' then r.endWidth .text
    else .error .malformed

/-- The parts read, with the text under way. -/
def finish (r : Reading) : Template :=
  (match r.place with
    | .text | .closed => r.endText.parts
    | _ => r.parts).reverse

end Reading

def read (r : Reading) : List Char → Except Fault Template
  | [] => .ok r.finish
  | c :: rest =>
    match r.step c with
    | .ok r => read r rest
    | .error fault => .error fault

/-- The template that a text writes. -/
def parse (text : String) : Except Fault Template := read .start text.toList

/-- A bar over the rest of the line, and the two numbers. -/
def defaults : Template :=
  let plain (key : String) : Part := .field ⟨key, .left, none, false⟩
  [plain "wide_bar", .text " ", plain "pos", .text "/", plain "len"]

end Template

end Refetch.Progress
