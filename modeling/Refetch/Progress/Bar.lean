import Refetch.Error
import Refetch.Progress.Amount
import Refetch.Progress.Style
import Refetch.Progress.Template
import Refetch.Text.Columns
/-!
# Progress bars

A bar knows its length, its position and a message, and draws them as lines of text. How much of it
is filled is computed with 24 significant bits.
-/

namespace Refetch.Progress

/-- What a look comes down to once its template and its characters are read. -/
structure Layout where
  template : Template
  /-- What a bar is made of, the first for what is done, the last for what remains. -/
  characters : List Char
  /-- The columns of each of them. -/
  cell : Nat
  deriving Repr, DecidableEq

def defaultCharacters : List Char := ['█', '░']

/-- The columns that all of the characters have. -/
def evenCell? : List Char → Option Nat
  | [] => none
  | c :: rest =>
    let n := Text.charColumns c
    if rest.all fun d => Text.charColumns d == n then some n else none

/-- The text is cut into single characters; marks do not go with the one before them. -/
def readCharacters (text : String) : Except Crash (List Char × Nat) :=
  if text.length < 2 then .error .tooFewBarCharacters
  else
    match evenCell? text.toList with
    | none => .error .unevenBarCharacters
    | some n => .ok (text.toList, n)

/-- A malformed template gives way to the default one. -/
def readTemplate : Option String → Except Crash Template
  | none => .ok .defaults
  | some text =>
    match Template.parse text with
    | .ok t => .ok t
    | .error .malformed => .ok .defaults
    | .error .tooWide => .error .fieldTooWide

def Look.layout (l : Look) : Except Crash Layout :=
  match readTemplate l.template with
  | .error c => .error c
  | .ok template =>
    match l.characters with
    | none => .ok ⟨template, defaultCharacters, 1⟩
    | some text =>
      match readCharacters text with
      | .error c => .error c
      | .ok (characters, cell) => .ok ⟨template, characters, cell⟩

inductive Phase
  | running
  /-- Ended, and still shown. -/
  | ended
  /-- Ended and no longer shown. -/
  | cleared
  deriving Repr, DecidableEq

structure Bar where
  /-- A bar without layout is never shown. -/
  layout : Option Layout
  length : Option Nat
  position : Nat
  message : String
  phase : Phase
  /-- The number of moves. -/
  ticks : Nat
  deriving Repr, DecidableEq

/-- Eight spaces in the place of each tab. -/
def expandTabs (s : String) : String :=
  String.ofList (s.toList.flatMap fun c => if c = '\t' then List.replicate 8 ' ' else [c])

/-- The bar of a look. One that is not enabled has no length. -/
def Look.toBar (l : Look) (length : Option Nat) : Except Crash Bar :=
  if l.enabled then
    match l.layout with
    | .error c => .error c
    | .ok layout => .ok ⟨some layout, length, 0, "", .running, 0⟩
  else .ok ⟨none, none, 0, "", .running, 0⟩

namespace Bar

def isHidden (b : Bar) : Bool := b.layout.isNone

def isFinished (b : Bar) : Bool := b.phase != .running

def setMessage (b : Bar) (text : String) : Bar := { b with message := expandTabs text }

def setPosition (b : Bar) (n : Nat) : Bar := { b with position := n, ticks := b.ticks + 1 }

/-- Ends the bar at its full length and keeps it on the screen. -/
def finish (b : Bar) : Bar := { b with position := b.length.getD b.position, phase := .ended }

/-- Ends the bar where it is. -/
def abandon (b : Bar) : Bar := { b with phase := .ended }

/-- Ends the bar at its full length and takes it from the screen. -/
def clear (b : Bar) : Bar := { b with position := b.length.getD b.position, phase := .cleared }

/-! ## Drawing -/

def single (a : Fraction) : Fraction := a.significant 24

/-- How much is done, from 0 to 1. -/
def fraction (b : Bar) : Fraction :=
  match b.length with
  | none => .ofNat 0
  | some 0 => .ofNat 1
  | some n =>
    if b.position = 0 then .ofNat 0
    else if n ≤ b.position then .ofNat 1
    else single ((single (.ofNat b.position)).div (single (.ofNat n)))

/-- The percentage, rounded. -/
def percent (b : Bar) : Nat := (single (b.fraction.mul (.ofNat 100))).round

/-- The character between what is done and what remains. -/
def headCell (l : Layout) (part : Fraction) : Char :=
  let steps := l.characters.length - 2
  let i := if steps ≤ 1 then 1 else steps - (single (part.mul (.ofNat steps))).floor
  l.characters.getD i ' '

def drawCells (l : Layout) (done : Fraction) (columns : Nat) : List Char :=
  let cells := columns / l.cell
  let fill := single (done.mul (single (.ofNat cells)))
  let full := fill.floor
  let head := fill.num ≠ 0 ∧ full < cells
  List.replicate full (l.characters.headD ' ') ++
    (if head then [headCell l fill.part] else []) ++
    List.replicate (cells - full - if head then 1 else 0) (l.characters.getLastD ' ')

/-- The characters that begin and end within columns `start` to `stop`. -/
def cutFrom (start stop at_ : Nat) : List Char → List Char
  | [] => []
  | c :: rest =>
    let next := at_ + Text.charColumns c
    if stop < at_ then []
    else if start ≤ at_ ∧ next ≤ stop then c :: cutFrom start stop next rest
    else cutFrom start stop next rest

/-- Fits a text into a number of columns. -/
def fit (align : Align) (width : Nat) (truncate : Bool) (cs : List Char) : List Char :=
  let used := Text.columns cs
  if width < used then
    if truncate then
      let start := match align with
        | .left => 0
        | .right => used - width
        | .center => (used - width) / 2
      cutFrom start (start + width) 0 cs
    else cs
  else
    let gap := width - used
    let before := match align with
      | .left => 0
      | .right => gap
      | .center => gap / 2
    List.replicate before ' ' ++ cs ++ List.replicate (gap - before) ' '

/-- The pictures of a spinner; the last one is shown when it has ended. -/
def spinnerPictures : List Char := ['⠁', '⠂', '⠄', '⡀', '⢀', '⠠', '⠐', '⠈']

def spinner (b : Bar) : Char :=
  if b.isFinished then ' ' else spinnerPictures.getD (b.ticks % spinnerPictures.length) ' '

/-- A field that takes what the others leave of its line. -/
inductive Wide
  | bar
  | message (align : Align)
  deriving Repr, DecidableEq

/-- Marks the place of a wide field until the rest of its line is known. -/
def gapMark : Char := '\x00'

def wide? (f : Field) : Option Wide :=
  match f.key with
  | "wide_bar" => some .bar
  | "wide_msg" => some (.message f.align)
  | _ => none

def fieldText (b : Bar) (l : Layout) (f : Field) : List Char :=
  let length := b.length.getD b.position
  match f.key with
  | "wide_bar" | "wide_msg" => [gapMark]
  | "bar" => drawCells l b.fraction (f.width.getD 20)
  | "spinner" => [b.spinner]
  | "msg" => b.message.toList
  | "pos" => Nat.toDigits 10 b.position
  | "len" => Nat.toDigits 10 length
  | "percent" => Nat.toDigits 10 b.percent
  | "bytes" => (amount b.position).toList
  | "total_bytes" => (amount length).toList
  | "bytes_per_sec" => (amount 0 ++ "/s").toList
  | "eta" => "0s".toList
  | _ => []

def drawField (b : Bar) (l : Layout) (f : Field) : List Char :=
  let text := b.fieldText l f
  match f.width with
  | some width => fit f.align width f.truncate text
  | none => text

/-- Puts the wide field into its place. -/
def expand (b : Bar) (l : Layout) (columns : Nat) (wide : Option Wide) (line : List Char) :
    List Char :=
  let left := columns - Text.columns (line.filter (· ≠ gapMark))
  let fill (cs : List Char) := line.flatMap fun c => if c = gapMark then cs else [c]
  match wide with
  | none => line
  | some .bar => fill (drawCells l b.fraction left)
  | some (.message align) =>
    let text := fit align left true b.message.toList
    fill <|
      if line.getLast? = some gapMark then (text.reverse.dropWhile Text.isBlank).reverse else text

def splitLines : List Char → List (List Char)
  | [] => [[]]
  | c :: rest =>
    match splitLines rest with
    | [] => [[]]
    | line :: lines => if c = '\n' then [] :: line :: lines else (c :: line) :: lines

/-- Draws parts after what there is of a line. -/
def drawFrom (b : Bar) (l : Layout) (columns : Nat) (wide : Option Wide) (line : List Char) :
    Template → List (List Char)
  | [] => if line.isEmpty then [] else splitLines (b.expand l columns wide line)
  | .text t :: rest => drawFrom b l columns wide (line ++ (expandTabs t).toList) rest
  | .field f :: rest => drawFrom b l columns (wide? f <|> wide) (line ++ b.drawField l f) rest
  | .newline :: rest =>
    splitLines (b.expand l columns wide line) ++ drawFrom b l columns wide [] rest

/-- The template draws a bar somewhere. -/
def hasCells (t : Template) : Bool :=
  t.any fun part => match part with
    | .field f => f.key == "bar" || f.key == "wide_bar"
    | _ => false

/-- The lines of the bar on a terminal with so many columns. -/
def draw (b : Bar) (columns : Nat) : Except Crash (List (List Char)) :=
  match b.layout with
  | none => .ok []
  | some l =>
    if b.phase = .cleared then .ok []
    else if l.cell = 0 ∧ hasCells l.template then .error .flatBarCharacters
    else .ok (b.drawFrom l columns none [] l.template)

end Bar

end Refetch.Progress
