import Refetch.Text.Composition
import Refetch.Text.Utf8
import Refetch.Url.Idna.Classes
import Refetch.Url.Idna.Mapping
import Refetch.Url.Punycode
/-!
# Domain names in ASCII

A domain name is mapped, normalized and split into labels. A label beyond ASCII is spelled in
Punycode after `xn--`; one that is spelled so already must decode to a valid label. The characters
that have a meaning in a URL are refused.
-/

namespace Refetch.Url.Idna

/-- ASCII characters that no domain name of a URL may hold. -/
def isForbidden (c : Char) : Bool :=
  c.toNat ≤ 0x20 || c.toNat == 0x7F || "%#/:<>?@[\\]^|".toList.contains c

def isAscii (cs : List Char) : Bool := cs.all (·.toNat < 0x80)

/-- The characters with their replacements; none if one is refused. -/
def mapChars : List Char → Option (List Char)
  | [] => some []
  | c :: rest =>
    match fate c, mapChars rest with
    | .refuse, _ => none
    | _, none => none
    | .keep, some r => some (c :: r)
    | .drop, some r => some r
    | .replace cs, some r => some (cs ++ r)

/-- Splits at full stops. -/
def labels : List Char → List (List Char)
  | [] => [[]]
  | c :: rest =>
    if c = '.' then [] :: labels rest
    else
      match labels rest with
      | [] => [[c]]
      | l :: ls => (c :: l) :: ls

/-- The virama that a joiner may follow. -/
def isVirama (c : Char) : Bool := Text.combiningClass c == 9

/-- Each invisible joiner stands after a virama, or between letters that it keeps from joining.
`before` is what precedes, reversed. -/
def joinersFit (before : List Char) : List Char → Bool
  | [] => true
  | c :: rest =>
    let afterVirama := (before.head?.map isVirama).getD false
    let between :=
      (((before.dropWhile isTransparent).head?).map joinsNext).getD false &&
      (((rest.dropWhile isTransparent).head?).map joinsPrevious).getD false
    (if c.toNat = 0x200C then afterVirama || between
     else if c.toNat = 0x200D then afterVirama
     else true) && joinersFit (c :: before) rest

/-- The rule for labels of a name that has right-to-left characters. -/
def directionsFit (label : List Char) : Bool :=
  let ds := label.map direction
  let last := (ds.reverse.dropWhile (· == .mark)).head?
  match ds.head? with
  | none => true
  | some .left =>
    ds.all (fun d => d ∈ [.left, .digit, .separator, .commonSeparator, .terminator, .neutral,
      .boundary, .mark]) && (last == some .left || last == some .digit)
  | some .right | some .arabic =>
    ds.all (fun d => d ∈ [.right, .arabic, .arabicNumber, .digit, .separator, .commonSeparator,
      .terminator, .neutral, .boundary, .mark]) &&
    (last == some .right || last == some .arabic || last == some .digit ||
      last == some .arabicNumber) &&
    !(ds.contains .digit && ds.contains .arabicNumber)
  | some _ => false

def isRightToLeft (c : Char) : Bool :=
  direction c ∈ [Direction.right, .arabic, .arabicNumber]

/-- The label is normalized, of kept characters, and does not begin with a mark. -/
def isValidLabel (label : List Char) : Bool :=
  Text.normalize label == label && label.all (fun c => fate c == .keep) &&
  !((label.head?.map isMark).getD false) && joinersFit [] label

def acePrefix : List Char := "xn--".toList

/-- The label in Unicode; none if it is not valid. -/
def unicodeLabel (label : List Char) : Option (List Char) :=
  if acePrefix.isPrefixOf label then
    match Punycode.decode (label.drop 4) with
    | none => none
    | some u => if isAscii u || !isValidLabel u then none else some u
  else if isAscii label || isValidLabel label then some label
  else none

def asciiLabel (label : List Char) : List Char :=
  if isAscii label then label else acePrefix ++ Punycode.encode label

def joinLabels : List (List Char) → List Char
  | [] => []
  | [l] => l
  | l :: ls => l ++ '.' :: joinLabels ls

/-- The ASCII form of a domain name. -/
def toAscii (cs : List Char) : Option (List Char) := do
  let mapped ← mapChars cs
  let unicode ← (labels (Text.normalize mapped)).mapM unicodeLabel
  let directed := unicode.any (·.any isRightToLeft)
  guard (!directed || unicode.all directionsFit)
  let ascii := joinLabels (unicode.map asciiLabel)
  guard (!ascii.any isForbidden)
  pure ascii

end Refetch.Url.Idna
