import TunBridge.Url.Punycode
import TunBridge.Unicode.Category
import TunBridge.Unicode.Bidi
import TunBridge.Unicode.Joining
import TunBridge.Unicode.IdnaMapping
import TunBridge.Unicode.Normalization
/-!
Processing of a domain name, after UTS 46 nontransitional processing without DNS length limits:
mapping, NFC, then per label the Punycode decoding of `xn--` labels, no leading mark, ContextJ
for joiners (RFC 5892) and, in a name with right-to-left text, the bidi rule (RFC 5893). Only
whether a name is accepted, and whether it is empty or ends in a number, is ever observed.
-/
namespace TunBridge.Url.Domain

open TunBridge.Unicode

/-- The code points a character stands for after mapping, or `none` if it is refused. -/
def mapChar? (c : Char) : Option (List Char) :=
  match idnaStatus c with
  | .valid | .deviation => some [c]
  | .mapped r => some r
  | .ignored => some []
  | .disallowed => none

/-- Whether a character may stand in a decoded label as it is: valid, or a deviation. -/
def keeps (c : Char) : Bool :=
  match idnaStatus c with
  | .valid | .deviation => true
  | _ => false

theorem mapChar?_of_keeps (c : Char) (h : keeps c = true) : mapChar? c = some [c] := by
  unfold keeps at h
  unfold mapChar?
  split at h <;> simp_all

def startsWithMark (label : List Char) : Bool :=
  (label.head?.map fun c => (generalCategory c).isMark).getD false

def nearestJoins (near : List Char) (types : List JoiningType) : Bool :=
  ((near.dropWhile fun c => joiningType c == .transparent).head?.map fun c =>
    types.contains (joiningType c)).getD false

/-- Whether every joiner of a label stands where ContextJ allows it. `before` is the label
before the character at hand, nearest first. -/
def joinersAllowed (before : List Char) : List Char → Bool
  | [] => true
  | c :: after =>
    let afterVirama := (before.head?.map isVirama).getD false
    let allowed :=
      if c.toNat = 0x200D then afterVirama
      else if c.toNat = 0x200C then
        afterVirama || (nearestJoins before [.leftJoining, .dualJoining] &&
          nearestJoins after [.rightJoining, .dualJoining])
      else true
    allowed && joinersAllowed (c :: before) after

/-- Whether a character is a right-to-left letter or an Arabic digit, which makes a name one
the bidi rule applies to. -/
def rightToLeft (c : Char) : Bool :=
  match bidiClass c with
  | .rightToLeft | .arabicLetter | .arabicNumber => true
  | _ => false

def rtlAllowed : List BidiClass :=
  [.rightToLeft, .arabicLetter, .arabicNumber, .europeanNumber, .europeanSeparator,
    .commonSeparator, .europeanTerminator, .otherNeutral, .boundaryNeutral, .nonspacingMark]

def ltrAllowed : List BidiClass :=
  [.leftToRight, .europeanNumber, .europeanSeparator, .commonSeparator, .europeanTerminator,
    .otherNeutral, .boundaryNeutral, .nonspacingMark]

def bidiLabelValid (label : List Char) : Bool :=
  match label with
  | [] => true
  | c :: _ =>
    let classes := label.map bidiClass
    let last := (classes.reverse.dropWhile (· == .nonspacingMark)).head?
    let endsIn (ends : List BidiClass) := (last.map ends.contains).getD false
    match bidiClass c with
    | .rightToLeft | .arabicLetter =>
      classes.all rtlAllowed.contains &&
        endsIn [.rightToLeft, .arabicLetter, .europeanNumber, .arabicNumber] &&
        !(classes.contains .europeanNumber && classes.contains .arabicNumber)
    | .leftToRight => classes.all ltrAllowed.contains && endsIn [.leftToRight, .europeanNumber]
    | _ => false

def labelValid (label : List Char) : Bool :=
  !startsWithMark label && joinersAllowed [] label

def ascii (cs : List Char) : Bool := cs.all (·.toNat < 128)

def checkLabel? (denied : Char → Bool) (label : List Char) : Option (List Char) :=
  match label with
  | 'x' :: 'n' :: '-' :: '-' :: ace =>
    if !ascii ace || 2000 < ace.length then none
    else match Punycode.decode? ace with
      | none => none
      | some text =>
        if ascii text || !isNfc text then none
        else if text.any fun c => !keeps c || denied c || c = '.' then none
        else if labelValid text then some text
        else none
  | _ =>
    if !ascii label && 1000 < label.length then none
    else if labelValid label then some label
    else none

/-- A domain name after processing, or `none` if it is refused. `denied` are the ASCII
characters the caller refuses. -/
def process? (denied : Char → Bool) (name : List Char) : Option (List Char) := do
  let mapped := nfc (← name.mapM mapChar?).flatten
  if mapped.any denied then failure
  let labels ← (mapped.splitOn '.').mapM (checkLabel? denied)
  if labels.any (·.any rightToLeft) && !labels.all bidiLabelValid then failure
  pure (List.intercalate ['.'] labels)

end TunBridge.Url.Domain
