import Signpost.Idna.Mapping
import Signpost.Idna.Punycode
import Signpost.Unicode.BidiClass
import Signpost.Unicode.JoiningType
import Signpost.Unicode.Normalization

/-!
# Domain names in ASCII

A domain name is mapped and composed and then taken label by label. A label that is not ASCII is
checked and written in Punycode, one that is in Punycode already is checked as what it stands for.
-/

namespace Signpost.Idna

open Unicode

/-! ## Labels -/

def acePrefix : List Char := "xn--".toList

/-- What a label in Punycode has behind its start. -/
def afterAce? : List Char → Option (List Char)
  | 'x' :: 'n' :: '-' :: '-' :: rest => some rest
  | _ => none

/-- A label as it is and as it is written in ASCII. -/
structure Label where
  text : List Char
  ascii : List Char

/-- Whether the joiner after the characters `before`, the last one first, and before the characters
`after` has its place there: after a mark that suppresses a vowel, or, if it keeps letters from
joining, between two letters that would join. -/
def joinerFits (joiner : Char) (before after : List Char) : Bool :=
  let nearest (s : List Char) : JoiningType :=
    ((s.map JoiningType.of).find? (· != .transparent)).getD .none
  (before.head?.map CombiningClass.of) == some CombiningClass.virama ||
    (joiner == '\u200c' && (nearest before == .left || nearest before == .dual) &&
      (nearest after == .right || nearest after == .dual))

/-- Whether every joiner has its place. The characters `before` are those already passed, the last
one first. -/
def joinersFit (before : List Char) : List Char → Bool
  | [] => true
  | c :: rest =>
    ((c != '\u200c' && c != '\u200d') || joinerFits c before rest) && joinersFit (c :: before) rest

/-- Whether a label that is not ASCII may stand in a domain name. -/
def isLabel (label : List Char) : Bool :=
  label.all (fun c => c != '.' && Mapping.isValid c) && Normalization.composed label == label &&
    !(label.head?.map Category.isMark).getD false && joinersFit [] label

/-- Reads a label that was mapped and composed. -/
def Label.ofMapped? (label : List Char) : Option Label :=
  match afterAce? label with
  | some ace =>
    match Punycode.decode? ace with
    | none => none
    | some text =>
      if text.all Punycode.isAscii || !isLabel text then none else some { text, ascii := label }
  | none =>
    if label.all Punycode.isAscii then some { text := label, ascii := label }
    else if isLabel label then
      some { text := label, ascii := acePrefix ++ Punycode.encode label }
    else none

/-! ## Directions -/

/-- Whether the characters of the class make a domain name one that runs from right to left. -/
def isRightToLeft : BidiClass → Bool
  | .rightToLeft | .arabicLetter | .arabicNumber => true
  | _ => false

/-- Whether a label can stand in a domain name that runs from right to left: it starts with a
letter, holds no letters of the other direction, and ends in a letter or a number. -/
def directionFits (label : List Char) : Bool :=
  let classes := label.map BidiClass.of
  let last := (classes.reverse.dropWhile (· == .nonspacingMark)).head?
  let neutral (c : BidiClass) : Bool :=
    c == .europeanNumber || c == .europeanSeparator || c == .commonSeparator ||
      c == .europeanTerminator || c == .otherNeutral || c == .boundaryNeutral ||
      c == .nonspacingMark
  match classes.head? with
  | none => true
  | some .leftToRight =>
    classes.all (fun c => c == .leftToRight || neutral c) &&
      (last == some .leftToRight || last == some .europeanNumber)
  | some first =>
    (first == .rightToLeft || first == .arabicLetter) &&
      classes.all (fun c => isRightToLeft c || neutral c) &&
      (last == some .rightToLeft || last == some .arabicLetter || last == some .europeanNumber ||
        last == some .arabicNumber) &&
      !(classes.contains .europeanNumber && classes.contains .arabicNumber)

/-! ## Domain names -/

/-- Whether the character of a domain name in ASCII would mean something else in a URL. -/
def isDenied (c : Char) : Bool :=
  c.toNat ≤ 0x20 || c.toNat = 0x7F || "%#/:<>?@[\\]^|".toList.contains c

def toAscii? (domain : List Char) : Option (List Char) := do
  let mapped := (← domain.mapM Mapping.map?).flatten
  let labels ← (Text.split '.' (Normalization.composed mapped)).mapM Label.ofMapped?
  let isBidi := labels.any fun l => l.text.any fun c => isRightToLeft (BidiClass.of c)
  if isBidi && !labels.all (fun l => directionFits l.text) then none
  let ascii := ['.'].intercalate (labels.map Label.ascii)
  if ascii.any isDenied || labels.any (fun l => l.text.any isDenied) then none
  return ascii

end Signpost.Idna
