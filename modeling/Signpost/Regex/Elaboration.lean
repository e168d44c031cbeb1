import Signpost.Regex.Ast
import Signpost.Regex.Fault
import Signpost.Regex.Expr
import Signpost.Unicode.Folding
import Signpost.Unicode.PropertyName

/-!
# From written form to expression

Elaboration goes through a tree from left to right with the flags in force, and turns every part
into an expression. A flag switched on inside a group holds to the end of the group, across
alternatives. With Unicode off, classes hold bytes: a class that reaches beyond ASCII could match a
part of a character and is refused.
-/

namespace Signpost.Regex

open Signpost.Unicode (CharSet)

/-- The flags in force; blanks are dealt with when the text is read. -/
structure Flags where
  caseInsensitive : Bool := false
  multiLine : Bool := false
  dotAll : Bool := false
  swapGreed : Bool := false
  unicode : Bool := true
  crlf : Bool := false
  deriving DecidableEq, Repr, Inhabited

namespace Flags

def apply (f : Flags) (c : FlagChange) : Flags where
  caseInsensitive := (c.state? .caseInsensitive).getD f.caseInsensitive
  multiLine := (c.state? .multiLine).getD f.multiLine
  dotAll := (c.state? .dotAll).getD f.dotAll
  swapGreed := (c.state? .swapGreed).getD f.swapGreed
  unicode := (c.state? .unicode).getD f.unicode
  crlf := (c.state? .crlf).getD f.crlf

end Flags

/-! ## Character classes -/

/-- The letters, digits and signs that make up words. -/
def wordSet : CharSet :=
  (Unicode.Property.alphabetic.set.union
    (Unicode.Category.setOf (Unicode.Category.marks ++ [.decimalNumber, .connectorPunctuation]))).union
    Unicode.Property.joinControl.set

/-- The ASCII letters, digits and the underscore. -/
def asciiWordSet : CharSet :=
  CharSet.ofRanges [(0x30, 0x39), (0x41, 0x5A), (0x5F, 0x5F), (0x61, 0x7A)]

namespace LetterClass

/-- The characters of the class among all characters. -/
def unicodeSet : LetterClass → CharSet
  | .digit => Unicode.Category.setOf [.decimalNumber]
  | .space => Unicode.Property.whiteSpace.set
  | .word => wordSet

/-- The characters of the class among the ASCII characters. -/
def asciiSet : LetterClass → CharSet
  | .digit => CharSet.range 0x30 0x39
  | .space => CharSet.ofRanges [(0x09, 0x0D), (0x20, 0x20)]
  | .word => asciiWordSet

end LetterClass

namespace PosixClass

/-- The characters of the class; all are ASCII. -/
def set : PosixClass → CharSet
  | .alnum => CharSet.ofRanges [(0x30, 0x39), (0x41, 0x5A), (0x61, 0x7A)]
  | .alpha => CharSet.ofRanges [(0x41, 0x5A), (0x61, 0x7A)]
  | .ascii => CharSet.range 0 0x7F
  | .blank => CharSet.ofRanges [(0x09, 0x09), (0x20, 0x20)]
  | .cntrl => CharSet.ofRanges [(0x00, 0x1F), (0x7F, 0x7F)]
  | .digit => CharSet.range 0x30 0x39
  | .graph => CharSet.range 0x21 0x7E
  | .lower => CharSet.range 0x61 0x7A
  | .print => CharSet.range 0x20 0x7E
  | .punct => CharSet.ofRanges [(0x21, 0x2F), (0x3A, 0x40), (0x5B, 0x60), (0x7B, 0x7E)]
  | .space => CharSet.ofRanges [(0x09, 0x0D), (0x20, 0x20)]
  | .upper => CharSet.range 0x41 0x5A
  | .word => asciiWordSet
  | .xdigit => CharSet.ofRanges [(0x30, 0x39), (0x41, 0x46), (0x61, 0x66)]

end PosixClass

namespace PropertyQuery

def set? : PropertyQuery → Option CharSet
  | .named name => Unicode.PropertyName.named? name
  | .valued name value => Unicode.PropertyName.valued? name value

end PropertyQuery

/-- The set with the other case of its ASCII letters. -/
def foldAscii (s : CharSet) : CharSet :=
  let upper := s.inter (CharSet.range 0x41 0x5A)
  let lower := s.inter (CharSet.range 0x61 0x7A)
  (s.union ⟨upper.intervals.map fun i => ⟨i.lo + 32, i.hi + 32⟩⟩).union
    ⟨lower.intervals.map fun i => ⟨i.lo - 32, i.hi - 32⟩⟩

namespace Flags

/-- The set with the other case of its letters, where case does not count. -/
def fold (f : Flags) (s : CharSet) : CharSet :=
  if f.caseInsensitive then
    if f.unicode then Unicode.Folding.close s else foldAscii s
  else s

/-- All that a class may hold: characters, or bytes where Unicode is off. -/
def complement (f : Flags) (s : CharSet) : CharSet :=
  if f.unicode then s.complement else s.complement.inter (CharSet.range 0 0xFF)

/-- The set folded, then turned around if it is negated. -/
def foldAndNegate (f : Flags) (negated : Bool) (s : CharSet) : CharSet :=
  if negated then f.complement (f.fold s) else f.fold s

/-- The members of a class, unless it holds bytes that are no ASCII characters. -/
def checkClass (f : Flags) (s : CharSet) : Except Fault CharSet :=
  if f.unicode || s.isAscii then .ok s else .error .matchesPartsOfCharacters

def letterSet (f : Flags) (negated : Bool) (kind : LetterClass) : CharSet :=
  let s := if f.unicode then kind.unicodeSet else kind.asciiSet
  if negated then f.complement s else s

def propertySet (f : Flags) (negated : Bool) (q : PropertyQuery) : Except Fault CharSet :=
  if f.unicode then
    match q.set? with
    | some s => .ok (f.foldAndNegate negated s)
    | none => .error .unknownProperty
  else .error .unicodeNotAllowed

/-- The character of a literal; a byte beyond ASCII is none. -/
def literalChar (f : Flags) (l : Literal) : Except Fault Char :=
  if !f.unicode && l.byte && l.char.toNat > 0x7F then .error .matchesPartsOfCharacters
  else .ok l.char

/-- The character of a literal in a class; where Unicode is off it has to be ASCII. -/
def classChar (f : Flags) (l : Literal) : Except Fault Char := do
  let c ← f.literalChar l
  if f.unicode || c.toNat ≤ 0x7F then .ok c else .error .unicodeNotAllowed

mutual
/-- The members of what stands between brackets. -/
def classSet (f : Flags) : ClassSet → Except Fault CharSet
  | .literal l => do return CharSet.single (← f.classChar l)
  | .range lo hi => do
    let a ← f.classChar lo
    let b ← f.classChar hi
    return CharSet.range a.toNat b.toNat
  | .posix negated kind => do
    let s := f.foldAndNegate negated kind.set
    f.checkClass s
  | .property negated q => f.propertySet negated q
  | .letter negated kind => f.checkClass (f.letterSet negated kind)
  | .bracket negated inner => do
    f.checkClass (f.foldAndNegate negated (← classSet f inner))
  | .union items => classUnion f items
  | .op kind lhs rhs => do
    let a := f.fold (← classSet f lhs)
    let b := f.fold (← classSet f rhs)
    match kind with
    | .intersection => return a.inter b
    | .difference => return a.diff b
    | .symmetricDifference => return a.symmDiff b
def classUnion (f : Flags) : List ClassSet → Except Fault CharSet
  | [] => return CharSet.empty
  | item :: rest => do
    let a ← classSet f item
    return a.union (← classUnion f rest)
end

def dot (f : Flags) : Except Fault Expr :=
  if !f.unicode then .error .matchesPartsOfCharacters
  else if f.dotAll then .ok (.set CharSet.full)
  else if f.crlf then .ok (.set (CharSet.ofChars ['\n', '\r']).complement)
  else .ok (.set (CharSet.single '\n').complement)

def look (f : Flags) : Anchor → Look
  | .lineStart => if f.multiLine then .lineStart f.crlf else .textStart
  | .lineEnd => if f.multiLine then .lineEnd f.crlf else .textEnd
  | .textStart => .textStart
  | .textEnd => .textEnd
  | .wordBoundary => .word .boundary f.unicode
  | .notWordBoundary => .word .inside f.unicode
  | .wordStart => .word .start f.unicode
  | .wordEnd => .word .finish f.unicode
  | .wordStartHalf => .word .startHalf f.unicode
  | .wordEndHalf => .word .finishHalf f.unicode

end Flags

/-! ## Trees -/

namespace Ast

mutual
/-- The expression of a tree and the flags in force after it. -/
def elaborate (f : Flags) : Ast → Except Fault (Expr × Flags)
  | .empty => .ok (.empty, f)
  | .flags change => .ok (.empty, f.apply change)
  | .literal l => do return (.set (f.fold (CharSet.single (← f.literalChar l))), f)
  | .dot => do return (← f.dot, f)
  | .anchor a => .ok (.look (f.look a), f)
  | .property negated q => do return (.set (← f.propertySet negated q), f)
  | .letter negated kind => do return (.set (← f.checkClass (f.letterSet negated kind)), f)
  | .bracket negated set => do
    let s ← f.classSet set
    return (.set (← f.checkClass (f.foldAndNegate negated s)), f)
  | .repetition lo hi greedy body => do
    let (e, f) ← elaborate f body
    return (Expr.repeated lo hi (greedy != f.swapGreed) e, f)
  | .group (.capture index name) body => do
    let (e, _) ← elaborate f body
    return (.capture index name e, f)
  | .group (.plain change) body => do
    let (e, _) ← elaborate (f.apply change) body
    return (e, f)
  | .alternation branches => do
    let (es, f) ← elaborateAll f branches
    return (Expr.alternatives es, f)
  | .concat parts => do
    let (es, f) ← elaborateAll f parts
    return (Expr.sequence es, f)
/-- The expressions of the trees in order, the flags carried from each to the next. -/
def elaborateAll (f : Flags) : List Ast → Except Fault (List Expr × Flags)
  | [] => .ok ([], f)
  | ast :: rest => do
    let (e, f) ← elaborate f ast
    let (es, f) ← elaborateAll f rest
    return (e :: es, f)
end

end Ast

end Signpost.Regex
