/-!
# Why an expression is refused

The causes for which a regular expression is not accepted: its text cannot be read, a class or flag
asks for something that does not exist, or the machine for it would be too large.
-/

namespace Signpost.Regex

/-- Why a regular expression is refused. -/
inductive Fault where
  | unexpectedEnd
  | unknownEscape
  | backReference
  | lookAround
  | invalidHexDigit
  | emptyHex
  | invalidCodePoint
  | unclosedClass
  | invalidClassItem
  | invalidClassRange
  | invalidPropertyName
  | unknownProperty
  | emptyGroupName
  | invalidGroupName
  | duplicateGroupName
  | unclosedGroup
  | unopenedGroup
  | unknownFlag
  | duplicateFlag
  | repeatedNegation
  | danglingNegation
  | missingOperand
  | unclosedCount
  | emptyCount
  | invalidCount
  | unknownWordBoundary
  | nestedTooDeep
  | unicodeNotAllowed
  | matchesPartsOfCharacters
  | tooLarge
  deriving DecidableEq, Repr, Inhabited

namespace Fault

def reason : Fault → String
  | .unexpectedEnd => "incomplete escape sequence, reached end of pattern prematurely"
  | .unknownEscape => "unrecognized escape sequence"
  | .backReference => "backreferences are not supported"
  | .lookAround => "look-around, including look-ahead and look-behind, is not supported"
  | .invalidHexDigit => "invalid hexadecimal digit"
  | .emptyHex => "hexadecimal literal empty"
  | .invalidCodePoint => "hexadecimal literal is not a Unicode scalar value"
  | .unclosedClass => "unclosed character class"
  | .invalidClassItem => "invalid escape sequence found in character class"
  | .invalidClassRange => "invalid character class range"
  | .invalidPropertyName => "invalid Unicode character class"
  | .unknownProperty => "Unicode property not found"
  | .emptyGroupName => "empty capture group name"
  | .invalidGroupName => "invalid capture group character"
  | .duplicateGroupName => "duplicate capture group name"
  | .unclosedGroup => "unclosed group"
  | .unopenedGroup => "unopened group"
  | .unknownFlag => "unrecognized flag"
  | .duplicateFlag => "duplicate flag"
  | .repeatedNegation => "flag negation operator repeated"
  | .danglingNegation => "dangling flag negation operator"
  | .missingOperand => "repetition operator missing expression"
  | .unclosedCount => "unclosed counted repetition"
  | .emptyCount => "repetition quantifier expects a valid decimal"
  | .invalidCount => "invalid repetition count range"
  | .unknownWordBoundary => "unrecognized special word boundary"
  | .nestedTooDeep => "exceed the maximum number of nested parentheses/brackets"
  | .unicodeNotAllowed => "Unicode not allowed here"
  | .matchesPartsOfCharacters => "pattern can match invalid UTF-8"
  | .tooLarge => "the compiled form is too large"

/-- The wording of the refusal; an expression that is too large is told apart from one that cannot
be read. -/
def message : Fault → String
  | .tooLarge => "Compiled regex exceeds size limit of 10485760 bytes."
  | fault => "regex parse error: " ++ fault.reason

end Fault

end Signpost.Regex
