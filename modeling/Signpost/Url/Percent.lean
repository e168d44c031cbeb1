import Signpost.Text.Utf8

/-!
# Percent encoding

In each part of a URL some characters are written as a percent sign and two hexadecimal digits for
each of their bytes: controls and all that is not ASCII everywhere, and others that would end the
part.
-/

namespace Signpost.Url.Percent

/-- A part of a URL. -/
inductive Part where
  | userinfo
  | host
  | path
  | opaquePath
  | query
  | specialQuery
  | fragment
  deriving DecidableEq, Repr

/-- The printable ASCII characters that are written with percent signs in the part. -/
def Part.reserved : Part → String
  | .userinfo => " \"#<>?`\x7b\x7d/:;=@[\\]^|"
  | .host => ""
  | .path => " \"#<>?`\x7b\x7d"
  | .opaquePath => ""
  | .query => " \"#<>"
  | .specialQuery => " \"#<>'"
  | .fragment => " \"<>`"

/-- The upper-case hexadecimal digit of a value below 16. -/
def digit (value : Nat) : Char := (Nat.digitChar value).toUpper

/-- The byte as a percent sign and two digits. -/
def escape (b : UInt8) : List Char := ['%', digit (b.toNat / 16), digit (b.toNat % 16)]

/-- The character as it is written in the part. -/
def encodeChar (part : Part) (c : Char) : List Char :=
  if c.toNat < 0x20 || 0x7F ≤ c.toNat || part.reserved.toList.contains c then
    (Text.Utf8.encodeChar c).flatMap escape
  else [c]

def encode (part : Part) (s : List Char) : List Char := s.flatMap (encodeChar part)

end Signpost.Url.Percent
