import Signpost.Http.Method
import Signpost.Text.Utf8

/-!
# Headers

A header has a name, which is a token in lower case, and a value, which is a sequence of bytes that
holds no control characters besides tabs.
-/

namespace Signpost

namespace Http

/-! ## Names -/

/-- The greatest length of the name of a header. -/
def maxNameLength : Nat := 65535

/-- Whether the text is the name of a header in lower case. -/
def isHeaderName (s : List Char) : Bool :=
  isToken s && s.all (fun c => !c.isUpper) && s.length ≤ maxNameLength

/-- The name of a header. -/
structure HeaderName where
  text : String
  valid : isHeaderName text.toList = true
  deriving DecidableEq

namespace HeaderName

/-- The name, in lower case, if it can be one. -/
def ofText? (text : String) : Option HeaderName :=
  let lower := String.ofList (text.toList.map Char.toLower)
  if h : isHeaderName lower.toList = true then some ⟨lower, h⟩ else none

def contentType : HeaderName := ⟨"content-type", by decide⟩
def contentLength : HeaderName := ⟨"content-length", by decide⟩
def location : HeaderName := ⟨"location", by decide⟩
def requestId : HeaderName := ⟨"x-request-id", by decide⟩
def contentTypeOptions : HeaderName := ⟨"x-content-type-options", by decide⟩

instance : Inhabited HeaderName := ⟨contentType⟩
instance : Repr HeaderName := ⟨fun h n => reprPrec h.text n⟩

end HeaderName

/-! ## Values -/

/-- Whether the byte may stand in the value of a header. -/
def isValueByte (b : UInt8) : Bool := (32 ≤ b && b != 127) || b == 9

/-- The value of a header. -/
structure HeaderValue where
  bytes : Bytes
  valid : bytes.all isValueByte = true
  deriving DecidableEq

namespace HeaderValue

/-- The value with the bytes, if it can be one. -/
def ofBytes? (bytes : Bytes) : Option HeaderValue :=
  if h : bytes.all isValueByte = true then some ⟨bytes, h⟩ else none

/-- The value that is the text, if it can be one. -/
def ofText? (text : String) : Option HeaderValue := ofBytes? (Text.Utf8.encode text)

def plainText : HeaderValue := ⟨Text.Utf8.encode "text/plain; charset=utf-8", by decide⟩
def noSniff : HeaderValue := ⟨Text.Utf8.encode "nosniff", by decide⟩

instance : Inhabited HeaderValue := ⟨⟨[], rfl⟩⟩
instance : Repr HeaderValue := ⟨fun v n => reprPrec v.bytes n⟩

end HeaderValue

abbrev Header := HeaderName × HeaderValue

end Http

end Signpost
