/-!
# Status codes

A status code is a number with three digits. Codes from 400 to 599 report failures, and most of them
have a reason in words.
-/

namespace Signpost.Http

/-- A status code. -/
structure Status where
  code : Nat
  least : 100 ≤ code
  greatest : code ≤ 999
  deriving DecidableEq

namespace Status

/-- The status with the code, if it has three digits. -/
def ofCode? (code : Nat) : Option Status :=
  if h : 100 ≤ code ∧ code ≤ 999 then some ⟨code, h.1, h.2⟩ else none

def ok : Status := ⟨200, by decide, by decide⟩

def notFound : Status := ⟨404, by decide, by decide⟩

def methodNotAllowed : Status := ⟨405, by decide, by decide⟩

def payloadTooLarge : Status := ⟨413, by decide, by decide⟩

def internalError : Status := ⟨500, by decide, by decide⟩

instance : Inhabited Status := ⟨ok⟩
instance : Repr Status := ⟨fun s n => reprPrec s.code n⟩

def isFailure (s : Status) : Bool := 400 ≤ s.code && s.code ≤ 599

/-- The reasons of the codes that report failures. -/
def reasons : List (Nat × String) :=
  [(400, "Bad Request"), (401, "Unauthorized"), (402, "Payment Required"), (403, "Forbidden"),
    (404, "Not Found"), (405, "Method Not Allowed"), (406, "Not Acceptable"),
    (407, "Proxy Authentication Required"), (408, "Request Timeout"), (409, "Conflict"),
    (410, "Gone"), (411, "Length Required"), (412, "Precondition Failed"),
    (413, "Payload Too Large"), (414, "URI Too Long"), (415, "Unsupported Media Type"),
    (416, "Range Not Satisfiable"), (417, "Expectation Failed"), (418, "I'm a teapot"),
    (421, "Misdirected Request"), (422, "Unprocessable Entity"), (423, "Locked"),
    (424, "Failed Dependency"), (425, "Too Early"), (426, "Upgrade Required"),
    (428, "Precondition Required"), (429, "Too Many Requests"),
    (431, "Request Header Fields Too Large"), (451, "Unavailable For Legal Reasons"),
    (500, "Internal Server Error"), (501, "Not Implemented"), (502, "Bad Gateway"),
    (503, "Service Unavailable"), (504, "Gateway Timeout"), (505, "HTTP Version Not Supported"),
    (506, "Variant Also Negotiates"), (507, "Insufficient Storage"), (508, "Loop Detected"),
    (510, "Not Extended"), (511, "Network Authentication Required")]

/-- The reason of a failure in words; `Error` where there is no better one. -/
def reason (s : Status) : String := (reasons.lookup s.code).getD "Error"

end Status

end Signpost.Http
