import Signpost.App

/-!
# Service

Around an application, the service marks every request and its response with an identifier, refuses
bodies that are too long, and completes the headers of responses.
-/

namespace Signpost

open Http (Request Response HeaderName HeaderValue Status)

variable {ν : Type}

namespace Http

namespace HeaderValue

/-- The number that the value is written as; a plus sign before the digits is allowed. -/
def nat? (v : HeaderValue) : Option Nat :=
  ((Text.Utf8.decode? v.bytes).bind
    (Number.integer? 0 (Kind.maxInt false 64))).map Int.toNat

def ofNat (n : Nat) : HeaderValue := (ofText? (toString n)).getD default

end HeaderValue

namespace Response

def ofText (status : Status) (text : String) : Response :=
  { status, committed := true, headers := Dict.empty.insert "content-type" .plainText
    body := Text.Utf8.encode text }

/-- The response as it is sent. It tells the length of its body unless a handler told one; a
response to `HEAD` tells it without the body. A successful response to `CONNECT` has neither. -/
def finish (r : Response) (method : Method) : Response :=
  if method.name = "CONNECT" ∧ 200 ≤ r.status.code ∧ r.status.code < 300 then
    { r with body := [] }
  else
    let r :=
      if r.headers.contains HeaderName.contentLength.text then r
      else r.setHeader .contentLength (.ofNat r.body.length)
    if method = .head then { r with body := [] } else r

end Response

end Http

namespace App

/-- How long the body of a request may be: the limit of the application, or less if the request
tells a smaller length. Nothing, if it tells a greater one. -/
def bodyLimit? (app : App ν) (request : Request) : Option Nat :=
  match (request.header? .contentLength).bind HeaderValue.nat? with
  | none => some app.maxBodyBytes
  | some told => if told > app.maxBodyBytes then none else some told

/-- Answers a request unless its body is too long. -/
def serveLimited (app : App ν) (w : World ν) (request : Request) : Response × World ν :=
  match app.bodyLimit? request with
  | none => (.ofText .payloadTooLarge "length limit exceeded", w)
  | some limit =>
    if request.body.length > limit then (.ofText .payloadTooLarge "Request body too large", w)
    else app.serve w request

/-- Answers a request as a service. A request without an identifier gets `freshId`, and a response
without one gets that of its request. -/
def handle (app : App ν) (freshId : HeaderValue) (w : World ν) (request : Request) :
    Response × World ν :=
  let (id, request) :=
    match request.header? .requestId with
    | some id => (id, request)
    | none => (freshId, { request with headers := request.headers ++ [(.requestId, freshId)] })
  let (response, w) := app.serveLimited w request
  let response :=
    if response.headers.contains HeaderName.requestId.text then response
    else response.setHeader .requestId id
  (response.finish request.method, w)

end App

end Signpost
