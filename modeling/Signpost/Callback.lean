import Signpost.Context

/-!
# Callbacks

The behaviour of an application is in its callbacks: handlers serve a route, filters stand before
the routes of a router, and error pages answer failures. A callback is given by what it does first
and by how it goes on with the answer, so that it can do anything in any order, but nothing besides.
Callbacks can register further callbacks; therefore the steps of a registration are defined together
with them.

The parameter `ν` is the type of the notes that callbacks leave in the trail of a run.
-/

namespace Signpost

open Http (Response Status)

/-- What a callback is for. -/
inductive Role where
  /-- Serves a route. -/
  | handler
  /-- Stands before the routes of a router. -/
  | filter
  /-- Answers a failure. -/
  | errorPage
  deriving DecidableEq, Repr

/-- What a filter sees of its place in the dispatch. -/
structure Passage where
  /-- The path, as seen from the router of the filter. -/
  path : String := ""
  /-- The variables of the context with the captures of the filter laid over them. -/
  vars : Vars := Dict.empty
  /-- Whether the filter asked for what comes after it. -/
  nextCalled : Bool := false
  /-- Whether what comes after it dealt with the request. -/
  downstreamMatched : Bool := false
  /-- Whether the filter claimed the request. -/
  claimed : Bool := false

namespace Passage

/-- Whether an answer says that something dealt with the request; a failure says so. -/
def matched : Except Failure Bool → Bool
  | .ok matched => matched
  | .error _ => true

/-- Whether the request is dealt with: by the filter, which claimed it or did not pass it on, or by
what comes after it. -/
def handled (p : Passage) : Bool := p.claimed || !p.nextCalled || p.downstreamMatched

/-- The passage after an answer of what comes after the filter. -/
def answered (p : Passage) (answer : Except Failure Bool) : Passage :=
  { p with nextCalled := true, downstreamMatched := matched answer }

end Passage

/-! ## Reports of registrations -/

/-- How one step of a registration went, with the numbers of filters and routes that its router has
after it. -/
inductive Report where
  | added (filters routes : Nat)
  | mounted (filters routes : Nat) (nested : List Report)
  | refused (fault : RegistrationFault)

/-- How a list of steps went. -/
structure Registered where
  /-- Whether the list was carried out to its end. -/
  complete : Bool
  reports : List Report

/-! ## Callbacks and registrations -/

mutual

/-- What a callback does. Left out is that it puts another request, body or response in the place of
the one that its context has: the request stays as it came, and the response is only edited. -/
inductive Callback (ν : Type) : Role → Type where
  /-- Ends, with a failure perhaps. -/
  | finish {role : Role} (result : Except Failure Unit) : Callback ν role
  /-- Looks at the context. -/
  | look {role : Role} (k : Context → Callback ν role) : Callback ν role
  /-- Replaces the variables. -/
  | setVars {role : Role} (vars : Vars) (k : Callback ν role) : Callback ν role
  /-- Replaces the attributes of the request. -/
  | setAttributes {role : Role} (attributes : Attributes) (k : Callback ν role) : Callback ν role
  /-- Edits the response. -/
  | edit {role : Role} (e : Response.Edit) (k : Callback ν role) : Callback ν role
  /-- Changes the attributes of the application and goes on with what they were. -/
  | share {role : Role} (change : Attributes → Attributes) (k : Attributes → Callback ν role) :
      Callback ν role
  /-- Reports a failure, which calls the error page. -/
  | report {role : Role} (failure : Failure) (status : Status) (k : Callback ν role) :
      Callback ν role
  /-- Includes another page and goes on with its status. -/
  | page {role : Role} (path : String) (k : Except Failure Status → Callback ν role) :
      Callback ν role
  /-- Registers with the application, up to the first refused step if `stop` is set. -/
  | register {role : Role} (stop : Bool) (steps : List (Step ν))
      (k : Registered → Callback ν role) : Callback ν role
  /-- Leaves a note in the trail. -/
  | note {role : Role} (entry : ν) (k : Callback ν role) : Callback ν role
  /-- Asks for what comes after the filter. -/
  | next (k : Except Failure Bool → Callback ν .filter) : Callback ν .filter
  /-- Claims the request. -/
  | claim (k : Callback ν .filter) : Callback ν .filter
  /-- Looks at the place of the filter in the dispatch. -/
  | passage (k : Passage → Callback ν .filter) : Callback ν .filter

/-- One step of a registration. -/
inductive Step (ν : Type) where
  | handle (route : String) (callback : Callback ν .handler)
  | filter (pattern : String) (callback : Callback ν .filter)
  /-- Carries out steps on a router below the pattern. -/
  | mount (pattern : String) (steps : List (Step ν))

end

abbrev ErrorPage (ν : Type) := Status → Callback ν .errorPage

namespace Callback

variable {ν : Type} {role : Role}

def done : Callback ν role := finish (.ok ())

instance : Inhabited (Callback ν role) := ⟨done⟩
instance : Inhabited (Step ν) := ⟨.mount "" []⟩

def fail (failure : Failure) : Callback ν role := finish (.error failure)

def setVar (name value : String) (k : Callback ν role) : Callback ν role :=
  look fun c => setVars (c.vars.insert name value) k

/-- Sets the status. One that reports a failure calls the error page with its reason. -/
def status (s : Status) (k : Callback ν role) : Callback ν role :=
  if s.isFailure then report (.plain s.reason) s k else edit (.commit s) k

def reportError (failure : Failure) (k : Callback ν role) : Callback ν role :=
  report failure .internalError k

/-- The error page that shows the failure as plain text, unless a response is under way. -/
def plainErrorPage : ErrorPage ν := fun s =>
  look fun c =>
    if c.response.committed then done
    else
      let message := ((c.failure.map Failure.message).getD "") ++ "\n"
      edit (.setHeader .contentType .plainText) <|
        edit (.setHeader .contentTypeOptions .noSniff) <|
          edit (.commit s) <| edit (.write (Text.Utf8.encode message)) done

end Callback

end Signpost
