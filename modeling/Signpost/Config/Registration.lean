import Signpost.App
import Signpost.Config.Basic
import Signpost.Template

/-!
# Applications from configurations

The steps of a configuration are those of its filters, then those of its pages, then its mounts, and
they come in the order in which they are written. A filter or page that cannot work is left out; a
checked configuration has none.
-/

namespace Signpost

open Http (HeaderName HeaderValue Status)

variable {ν : Type}

/-! ## Callbacks -/

namespace Callback

/-- Answers with a status and a template filled with the variables. -/
def respond (status : Status) (body : String) (contentType : Option HeaderValue) :
    Callback ν .handler :=
  look fun c =>
    let answer : Callback ν .handler :=
      edit (.commit status) <|
        edit (.write (Text.Utf8.encode (Template.expand c.vars body))) done
    match contentType with
    | none => answer
    | some value => edit (.setHeader .contentType value) answer

/-- Sets a header and goes on to what comes after the filter. -/
def addHeader (name : HeaderName) (value : HeaderValue) : Callback ν .filter :=
  edit (.setHeader name value) <| next fun answer => finish (answer.map fun _ => ())

end Callback

/-! ## Reports -/

mutual

def Report.fault? : Report → Option RegistrationFault
  | .added _ _ => none
  | .mounted _ _ nested => Report.firstFault? nested
  | .refused fault => some fault

def Report.firstFault? : List Report → Option RegistrationFault
  | [] => none
  | report :: rest => report.fault?.or (Report.firstFault? rest)

end

/-! ## Steps -/

namespace Config

/-- The step of a filter, if its name and value can be those of a header. -/
def Filter.step? (f : Filter) : Option (Step ν) := do
  let name ← HeaderName.ofText? f.header
  let value ← HeaderValue.ofText? f.value
  return .filter f.pattern (Callback.addHeader name value)

/-- The step of a page, if it has a status code. A content type that cannot be a header is left
out. -/
def Page.step? (p : Page) : Option (Step ν) := do
  let status ← Status.ofCode? p.status
  return .handle p.route (Callback.respond status p.body (HeaderValue.ofText? p.contentType))

def tableSteps (filters : List Filter) (pages : List Page) : List (Step ν) :=
  filters.filterMap Filter.step? ++ pages.filterMap Page.step?

def Mount.step (m : Mount) : Step ν := .mount m.pattern (tableSteps m.filters m.pages)

def steps (c : Config) : List (Step ν) := tableSteps c.filters c.pages ++ c.mounts.map Mount.step

/-- The router of a configuration, if none of its steps is refused. -/
def router (c : Config) : Except RegistrationFault (Router ν) :=
  let (router, registered) := Step.performAll true c.steps {}
  match Report.firstFault? registered.reports with
  | none => .ok router
  | some fault => .error fault

def app (c : Config) : App ν :=
  { (App.mountedAt c.server.basePath : App ν) with maxBodyBytes := c.server.maxBodyBytes }

end Config

end Signpost
