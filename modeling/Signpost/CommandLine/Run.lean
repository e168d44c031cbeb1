import Signpost.CommandLine.Help
import Signpost.Config.Loading
import Signpost.Config.Registration
import Signpost.Listing
import Signpost.Text.Json

/-!
# Running command lines

A command line is answered with an exit code and with texts for the two outputs. It needs at most
one file.
-/

namespace Signpost.CommandLine

open Text (Json)

/-! ## Actions -/

/-- Why an action fails. -/
inductive Fault where
  | config (cause : Config.Fault)
  | registration (cause : RegistrationFault)
  | request (cause : Http.Request.Fault)

def Fault.message : Fault → String
  | .config cause => cause.message
  | .registration cause => cause.message
  | .request cause => cause.message

/-- The numbers of filters, routes and mounts of the configuration in a file. -/
def summary (file : String) (config : Config) : String :=
  file ++ ": OK (" ++ toString config.filters.length ++ " filters, " ++
    toString config.pages.length ++ " routes, " ++ toString config.mounts.length ++ " mounts)\n"

def responseJson (r : Http.Response) : Json :=
  let text (bytes : Bytes) : Json := .text (String.ofList (Text.Utf8.decodeLossy bytes))
  .object [("body", text r.body),
    ("headers", .object (r.headers.toList.map fun h => (h.1, text h.2.bytes))),
    ("status", .number r.status.code)]

/-- What an action prints, for the contents of the file with the configuration. -/
def Action.perform (action : Action) (file : String) (contents : Except FileFault Bytes) :
    Except Fault String := do
  let config ← (Config.load contents).mapError .config
  match action with
  | .check => return summary file config
  | .routes =>
    let router : Router Unit ← config.router.mapError .registration
    let app : App Unit := config.app
    return "base_path: " ++ app.basePath ++ "\n" ++ router.listingLines ++ "\n"
  | .answer method target =>
    let router : Router Unit ← config.router.mapError .registration
    let method := String.ofList (upperAscii method.toList)
    let request ← (Http.Request.build method target [] []).mapError .request
    let (response, _) := config.app.serve { published := router } request
    return (responseJson response).write 0 ++ "\n"

/-! ## Outcomes -/

/-- How a command line was answered. -/
structure Outcome where
  code : Nat
  output : String := ""
  errors : String := ""
  deriving DecidableEq, Repr

namespace Request

def file? : Request → Option String
  | .run file _ => some file
  | _ => none

/-- The answer, for the contents of the file that is needed. -/
def answer (contents : Except FileFault Bytes) : Request → Outcome
  | .run file action =>
    match action.perform file contents with
    | .ok output => { code := 0, output }
    | .error fault => { code := 1, errors := "Error: " ++ fault.message ++ "\n" }
  | .help topic => { code := 0, output := topic.text }
  | .misuse => { code := 2, errors := usage }

end Request

end Signpost.CommandLine
