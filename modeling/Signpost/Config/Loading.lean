import Signpost.Config.Decoding
import Signpost.Config.Validation
import Signpost.Files
import Signpost.Toml.Document

/-!
# Loading configurations

A configuration is loaded from a file in TOML. It counts only if it has no problems.
-/

namespace Signpost

namespace Config

/-- Why there is no configuration. -/
inductive Fault where
  | file (cause : FileFault)
  /-- The file is no text. -/
  | notText
  /-- The text is no document, or a value in it is not of the kind that is expected. -/
  | unreadable
  | invalid (problems : List Problem)
  deriving DecidableEq, Repr

def Fault.message : Fault → String
  | .file cause => "IO error: " ++ cause.message
  | .notText => "IO error: stream did not contain valid UTF-8"
  | .unreadable => "Parse error: the text is not a configuration"
  | .invalid problems =>
    "Validation failed: " ++ String.intercalate ", " (problems.map Problem.message)

def parse (text : String) : Except Fault Config :=
  match (Toml.parse text).bind (ofDatum? .toml) with
  | none => .error .unreadable
  | some config =>
    if config.problems.isEmpty then .ok config else .error (.invalid config.problems)

def load (file : Except FileFault Bytes) : Except Fault Config :=
  match file with
  | .error cause => .error (.file cause)
  | .ok bytes =>
    match Text.Utf8.decode? bytes with
    | none => .error .notText
    | some text => parse (String.ofList text)

end Config

end Signpost
