/-!
# Command lines

A command line holds options, the name of a command, and the operands of the command. An option has
its value behind it, or attached to it. Two hyphens end the options; a hyphen alone is no option.
-/

namespace Signpost

namespace CommandLine

/-- What is done with a configuration. -/
inductive Action where
  /-- Check it. -/
  | check
  /-- List its router. -/
  | routes
  /-- Answer one request. -/
  | answer (method target : String)
  deriving DecidableEq, Repr

/-- What there is help for. -/
inductive Topic where
  | program
  | check
  | routes
  | answer
  | help
  deriving DecidableEq, Repr

/-- What a command line asks for. -/
inductive Request where
  /-- To do something with the configuration in a file. -/
  | run (file : String) (action : Action)
  | help (topic : Topic)
  /-- Nothing that can be understood. -/
  | misuse
  deriving DecidableEq, Repr

/-- The file of the configuration if no other is named. -/
def defaultFile : String := "trellis.toml"

/-! ## Options -/

/-- Whether the argument is an option, or ends them. -/
def isOption (arg : String) : Bool := arg.startsWith '-' && arg != "-"

def isHelp (arg : String) : Bool := arg == "--help" || arg.startsWith "-h"

/-- An option that names the file, with the value attached to it. -/
def fileOption? (arg : String) : Option (Option String) :=
  if arg = "-c" ∨ arg = "--config" then some none
  else
    let value := ["--config=", "-c=", "-c"].findSome? fun start => arg.dropPrefix? start
    value.map fun value => some value.toString

/-- The file after an option named another one. It can be named only once, and not by nothing. -/
def setFile (file : Option String) (value : String) : Option String :=
  if file.isSome || value.isEmpty then none else some value

/-- The file after the value that is still open is taken. -/
def settle (file : Option String) : Option String → Option (Option String)
  | none => some file
  | some value => (setFile file value).map some

/-! ## Commands -/

/-- The operands of a command that takes `count` of them, or what else its arguments ask for. After
two hyphens, `plain` is set. -/
def operands (topic : Topic) (count : Nat) (plain : Bool) (taken : List String) :
    List String → Except Request (List String)
  | [] => if taken.length = count then .ok taken else .error .misuse
  | arg :: rest =>
    if plain || !isOption arg then
      if taken.length < count then operands topic count plain (taken ++ [arg]) rest
      else .error .misuse
    else if arg = "--" then operands topic count true taken rest
    else .error (if isHelp arg then .help topic else .misuse)

def topics : List (String × Topic) :=
  [("check", .check), ("routes", .routes), ("match", .answer), ("help", .help)]

def helpRequest : List String → Request
  | [] => .help .program
  | [name] => ((topics.lookup name).map Request.help).getD .misuse
  | _ => .misuse

/-- The command for a topic, with its arguments. -/
def action (topic : Topic) (args : List String) : Except Request Action :=
  match topic with
  | .check => (operands topic 0 false [] args).map fun _ => .check
  | .routes => (operands topic 0 false [] args).map fun _ => .routes
  | .answer =>
    match operands topic 2 false [] args with
    | .ok [method, target] => .ok (.answer method target)
    | .ok _ => .error .misuse
    | .error request => .error request
  | .help => .error (helpRequest args)
  | .program => .error .misuse

/-- Reads the arguments when `file` was named before, and the value in `last` is still open. A value
that stands behind its option is taken only when another option or the end comes. -/
def read (file last : Option String) : List String → Request
  | [] => .misuse
  | arg :: rest =>
    match topics.lookup arg with
    | some topic =>
      match action topic rest with
      | .error request => request
      | .ok action =>
        match settle file last with
        | none => .misuse
        | some file => .run (file.getD defaultFile) action
    | none =>
      match settle file last with
      | none => .misuse
      | some file =>
        if isHelp arg then .help .program
        else
          match fileOption? arg, rest with
          | none, _ => .misuse
          | some (some value), rest =>
            match setFile file value with
            | none => .misuse
            | some value => read (some value) none rest
          | some none, [] => .misuse
          | some none, value :: rest =>
            if isOption value then .misuse else read file (some value) rest

def parse (args : List String) : Request := read none none args

end CommandLine

end Signpost
