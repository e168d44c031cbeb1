import Signpost.Config.Basic
import Signpost.Datum

/-!
# Reading configurations from data

A record is a table with a key for each field, or a list of the fields in order. Fields that have a
default may be missing, and keys that stand for no field do not count.
-/

namespace Signpost

namespace Config

/-- What the data of a configuration come from. The two ways of writing them differ in what they
allow. -/
inductive Source where
  /-- A document in TOML. -/
  | toml
  /-- A value in JSON. -/
  | json
  deriving DecidableEq, Repr

/-! ## Records -/

abbrev Fields := String → Option Datum

/-- The record with the fields named. A list may be too long in TOML; a date or time is a record
without fields. -/
def fields? (source : Source) (names : List String) : Datum → Option Fields
  | .table entries => some fun name => entries.lookup name
  | .list items =>
    if source = .json ∧ names.length < items.length then none
    else some fun name => (names.zip items).lookup name
  | .moment => some fun _ => none
  | _ => none

namespace Fields

variable {α : Type}

def need (fields : Fields) (name : String) (decode : Datum → Option α) : Option α :=
  (fields name).bind decode

/-- The value of a field that may be missing. -/
def read (fields : Fields) (name : String) (decode : Datum → Option α) (default : α) :
    Option α :=
  match fields name with
  | none => some default
  | some d => decode d

end Fields

/-! ## Values -/

def text? : Datum → Option String
  | .text s => some s
  | _ => none

def natural? (bits : Nat) : Datum → Option Nat
  | .integer n => if 0 ≤ n ∧ n < (1 <<< bits : Nat) then some n.toNat else none
  | _ => none

def list? {α : Type} (decode : Datum → Option α) : Datum → Option (List α)
  | .list items => items.mapM decode
  | _ => none

/-- Whether the datum says nothing more about a name that is chosen. -/
def isBare : Source → Datum → Bool
  | .toml, .table entries => entries.isEmpty
  | .toml, .list items => items.isEmpty
  | .json, .null => true
  | _, _ => false

/-- A format: its name, or a table whose only key is its name. -/
def format? (source : Source) : Datum → Option LogFormat
  | .text name => LogFormat.all.lookup name
  | .table [(name, d)] => if isBare source d then LogFormat.all.lookup name else none
  | _ => none

/-! ## Configurations -/

def server? (source : Source) (d : Datum) : Option Server := do
  let default : Server := {}
  let fields ← fields? source
    ["bind_address", "base_path", "request_timeout_secs", "max_body_bytes"] d
  return {
    bindAddress := ← fields.read "bind_address" text? default.bindAddress
    basePath := ← fields.read "base_path" text? default.basePath
    requestTimeoutSecs :=
      ← fields.read "request_timeout_secs" (natural? 64) default.requestTimeoutSecs
    maxBodyBytes := ← fields.read "max_body_bytes" (natural? 64) default.maxBodyBytes }

def logging? (source : Source) (d : Datum) : Option Logging := do
  let default : Logging := {}
  let fields ← fields? source ["log_level", "format"] d
  return {
    level := ← fields.read "log_level" text? default.level
    format := ← fields.read "format" (format? source) default.format }

def filter? (source : Source) (d : Datum) : Option Filter := do
  let fields ← fields? source ["pattern", "header", "value"] d
  return {
    pattern := ← fields.read "pattern" text? ""
    header := ← fields.need "header" text?
    value := ← fields.need "value" text? }

def page? (source : Source) (d : Datum) : Option Page := do
  let fields ← fields? source ["route", "status", "body", "content_type"] d
  let default : Page := { route := ← fields.need "route" text? }
  return { default with
    status := ← fields.read "status" (natural? 16) default.status
    body := ← fields.read "body" text? default.body
    contentType := ← fields.read "content_type" text? default.contentType }

def mount? (source : Source) (d : Datum) : Option Mount := do
  let fields ← fields? source ["prefix", "filters", "routes"] d
  return {
    pattern := ← fields.need "prefix" text?
    filters := ← fields.read "filters" (list? (filter? source)) []
    pages := ← fields.read "routes" (list? (page? source)) [] }

def ofDatum? (source : Source) (d : Datum) : Option Config := do
  let fields ← fields? source ["server", "observability", "filters", "routes", "mounts"] d
  return {
    server := ← fields.read "server" (server? source) {}
    logging := ← fields.read "observability" (logging? source) {}
    filters := ← fields.read "filters" (list? (filter? source)) []
    pages := ← fields.read "routes" (list? (page? source)) []
    mounts := ← fields.read "mounts" (list? (mount? source)) [] }

end Config

end Signpost
