/-!
# Configurations

A configuration says where an application listens, how it logs, and which pages it serves: filters
that set a header, pages with a fixed status and a template for their body, and mounts with filters
and pages of their own.
-/

namespace Signpost

namespace Config

/-- Where an application listens, and its limits. -/
structure Server where
  bindAddress : String := "127.0.0.1:8080"
  basePath : String := "/"
  requestTimeoutSecs : Nat := 30
  /-- The greatest length of the body of a request. -/
  maxBodyBytes : Nat := 2097152
  deriving DecidableEq, Repr, Inhabited

/-- How log lines are written. -/
inductive LogFormat where
  | pretty
  | json
  deriving DecidableEq, Repr, Inhabited

namespace LogFormat

def all : List (String × LogFormat) := [("pretty", .pretty), ("json", .json)]

def name : LogFormat → String
  | .pretty => "pretty"
  | .json => "json"

end LogFormat

/-- What is logged and how. -/
structure Logging where
  /-- A level, or directives for the parts of the program. -/
  level : String := "info"
  format : LogFormat := .pretty
  deriving DecidableEq, Repr, Inhabited

namespace Logging

/-- The directives for the parts of the program. A level alone is for all of them; whatever has an
equals sign or a comma says itself what it is for. -/
def directive (level : String) : String :=
  if level.toList.any fun c => c == '=' || c == ',' then level
  else "trellis=" ++ level ++ ",tower_http=" ++ level

end Logging

/-- A filter that sets a header of the response. -/
structure Filter where
  /-- The paths that the filter is for; all of them if it is empty. -/
  pattern : String := ""
  header : String
  value : String
  deriving DecidableEq, Repr, Inhabited

/-- A page with a fixed status. -/
structure Page where
  /-- A route text. -/
  route : String
  status : Nat := 200
  /-- A template. -/
  body : String := ""
  contentType : String := "text/plain; charset=utf-8"
  deriving DecidableEq, Repr, Inhabited

/-- Filters and pages below a pattern. -/
structure Mount where
  pattern : String
  filters : List Filter := []
  pages : List Page := []
  deriving DecidableEq, Repr, Inhabited

end Config

/-- A configuration. -/
structure Config where
  server : Config.Server := {}
  logging : Config.Logging := {}
  filters : List Config.Filter := []
  pages : List Config.Page := []
  mounts : List Config.Mount := []
  deriving DecidableEq, Repr, Inhabited

end Signpost
