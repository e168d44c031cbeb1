import Signpost.CommandLine.Basic

/-!
# Help

What the program says about itself.
-/

namespace Signpost.CommandLine

def ofLines (lines : List String) : String := String.join (lines.map (· ++ "\n"))

def Topic.text : Topic → String
  | .program => ofLines
    ["Inspect and exercise trellis route tables offline",
      "",
      "Usage: trellis-cli [OPTIONS] <COMMAND>",
      "",
      "Commands:",
      "  check   Validate the configuration and report every problem",
      "  routes  Print the registered filters, routes and mounts",
      "  match   Dispatch one request and print the response as JSON",
      "  help    Print this message or the help of the given subcommand(s)",
      "",
      "Options:",
      "  -c, --config <CONFIG>  Path to the TOML configuration file [default: trellis.toml]",
      "  -h, --help             Print help"]
  | .check => ofLines
    ["Validate the configuration and report every problem",
      "",
      "Usage: trellis-cli check",
      "",
      "Options:",
      "  -h, --help  Print help"]
  | .routes => ofLines
    ["Print the registered filters, routes and mounts",
      "",
      "Usage: trellis-cli routes",
      "",
      "Options:",
      "  -h, --help  Print help"]
  | .answer => ofLines
    ["Dispatch one request and print the response as JSON",
      "",
      "Usage: trellis-cli match <METHOD> <PATH>",
      "",
      "Arguments:",
      "  <METHOD>  Request method, e.g. GET",
      "  <PATH>    Request path including the base path and query",
      "",
      "Options:",
      "  -h, --help  Print help"]
  | .help => ofLines
    ["Print this message or the help of the given subcommand(s)",
      "",
      "Usage: trellis-cli help [COMMAND]...",
      "",
      "Arguments:",
      "  [COMMAND]...  Print help for the subcommand(s)"]

/-- What is said when a command line is not understood. -/
def usage : String := ofLines
  ["Usage: trellis-cli [OPTIONS] <COMMAND>", "", "For more information, try '--help'."]

end Signpost.CommandLine
