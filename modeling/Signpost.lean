import Signpost.Address.Ipv4
import Signpost.Address.Ipv6
import Signpost.Address.Socket
import Signpost.App
import Signpost.Attributes
import Signpost.Callback
import Signpost.CommandLine.Basic
import Signpost.CommandLine.Help
import Signpost.CommandLine.Run
import Signpost.Config.Basic
import Signpost.Config.Decoding
import Signpost.Config.Loading
import Signpost.Config.Registration
import Signpost.Config.Validation
import Signpost.Context
import Signpost.Datum
import Signpost.Dict
import Signpost.Dispatch
import Signpost.Failure
import Signpost.Files
import Signpost.Http.Header
import Signpost.Http.Method
import Signpost.Http.Request
import Signpost.Http.Response
import Signpost.Http.Status
import Signpost.Http.Uri
import Signpost.Idna.Domain
import Signpost.Idna.Mapping
import Signpost.Idna.Punycode
import Signpost.Listing
import Signpost.Main
import Signpost.Number.Binary
import Signpost.Number.Reading
import Signpost.Path
import Signpost.Pattern.Basic
import Signpost.Pattern.Token
import Signpost.Query
import Signpost.Redirect
import Signpost.Regex.Ast
import Signpost.Regex.Bracket
import Signpost.Regex.Captures
import Signpost.Regex.Elaboration
import Signpost.Regex.Escape
import Signpost.Regex.Expr
import Signpost.Regex.Fault
import Signpost.Regex.Node
import Signpost.Regex.Parser
import Signpost.Regex.Program
import Signpost.Regex.Search
import Signpost.Regex.Weight
import Signpost.RouteSpec
import Signpost.Router
import Signpost.Service
import Signpost.Shutdown
import Signpost.Site
import Signpost.Template
import Signpost.Text.Blank
import Signpost.Text.Json
import Signpost.Text.Quoted
import Signpost.Text.Reader
import Signpost.Text.Split
import Signpost.Text.Utf8
import Signpost.Toml.Document
import Signpost.Toml.Lexeme
import Signpost.Toml.Scalar
import Signpost.Toml.Table
import Signpost.Unicode.BidiClass
import Signpost.Unicode.Category
import Signpost.Unicode.CharSet
import Signpost.Unicode.CombiningClass
import Signpost.Unicode.Decomposition
import Signpost.Unicode.Folding
import Signpost.Unicode.JoiningType
import Signpost.Unicode.Normalization
import Signpost.Unicode.Property
import Signpost.Unicode.PropertyName
import Signpost.Unicode.Script
import Signpost.Unicode.Table
import Signpost.Url.Basic
import Signpost.Url.Fault
import Signpost.Url.Host
import Signpost.Url.Path
import Signpost.Url.Percent
import Signpost.Value
import Signpost.Vars
import Signpost.Proofs.Text
import Signpost.Proofs.Text.Utf8
import Signpost.Proofs.Callback
import Signpost.Proofs.Dispatch.Trail
import Signpost.Proofs.Dispatch.Room
import Signpost.Proofs.Dispatch.Run
import Signpost.Proofs.Dispatch.Guarding
import Signpost.Proofs.Dispatch.Accounting
import Signpost.Proofs.Dispatch.Leaves
import Signpost.Proofs.Regex.Matching
import Signpost.Proofs.Regex.Search
import Signpost.Proofs.Regex.Reading
import Signpost.Proofs.Pattern.Translation
import Signpost.Proofs.Regex.Words
import Signpost.Proofs.Pattern.Language
import Signpost.Proofs.Regex.Evaluation
import Signpost.Proofs.Registration.Steps
import Signpost.Proofs.Registration.Numbering
import Signpost.Proofs.Registration.WellFormed
import Signpost.Proofs.Dispatch.Simulation
import Signpost.Proofs.Dispatch.Alike
import Signpost.Proofs.Path.Canonical
import Signpost.Proofs.Path.Joining
import Signpost.Proofs.Dispatch.Including
import Signpost.Proofs.Regex.Preference
import Signpost.Proofs.Regex.Longest
import Signpost.Proofs.Pattern.Mounting
import Signpost.Proofs.Pattern.Capturing
import Signpost.Proofs.Pattern.Joining
import Signpost.Proofs.Dispatch.Composition
import Signpost.Proofs.Regex.Indices
import Signpost.Proofs.Pattern.Enclosing
import Signpost.Proofs.Pattern.Anchoring
import Signpost.Proofs.Pattern.Grammar
import Signpost.Proofs.Path.Spelling
import Signpost.Proofs.Registration.Installing
import Signpost.Proofs.Config.Installed
import Signpost.Proofs.Config.Adequacy
import Signpost.Proofs.Dispatch.Isolation
import Signpost.Proofs.Dispatch.Silencing
import Signpost.Proofs.Shutdown
import Signpost.Proofs.Registration.Interleaving
import Signpost.Proofs.Dispatch.Restoring
import Signpost.Proofs.Http.Response
import Signpost.Proofs.Dispatch.Changes
import Signpost.Proofs.Dispatch.Writing
import Signpost.Proofs.Registration.Covering
import Signpost.Proofs.Dispatch.Entering
import Signpost.Proofs.Dispatch.Repatterning
import Signpost.Proofs.Dispatch.Opening
import Signpost.Proofs.Dispatch.Locating
import Signpost.Proofs.Dispatch.Framing
import Signpost.Proofs.Dispatch.Describing
import Signpost.Proofs.Pattern.Assigning
import Signpost.Proofs.Pattern.Splitting
import Signpost.Proofs.Config.Rendering
import Signpost.Proofs.Dispatch.Serving
import Signpost.Proofs.Pattern.Cleaning
import Signpost.Proofs.Template
import Signpost.Proofs.Registration.Methods
import Signpost.Proofs.Path.Query
import Signpost.Proofs.Redirect
import Signpost.Proofs.Config.Visiting
import Signpost.Proofs.Config.Headers
import Signpost.Proofs.Query
