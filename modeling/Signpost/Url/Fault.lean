/-!
# Why a text is no URL
-/

namespace Signpost.Url

/-- Why a text is no absolute URL. -/
inductive Fault where
  | emptyHost
  | badName
  | badPort
  | badIpv4
  | badIpv6
  | badHostCharacter
  /-- The text has no scheme, so that it can only be read against a base. -/
  | noScheme
  deriving DecidableEq, Repr, Inhabited

namespace Fault

def message : Fault → String
  | .emptyHost => "empty host"
  | .badName => "invalid international domain name"
  | .badPort => "invalid port number"
  | .badIpv4 => "invalid IPv4 address"
  | .badIpv6 => "invalid IPv6 address"
  | .badHostCharacter => "invalid domain character"
  | .noScheme => "relative URL without a base"

end Fault

end Signpost.Url
