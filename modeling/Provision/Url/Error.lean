/-!
# Failures of reading a URL
-/

namespace Provision.Url

/-- Why a text is no URL. -/
inductive Error where
  | emptyHost
  | invalidDomainName
  | invalidPort
  | invalidIpv4
  | invalidIpv6
  | invalidHostCharacter
  | relative
deriving DecidableEq, Repr

/-- The wording of a failure. -/
def Error.message : Error → String
  | emptyHost => "empty host"
  | invalidDomainName => "invalid international domain name"
  | invalidPort => "invalid port number"
  | invalidIpv4 => "invalid IPv4 address"
  | invalidIpv6 => "invalid IPv6 address"
  | invalidHostCharacter => "invalid domain character"
  | relative => "relative URL without a base"

end Provision.Url
