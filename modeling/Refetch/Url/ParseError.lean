/-!
# Why a text is no URL
-/

namespace Refetch.Url

inductive ParseError
  | emptyHost
  | idna
  | port
  | ipv4
  | ipv6
  | domainCharacter
  | relativeWithoutBase
  | overflow
  deriving Repr, DecidableEq

def ParseError.message : ParseError → String
  | emptyHost => "empty host"
  | idna => "invalid international domain name"
  | port => "invalid port number"
  | ipv4 => "invalid IPv4 address"
  | ipv6 => "invalid IPv6 address"
  | domainCharacter => "invalid domain character"
  | relativeWithoutBase => "relative URL without a base"
  | overflow => "URLs more than 4 GB are not supported"

end Refetch.Url
