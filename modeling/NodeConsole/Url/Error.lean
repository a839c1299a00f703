/-!
Why a text is no absolute URL.
-/

namespace NodeConsole.Url

inductive Error where
  | emptyHost
  | badDomain
  | badPort
  | badAddress4
  | badAddress6
  | forbiddenHostCharacter
  | relative
deriving DecidableEq, Repr

def Error.message : Error → String
  | .emptyHost => "empty host"
  | .badDomain => "invalid international domain name"
  | .badPort => "invalid port number"
  | .badAddress4 => "invalid IPv4 address"
  | .badAddress6 => "invalid IPv6 address"
  | .forbiddenHostCharacter => "invalid domain character"
  | .relative => "relative URL without a base"

end NodeConsole.Url
