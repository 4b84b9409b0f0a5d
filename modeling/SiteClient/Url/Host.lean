import SiteClient.Url.Address
import SiteClient.Url.Domain
/-!
# Hosts and why a URL is none

The host of a web address is a domain name or a network address. A scheme that is not of the web may
name its hosts as it likes, so there only an address of version 6 is recognised.
-/

namespace SiteClient

/-- Why a text is not a URL. -/
inductive UrlError where
  | emptyHost
  | domainName
  | port
  | ipv4
  | ipv6
  /-- A host of a scheme that is not of the web has a character that hosts do not have. -/
  | hostCharacter
  /-- There is no scheme, and nothing that the text could be relative to. -/
  | noScheme
  deriving DecidableEq, Repr

namespace UrlError

def message : UrlError → Text
  | .emptyHost => "empty host".toList
  | .domainName => "invalid international domain name".toList
  | .port => "invalid port number".toList
  | .ipv4 => "invalid IPv4 address".toList
  | .ipv6 => "invalid IPv6 address".toList
  | .hostCharacter => "invalid domain character".toList
  | .noScheme => "relative URL without a base".toList

end UrlError

/-- The host in a URL. -/
inductive Host where
  /-- A domain name, or a name of another kind; it may be empty. -/
  | name (t : Text)
  | ipv4 (address : Nat)
  | ipv6 (pieces : List Nat)
  deriving DecidableEq, Repr

namespace Host

def text : Host → Text
  | .name t => t
  | .ipv4 address => Ipv4.text address
  | .ipv6 pieces => '[' :: Ipv6.text pieces ++ [']']

/-- What stands between brackets, for a text that starts with one. -/
def bracketed? (t : Text) : Except UrlError Host :=
  match t.getLast?, Ipv6.parse? t.tail.dropLast with
  | some ']', some pieces => .ok (.ipv6 pieces)
  | _, _ => .error .ipv6

/-- The host of a web address. -/
def ofWeb (t : Text) : Except UrlError Host :=
  if t.head? = some '[' then bracketed? t
  else match Domain.ofHost? t with
    | none => .error .domainName
    | some [] => .error .emptyHost
    | some domain =>
      if Ipv4.isMeant domain then
        match Ipv4.parse? domain with
        | some address => .ok (.ipv4 address)
        | none => .error .ipv4
      else .ok (.name domain)

/-- Characters that no host has. -/
def isForbidden (c : Char) : Bool :=
  ("\x00\t\n\r #/:<>?@[\\]^|".toList).contains c

/-- The host of a scheme that is not of the web. -/
def ofOther (t : Text) : Except UrlError Host :=
  if t.head? = some '[' then bracketed? t
  else if t.any isForbidden then .error .hostCharacter
  else .ok (.name (Percent.encode Percent.isControl t))

end Host
end SiteClient
