import SiteClient.Url.Host
/-!
# URLs

A URL has a scheme and, in this order, an authority, a path, a query and a fragment. The schemes of
the web have default ports, always a host, and a path that is a list of segments; other schemes may
have a path that is a text of its own.

A URL is kept in its normal form: everything is encoded, a default port is left out and the path has
no dot segments. `Url.text` only puts the parts together.
-/

namespace SiteClient

/-- The kinds of schemes. -/
inductive SchemeKind where
  /-- A scheme of the web, with its default port. -/
  | web (port : Nat)
  /-- Files, which have a host at most. -/
  | file
  | other
  deriving DecidableEq, Repr

/-- The kind of a scheme in small letters. -/
def SchemeKind.of (scheme : Text) : SchemeKind :=
  match String.ofList scheme with
  | "http" | "ws" => .web 80
  | "https" | "wss" => .web 443
  | "ftp" => .web 21
  | "file" => .file
  | _ => .other

/-- The name and the password of a user, encoded; one that is not given is empty. -/
structure Credentials where
  name : Text := []
  password : Text := []
  deriving DecidableEq, Repr

/-- Who and where: what stands between the two slashes and the path. -/
structure Authority where
  credentials : Credentials := {}
  host : Host
  port : Option Nat := none
  deriving DecidableEq, Repr

/-- The path of a URL. -/
inductive UrlPath where
  /-- A text of its own. -/
  | whole (t : Text)
  /-- Segments, each behind a slash. -/
  | segments (parts : List Text)
  deriving DecidableEq, Repr

/-- A URL in normal form. -/
structure Url where
  scheme : Text
  authority : Option Authority
  path : UrlPath
  query : Option Text
  fragment : Option Text
  deriving DecidableEq, Repr

/-- The credentials with the mark behind them; nothing if both are empty. -/
def Credentials.text (c : Credentials) : Text :=
  if c.name = [] ∧ c.password = [] then []
  else c.name ++ (if c.password = [] then [] else ':' :: c.password) ++ ['@']

def Authority.text (a : Authority) : Text :=
  '/' :: '/' :: a.credentials.text ++ a.host.text ++
    (a.port.map fun n ↦ ':' :: Text.ofNat n).getD []

/-- The path in text. Without an authority, a path with an empty segment in front would be taken for
one, so a dot segment comes first. -/
def UrlPath.text (hasAuthority : Bool) : UrlPath → Text
  | .whole t => t
  | .segments parts =>
    let joined := parts.flatMap ('/' :: ·)
    if !hasAuthority && ['/', '/'].isPrefixOf joined then '/' :: '.' :: joined else joined

namespace Url

def text (u : Url) : Text :=
  u.scheme ++ ':' :: (u.authority.map Authority.text).getD [] ++ u.path.text u.authority.isSome ++
    (u.query.map ('?' :: ·)).getD [] ++ (u.fragment.map ('#' :: ·)).getD []

end Url
end SiteClient
