import SiteClient.Url.Basic
/-!
# Reading URLs

A text is cut at its marks from the outside inwards: the scheme at the first colon, the fragment at
the first number sign, the query at the first question mark, then the authority and the path.
Controls and spaces around the text count for nothing, and so do tabs and line ends inside it,
except that one of them closes a drive that it follows. In the schemes of the web a backslash is a
slash, and so is any number of slashes in front of the authority.
-/

namespace SiteClient

namespace Url

/-- The text without the controls and spaces around it. -/
def trim (t : Text) : Text :=
  let isEdge (c : Char) := c ≤ ' '
  ((t.dropWhile isEdge).reverse.dropWhile isEdge).reverse

/-- Whether a character is a tab or ends a line. -/
def isBreak (c : Char) : Bool :=
  ['\t', '\n', '\r'].contains c

/-- The text without its tabs and line ends. -/
def joined (t : Text) : Text :=
  t.filter (!isBreak ·)

/-- Cuts off the scheme: a letter, then letters, digits and `+-.`, then a colon. -/
def scheme? (t : Text) : Option (Text × Text) :=
  match Text.breakOn [':'] t with
  | some (before, rest) =>
    match joined before with
    | c :: name =>
      if c.isAlpha && name.all (fun d ↦ d.isAlphanum || ['+', '-', '.'].contains d) then
        some ((c :: name).map Char.toLower, rest)
      else none
    | [] => none
  | none => none

/-- Cuts a text at the first mark, which may be missing. -/
def cut (mark : Char) (t : Text) : Text × Option Text :=
  match Text.breakOn [mark] t with
  | some (before, after) => (before, some after)
  | none => (t, none)

def isSlash : SchemeKind → Char → Bool
  | .other, c => c == '/'
  | _, c => c == '/' || c == '\\'

end Url

/-! ## The authority -/

/-- The credentials that a text spells. -/
def Credentials.ofText (t : Text) : Credentials :=
  let (name, password) := Url.cut ':' t
  { name := Percent.encode Percent.inCredentials name
    password := Percent.encode Percent.inCredentials (password.getD []) }

namespace Authority

/-- Cuts an authority behind its last `@`. -/
def splitCredentials (t : Text) : Option Text × Text :=
  match Url.cut '@' t.reverse with
  | (host, some user) => (some user.reverse, host.reverse)
  | (_, none) => (none, t)

/-- Cuts the host off: it ends at the first colon outside brackets. -/
def splitPort : (inBrackets : Bool) → Text → Text × Option Text
  | _, [] => ([], none)
  | inBrackets, c :: t =>
    if c = ':' ∧ ¬ inBrackets then ([], some t)
    else
      let inBrackets := if c = '[' then true else if c = ']' then false else inBrackets
      let (host, port) := splitPort inBrackets t
      (c :: host, port)

def port? (t : Text) : Except UrlError (Option Nat) :=
  if t = [] then .ok none
  else if t.all Char.isDigit then
    match Text.toNat? 10 t with
    | some n => if n < UInt16.size then .ok (some n) else .error .port
    | none => .error .port
  else .error .port

/-- The authority that a text spells, and what is left of the text: a backslash ends a port in every
scheme. The host may be empty only outside the web, and only where nothing else depends on it;
`isLast` tells that nothing of the URL stands behind the authority. -/
def ofText (kind : SchemeKind) (isLast : Bool) (t : Text) : Except UrlError (Authority × Text) := do
  let (user, rest) := splitCredentials t
  let credentials := (user.map Credentials.ofText).getD {}
  let (host, port) := splitPort false rest
  if host = [] ∧ (kind ≠ .other ∨ credentials ≠ {} ∨ port.isSome ∨ (user = some [] ∧ !isLast)) then
    throw .emptyHost
  let host ← if kind = .other then Host.ofOther host else Host.ofWeb host
  let port := port.getD []
  let number ← port? (port.takeWhile (· ≠ '\\'))
  let usual := match kind with
    | .web usual => some usual
    | _ => none
  return ({ credentials, host, port := if number = usual then none else number },
    port.dropWhile (· ≠ '\\'))

end Authority

/-! ## The path -/

namespace Url

/-- Whether a segment stands for the place where it is. -/
def isHere (segment : Text) : Bool :=
  [".", "%2e"].contains (String.ofList (segment.map Char.toLower))

/-- Whether a segment stands for the place above. -/
def isAbove (segment : Text) : Bool :=
  ["..", ".%2e", "%2e.", "%2e%2e"].contains (String.ofList (segment.map Char.toLower))

def isDrive : Text → Bool
  | [letter, mark] => letter.isAlpha && (mark == ':' || mark == '|')
  | _ => false

/-- Whether a segment starts with a drive: the drive is all of it, or a backslash follows. -/
def startsWithDrive (t : Text) : Bool :=
  isDrive (t.take 2) && (t.drop 2).head?.all (· == '\\')

/-- The place above a list of segments. A drive has none. -/
def above (done : List Text) : List Text :=
  if (done.getLast?.map startsWithDrive).getD false then done else done.dropLast

/-- Cuts a piece of a path behind a drive that a tab or a line end closes. A closed drive is told
from others by a bar in place of the colon. -/
def closedDrive? (t : Text) : Option (Text × Text) :=
  match cut ':' t with
  | (letter, some (c :: rest)) =>
    let drive := joined letter ++ ['|']
    if isDrive drive && isBreak c && joined rest ≠ [] then some (drive, joined rest) else none
  | _ => none

/-- The segments that a piece of a path spells. The drive in front of the path of a file ends with a
colon, or with a bar if it is closed; what follows a closed drive is a segment of its own, whatever
it says. -/
def spelled (kind : SchemeKind) (isFirst : Bool) (t : Text) : List Text :=
  let plain := Percent.encode Percent.inPath (joined t)
  if kind = .file ∧ isFirst then
    match closedDrive? t with
    | some (drive, rest) => [drive, Percent.encode Percent.inPath rest]
    | none => [if isDrive (joined t) then (joined t).take 1 ++ [':'] else plain]
  else [plain]

/-- The path of the pieces between slashes, once the segments in `done` have been read. A dot
segment at the end leaves an empty one. -/
def walk (kind : SchemeKind) : (done : List Text) → List Text → List Text
  | done, [] => done
  | done, t :: rest =>
    let last := if rest = [] then [[]] else []
    if isAbove (joined t) then walk kind (above done ++ last) rest
    else if isHere (joined t) then walk kind (done ++ last) rest
    else walk kind (done ++ spelled kind (done = []) t) rest

/-- The path that a text spells, its first slash left out. -/
def segments (kind : SchemeKind) (t : Text) : List Text :=
  walk kind [] (Text.cutAt (isSlash kind) t)

/-- The path behind an authority: only a scheme of the web needs one. -/
def pathBehind (kind : SchemeKind) : Text → UrlPath
  | [] => .segments (if kind = .other then [] else [[]])
  | c :: t => .segments (segments kind (if isSlash kind c then t else c :: t))

/-! ## The kinds of URLs -/

/-- Authority and path of a web address. -/
def web (port : Nat) (t : Text) : Except UrlError (Option Authority × UrlPath) := do
  let slash := isSlash (.web port)
  let t := t.dropWhile slash
  let (authority, _) ← Authority.ofText (.web port) false (t.takeWhile (!slash ·))
  return (some authority, pathBehind (.web port) (t.dropWhile (!slash ·)))

/-- Authority and path in a scheme that is not of the web; `isLast` tells that nothing of the URL
stands behind them. Without a slash in front, the path is a text of its own. -/
def other (isLast : Bool) : Text → Except UrlError (Option Authority × UrlPath)
  | '/' :: '/' :: t => do
    let behind := t.dropWhile (· ≠ '/')
    let (authority, rest) ← Authority.ofText .other (isLast && behind = []) (t.takeWhile (· ≠ '/'))
    return (some authority, pathBehind .other (rest ++ behind))
  | '/' :: t => .ok (none, .segments (segments .other t))
  | t => .ok (none, .whole (Percent.encode Percent.isControl t))

/-- The path of a file has no empty segments in front, and a drive there ends with a colon. -/
def filePath (parts : List Text) : UrlPath :=
  match parts with
  | [letter, '|'] :: rest => .segments ([letter, ':'] :: rest)
  | parts =>
    match parts.dropWhile (· = []) with
    | [] => .segments [[]]
    | parts => .segments parts

/-- The host of a file. This machine needs no name. -/
def fileHost (t : Text) : Except UrlError Host := do
  if t = [] then return .name []
  let host ← Host.ofWeb t
  return if host = .name "localhost".toList then .name [] else host

/-- What is left of a text behind the slash that it starts with. -/
def behindSlash? (kind : SchemeKind) (t : Text) : Option Text :=
  match t.dropWhile isBreak with
  | c :: t => if isSlash kind c then some t else none
  | [] => none

/-- Host and path of a file. A drive is no host, and a path that starts with a drive stands without
a host, unless the drive is closed. Where there is no host, the slash behind it is part of the
path. -/
def file (t : Text) : Except UrlError (Option Authority × UrlPath) := do
  let here (path : Text) :=
    (some ({ host := .name [] } : Authority), filePath (segments .file path))
  match behindSlash? .file t with
  | none => return here t
  | some path =>
    match behindSlash? .file path with
    | none => return here path
    | some t =>
      let name := joined (t.takeWhile (!isSlash .file ·))
      if isDrive name then return here t
      let host ← fileHost name
      let path := t.dropWhile (!isSlash .file ·)
      if host = .name [] then return here path
      let parts := segments .file path.tail
      let isOnDrive := match parts with
        | drive :: _ => isDrive drive && drive.contains ':'
        | [] => false
      return (some { host := if isOnDrive then .name [] else host }, filePath parts)

def parse (t : Text) : Except UrlError Url := do
  match scheme? (trim t) with
  | none => throw .noScheme
  | some (scheme, rest) =>
    let (rest, fragment) := cut '#' rest
    let (rest, query) := cut '?' rest
    let (inQuery, (authority, path)) ← match SchemeKind.of scheme with
      | .web port => do pure (Percent.inWebQuery, ← web port (joined rest))
      | .file => do pure (Percent.inWebQuery, ← file rest)
      | .other => do
        let isLast := query.isNone && fragment.isNone
        pure (Percent.inQuery, ← other isLast (joined rest))
    return { scheme, authority, path
             query := query.map fun t ↦ Percent.encode inQuery (joined t)
             fragment := fragment.map fun t ↦ Percent.encode Percent.inFragment (joined t) }

end Url
end SiteClient
