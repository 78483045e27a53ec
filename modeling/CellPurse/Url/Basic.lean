import CellPurse.Number.Literal
import CellPurse.Url.Host

/-!
# CellPurse.Url.Basic — addresses of documents

An address has a scheme, an owner and a host with a port, a path, a query and a fragment, most of which may be absent.

* `Url.parse`: the address that a text spells, in its usual form: scheme and host in small letters, no port that the
  scheme has anyway, a path without steps back, and all characters that do not stand for themselves as bytes;
* `Url.text`: its text;
* `Url.asked`: the address of a request, which has only path and query where scheme or host is absent.
-/

namespace CellPurse

open Text

/-- An address. -/
structure Url where
  scheme : String := ""
  /-- Name and password in front of the host. -/
  owner : String := ""
  /-- The host, without brackets. -/
  host : String := ""
  port : Option Int := none
  path : String
  query : Option String
  fragment : Option String := none
  deriving DecidableEq, Repr

namespace Url

/-! ## Parts of a text -/

/-- The parts as they are given. -/
structure Parts where
  scheme : List Char
  authority : List Char
  path : List Char
  query : Option (List Char)
  fragment : Option (List Char)

/-- A character of a scheme behind its first one. -/
def isSchemeChar (c : Char) : Bool := c.isAlphanum || c = '+' || c = '.' || c = '-'

/-- The scheme in front of a colon, and the rest; no scheme and the whole text where there is none. -/
def splitScheme (cs : List Char) : List Char × List Char :=
  let name := cs.takeWhile isSchemeChar
  match cs.dropWhile isSchemeChar with
  | ':' :: r => if (name.head?.map Char.isAlpha).getD true then (name, r) else ([], cs)
  | _ => ([], cs)

/-- What follows two slashes up to the next part. -/
def splitAuthority : List Char → List Char × List Char
  | '/' :: '/' :: r => r.span fun c => !(c = '/' || c = '?' || c = '#')
  | cs => ([], cs)

/-- What follows a sign at the start, up to another one. -/
def splitAt (sign : Char) (stop : Char → Bool) : List Char → Option (List Char) × List Char
  | c :: r => if c = sign then (some (r.takeWhile (!stop ·)), r.dropWhile (!stop ·)) else (none, c :: r)
  | [] => (none, [])

/-- The parts of a text. -/
def split (cs : List Char) : Parts :=
  let (scheme, r) := splitScheme cs
  let (authority, r) := splitAuthority r
  let (path, r) := r.span fun c => !(c = '?' || c = '#')
  let (query, r) := splitAt '?' (· = '#') r
  let (fragment, _) := splitAt '#' (fun _ => false) r
  { scheme, authority, path, query, fragment }

/-! ## Owner, host and port -/

/-- What is in front of the last sign, and what is behind it; nothing and all of it where there is none. -/
def splitLast (sign : Char) (cs : List Char) : List Char × List Char :=
  let back := cs.reverse
  (((back.dropWhile (· ≠ sign)).drop 1).reverse, (back.takeWhile (· ≠ sign)).reverse)

/-- The host, in brackets or up to a colon, and the port behind a colon. -/
def splitPort (cs : List Char) : List Char × List Char :=
  let (host, r) :=
    if cs.head? = some '[' ∧ cs.contains ']' then ((splitLast ']' cs).1 ++ [']'], (splitLast ']' cs).2)
    else cs.span (· ≠ ':')
  match r with
  | ':' :: port => (host, port)
  | port => (host, port)

/-- The ports that schemes have. -/
def usualPorts : List (List Char × Int) :=
  [("ftp".toList, 21), ("http".toList, 80), ("https".toList, 443), ("ws".toList, 80), ("wss".toList, 443)]

/-- Reads a port; the usual one of the scheme is none. -/
def readPort (scheme port : List Char) : Except UrlFault (Option Int) :=
  if port.isEmpty then .ok none
  else match Literal.parse 10 (String.ofList port) with
    | .ok n => .ok (if usualPorts.lookup scheme = some n then none else some n)
    | .error _ => .error (.port (String.ofList port))

/-! ## Paths -/

/-- Takes a step back from the pieces so far, the last first; nobody steps back from the start. -/
def back : List (List Char) → List (List Char)
  | [] => []
  | [[]] => [[]]
  | _ :: r => r

/-- Adds a piece of a path to those so far, the last first. -/
def step (sofar : List (List Char)) (piece : List Char) : List (List Char) :=
  if piece = ['.'] then sofar else if piece = ['.', '.'] then back sofar else piece :: sofar

/-- A path without steps that stay or go back. -/
def walked (path : List Char) : List Char :=
  List.intercalate ['/'] ((Split.pieces '/' path).foldl step []).reverse

/-- A path alone starts neither with two slashes nor with a colon. -/
def checkAlone (path : List Char) : Except UrlFault Unit :=
  match path with
  | '/' :: '/' :: _ => .error (.path "//")
  | ':' :: _ => .error (.path ":")
  | _ => .ok ()

/-! ## Reading -/

/-- How long an address may be. -/
def longest : Nat := 65536

/-- A control character of ASCII. -/
def isControl (c : Char) : Bool := c < ' ' || c = '\x7f'

/-- The address of parts. -/
def ofParts (p : Parts) : Except UrlFault Url := do
  let (owner, rest) := splitLast '@' p.authority
  let (host, port) := splitPort rest
  let owner := Escape.write Escape.owner owner
  let host ← Host.read host
  let port ← readPort p.scheme port
  let alone := p.scheme.isEmpty && owner.isEmpty && host.isEmpty && port.isNone
  if alone then checkAlone p.path
  let path := if alone then p.path else walked p.path
  pure {
    scheme := String.ofList (p.scheme.map Char.toLower)
    owner := String.ofList owner
    host := String.ofList host
    port
    path := String.ofList (Escape.write Escape.path path)
    query := p.query.map fun q => String.ofList (Escape.write Escape.query q)
    fragment := p.fragment.map fun f => String.ofList (Escape.write Escape.fragment f) }

/-- The address that a text spells. -/
def parse (s : String) : Except UrlFault Url :=
  let cs := s.toList
  if longest < cs.length then .error .tooLong
  else match cs.find? isControl with
    | some c => .error (.control c (cs.takeWhile (· ≠ c)).length)
    | none => ofParts (split cs)

/-! ## Writing -/

/-- A sign and what follows it, where there is something. -/
def behind (sign : String) : Option String → String
  | some t => sign ++ t
  | none => ""

/-- Host and port, the host in brackets where it has colons. -/
def place (u : Url) : String :=
  (if u.host.toList.contains ':' then "[" ++ u.host ++ "]" else u.host) ++ behind ":" (u.port.map toString)

/-- Owner, host and port. -/
def authority (u : Url) : String := (if u.owner.isEmpty then "" else u.owner ++ "@") ++ u.place

/-- Path and query. -/
def resource (u : Url) : String := u.path ++ behind "?" u.query

/-- The text of an address. -/
def text (u : Url) : String :=
  (if u.scheme.isEmpty then "" else u.scheme ++ ":") ++ (if u.authority.isEmpty then "" else "//" ++ u.authority) ++
    u.resource ++ behind "#" u.fragment

/-! ## Requests -/

/-- The address tells where it is. -/
def isAbsolute (u : Url) : Bool := !u.scheme.isEmpty && !u.host.isEmpty

/-- The address of a request. -/
def asked (u : Url) : Url :=
  if u.isAbsolute then u
  else { path := String.ofList ('/' :: u.path.toList.dropWhile (· = '/')), query := u.query }

end Url

end CellPurse
