import CellPurse.Bytes.Basic
import CellPurse.Text.Digit
import CellPurse.Url.Basic

/-!
# CellPurse.Node.Http — documents over HTTP

One document goes to a server and one comes back; the connection is closed after it.

* `Target.ofUrl?`: the host, port and path of an address;
* `Http.request`: the bytes of a request;
* `Http.response?`: the status and the body in the bytes of an answer, whose body may come in chunks.
-/

namespace CellPurse

/-- Where a request goes. -/
structure Target where
  host : String
  port : UInt16
  path : String
  /-- Host and port as the request names them. -/
  place : String
  deriving DecidableEq, Repr

namespace Http

/-- The port where none is given. -/
def usualPort : Int := 80

/-- The bytes of a text. -/
def ascii (s : String) : Bytes := s.toUTF8.toList

/-- A request with a document. -/
def request (t : Target) (body : String) : Bytes :=
  ascii ("POST " ++ t.path ++ " HTTP/1.1\r\nHost: " ++ t.place ++
    "\r\nContent-Type: application/json\r\nConnection: close\r\nContent-Length: " ++ toString body.utf8ByteSize ++
    "\r\n\r\n" ++ body)

/-! ## Answers -/

/-- The first line, without its end, and what follows it. -/
def line : Bytes → Option (Bytes × Bytes)
  | 13 :: 10 :: r => some ([], r)
  | b :: r => (line r).map fun (l, rest) => (b :: l, rest)
  | [] => none

/-- The characters of bytes, in lower case. -/
def lowered (b : Bytes) : String := String.ofList (b.map fun x => (Char.ofNat x.toNat).toLower)

/-- The lines of the head, and the body. -/
def head : Nat → Bytes → Option (List String × Bytes)
  | 0, _ => none
  | fuel + 1, bs =>
    match line bs with
    | none => none
    | some ([], rest) => some ([], rest)
    | some (l, rest) => (head fuel rest).map fun (ls, body) => (lowered l :: ls, body)

/-- Reads the size of a chunk: hexadecimal digits, perhaps with something after them. -/
def size (l : Bytes) : Nat :=
  ((lowered l).toList.map Text.Digit.hex?).takeWhile Option.isSome |>.foldl (fun n d => 16 * n + d.getD 0) 0

/-- The bytes of all chunks. -/
def unchunk : Nat → Bytes → Bytes
  | 0, _ => []
  | fuel + 1, bs =>
    match line bs with
    | none => []
    | some (l, rest) =>
      if size l = 0 then [] else rest.take (size l) ++ unchunk fuel (rest.drop (size l + 2))

/-- The status in the first line of an answer. -/
def status? (l : String) : Option Nat :=
  let ds := ((l.toList.dropWhile (· ≠ ' ')).drop 1).takeWhile Text.Digit.isAscii
  if ds.isEmpty then none else some (Text.Digit.natOf ds)

/-- The status and the body of an answer. -/
def response? (bs : Bytes) : Option (Nat × Bytes) :=
  match head bs.length bs with
  | some (first :: fields, body) =>
    let isChunked := fields.any fun f => f.startsWith "transfer-encoding:" && (f.splitOn "chunked").length != 1
    (status? first).map fun status => (status, if isChunked then unchunk body.length body else body)
  | _ => none

end Http

/-- The target of an address. -/
def Target.ofUrl? (u : Url) : Option Target :=
  let port := u.port.getD Http.usualPort
  if u.scheme = "http" ∧ u.isAbsolute ∧ 0 ≤ port ∧ port < 2 ^ 16 then
    some ⟨u.host, UInt16.ofNat port.toNat, if u.path.isEmpty then "/" ++ u.resource else u.resource, u.place⟩
  else none

end CellPurse
