import CellPurse.Domain.Basic
import CellPurse.Fault
import CellPurse.Url.Escape

/-!
# CellPurse.Url.Host — hosts

A host is four numbers, groups of hexadecimal digits in brackets, or a name.  A name of ASCII characters is written in
small letters, any other one as a domain name.

* `UrlFault`: what can be wrong with an address;
* `Host.isFour`, `Host.isGroups`: the two forms of numbers;
* `Host.read`: the host in its usual form, without brackets.
-/

namespace CellPurse

open Text

/-- What is wrong with an address. -/
inductive UrlFault where
  | tooLong
  /-- A control character, and where it is. -/
  | control (c : Char) (position : Nat)
  | four (host : String)
  | groups (host : String)
  | domain (host : String)
  | port (text : String)
  /-- An address without scheme and host has a path with such a start. -/
  | path (start : String)
  deriving DecidableEq, Repr

/-- The fault in words. -/
def UrlFault.message : UrlFault → String
  | tooLong => "URL too long"
  | control c position =>
    "Invalid non-printable ASCII character in URL, " ++ Quoted.quote (String.singleton c) ++ " at position " ++
      toString position ++ "."
  | four host => "Invalid IPv4 address: " ++ Quoted.quote host
  | groups host => "Invalid IPv6 address: " ++ Quoted.quote host
  | domain host => "Invalid IDNA hostname: " ++ Quoted.quote host
  | port text => "Invalid port: " ++ Quoted.quote text
  | path start => "Relative URLs cannot have a path starting with '" ++ start ++ "'"

namespace Url.Host

/-! ## Four numbers -/

/-- The host looks like four runs of digits with one character between two of them.  A digit may be such a character,
so that a run of `l` digits holds up to `(l + 1) / 2` runs. -/
def looksLikeFour (cs : List Char) : Bool :=
  let runs := (Split.pieces '.' (cs.map fun c => if Digit.isAscii c then c else '.')).map List.length
  runs.length ≤ 4 && !runs.contains 0 && 4 ≤ runs.foldl (fun n l => n + (l + 1) / 2) 0

/-- A number up to 255 without leading zeros. -/
def isByte (ds : List Char) : Bool :=
  !ds.isEmpty && ds.all Digit.isAscii && ds.length ≤ 3 && (ds = ['0'] || ds.head? ≠ some '0') && Digit.natOf ds ≤ 255

/-- Four numbers with points between them. -/
def isFour (cs : List Char) : Bool :=
  let numbers := Split.pieces '.' cs
  numbers.length = 4 && numbers.all isByte

/-! ## Groups -/

/-- One to four hexadecimal digits. -/
def isGroup (ds : List Char) : Bool := !ds.isEmpty && ds.length ≤ 4 && ds.all fun c => (Digit.hex? c).isSome

/-- The groups between colons, two zeros in place of four numbers at the end. -/
def groups (cs : List Char) : List (List Char) :=
  let parts := Split.pieces ':' cs
  match parts.getLast? with
  | some l => if isFour l then parts.dropLast ++ [['0'], ['0']] else parts
  | none => parts

/-- Groups on one side of the gap; nothing stands at the end of the address. -/
def side (parts : List (List Char)) : List (List Char) := if parts = [[]] then [] else parts

/-- Eight groups, or fewer of them with one gap. -/
def isComplete (parts : List (List Char)) : Bool :=
  match (List.range parts.length).filter fun i => 0 < i ∧ i + 1 < parts.length ∧ parts[i]? = some [] with
  | [] => parts.length = 8 && parts.all isGroup
  | [gap] =>
    let rest := side (parts.take gap) ++ side (parts.drop (gap + 1))
    rest.length ≤ 7 && rest.all isGroup
  | _ => false

/-- What names the link behind a percent sign is neither empty nor has another one. -/
def isScope : List Char → Bool
  | [] => true
  | _ :: s => !s.isEmpty && !s.contains '%'

/-- Groups of hexadecimal digits, perhaps with the name of a link. -/
def isGroups (cs : List Char) : Bool :=
  let parts := groups (cs.takeWhile (· ≠ '%'))
  !cs.contains '/' && isScope (cs.dropWhile (· ≠ '%')) && 3 ≤ parts.length && isComplete parts

/-! ## Names -/

/-- The host without brackets around groups. -/
def unbracket? : List Char → Option (List Char)
  | '[' :: r => if r.getLast? = some ']' then some r.dropLast else none
  | _ => none

/-- The host in its usual form. -/
def read (cs : List Char) : Except UrlFault (List Char) :=
  let text := String.ofList cs
  if cs.isEmpty then .ok []
  else if looksLikeFour cs then if isFour cs then .ok cs else .error (.four text)
  else match unbracket? cs with
    | some inner => if isGroups inner then .ok inner else .error (.groups text)
    | none =>
      if cs.all (·.toNat < 0x80) then .ok (Escape.write Escape.host (cs.map Char.toLower))
      else match Domain.encode? (Case.lower cs) with
        | some name => .ok name
        | none => .error (.domain text)

end Url.Host

end CellPurse
