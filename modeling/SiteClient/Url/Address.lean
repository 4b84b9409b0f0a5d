import SiteClient.Text.Basic
/-!
# Network addresses

An address of version 4 is a number of 32 bits, written as four decimal numbers joined by dots and
read from up to four numbers that may be octal or hexadecimal, the last of which fills all the bytes
that are left. An address of version 6 is a list of eight pieces of 16 bits, written in hexadecimal
and joined by colons; the first longest run of two or more zeros is left out between two colons.
-/

namespace SiteClient

/-- The number that digits of a base spell, if they are digits of it. -/
def Text.toNat? (base : Nat) (t : Text) : Option Nat :=
  t.foldlM
    (fun n c ↦ (Text.hexValue? c).bind fun d ↦ if d < base then some (n * base + d) else none) 0

/-! ## Version 4 -/

namespace Ipv4

/-- A number in an address: `0x` makes it hexadecimal, any other leading zero octal. -/
def number? : Text → Option Nat
  | [] => none
  | '0' :: x :: digits =>
    if x = 'x' ∨ x = 'X' then Text.toNat? 16 digits else Text.toNat? 8 (x :: digits)
  | digits => Text.toNat? 10 digits

/-- The parts of a host between dots, without the empty one behind a last dot. -/
def parts (host : Text) : List Text :=
  match (Text.cutAt (· == '.') host).reverse with
  | [] :: rest => rest.reverse
  | _ => Text.cutAt (· == '.') host

/-- Whether a host is meant as an address: its last part is a number. -/
def isMeant (host : Text) : Bool :=
  match (parts host).getLast? with
  | some last => (last ≠ [] && last.all Char.isDigit) || (number? last).isSome
  | none => false

/-- The address that numbers make: each but the last is a byte, and the last fills the rest. -/
def ofNumbers? (high : List Nat) (last : Nat) : Option Nat :=
  if high.length ≤ 3 ∧ high.all (· ≤ 255) ∧ last < Nat.pow 256 (4 - high.length) then
    some (high.foldl (fun n byte ↦ n * 256 + byte) 0 * Nat.pow 256 (4 - high.length) + last)
  else none

def parse? (host : Text) : Option Nat := do
  let numbers ← (parts host).mapM number?
  ofNumbers? numbers.dropLast (← numbers.getLast?)

def text (address : Nat) : Text :=
  List.intercalate ['.'] ([3, 2, 1, 0].map fun i ↦ Text.ofNat (address / Nat.pow 256 i % 256))

end Ipv4

/-! ## Version 6 -/

namespace Ipv6

/-- A piece: one to four hexadecimal digits. -/
def piece? (t : Text) : Option Nat :=
  if t ≠ [] ∧ t.length ≤ 4 then Text.toNat? 16 t else none

/-- A byte in decimal without leading zeros. -/
def byte? (t : Text) : Option Nat :=
  match t with
  | [] => none
  | '0' :: _ :: _ => none
  | _ => (Text.toNat? 10 t).filter (· ≤ 255)

/-- The two pieces of an address of version 4 at the end of one of version 6. -/
def embedded? (t : Text) : Option (List Nat) :=
  match (Text.cutAt (· == '.') t).mapM byte? with
  | some [a, b, c, d] => some [a * 256 + b, c * 256 + d]
  | _ => none

/-- The pieces between colons; at the end of the address the last of them may be an address of
version 4. -/
def pieces? (atEnd : Bool) : List Text → Option (List Nat)
  | [] => some []
  | [last] =>
    match piece? last with
    | some n => some [n]
    | none => if atEnd then embedded? last else none
  | t :: rest => do return (← piece? t) :: (← pieces? atEnd rest)

/-- The pieces of one side of the gap; an empty side has none. -/
def side? (atEnd : Bool) (t : Text) : Option (List Nat) :=
  if t = [] then some [] else pieces? atEnd (Text.cutAt (· == ':') t)

def parse? (t : Text) : Option (List Nat) :=
  match Text.breakOn [':', ':'] t with
  | none => (side? true t).filter (·.length = 8)
  | some (before, after) => do
    let high ← side? false before
    let low ← side? true after
    if high.length + low.length ≤ 7 then
      return high ++ List.replicate (8 - high.length - low.length) 0 ++ low
    else none

/-- The lengths of the runs of zeros that start at each place. -/
def zeroRuns : List Nat → List Nat
  | [] => []
  | n :: rest =>
    let runs := zeroRuns rest
    (if n = 0 then runs.headD 0 + 1 else 0) :: runs

def join (pieces : List Nat) : Text :=
  List.intercalate [':'] (pieces.map Text.hex)

def text (pieces : List Nat) : Text :=
  let runs := zeroRuns pieces
  let longest := runs.foldl Nat.max 0
  if longest < 2 then join pieces
  else
    let start := runs.idxOf longest
    join (pieces.take start) ++ [':', ':'] ++ join (pieces.drop (start + longest))

end Ipv6
end SiteClient
