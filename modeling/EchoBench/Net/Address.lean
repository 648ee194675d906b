import EchoBench.Text.Numeral

/-!
# `EchoBench.Net.Address`: internet addresses, and where a server listens

Addresses of both versions are written and read here, alone and with a port behind them.
-/

set_option autoImplicit false

namespace EchoBench.Net

open EchoBench.Text

/-! ### Addresses

The text of a version 6 address follows RFC 5952: lower-case groups without leading zeros, the
longest run of at least two zero groups written as two colons (the first of several), and an
address that stands for one of version 4 written with that address at its end.
-/

/-- An internet address. -/
inductive Ip
  | v4 (a b c d : UInt8)
  /-- The eight groups of sixteen bits. -/
  | v6 (groups : Vector UInt16 8)
  deriving DecidableEq, Repr

namespace Ip

/-- Every address of the machine. -/
def unspecified : Ip := .v4 0 0 0 0

/-- The address by which the machine calls itself. -/
def loopback : Ip := .v4 127 0 0 1

/-! ## Writing -/

/-- Puts a separator between texts. -/
def separated (separator : List Char) (items : List (List Char)) : List Char :=
  List.intercalate separator items

/-- The text of a version 4 address. -/
def textV4 (parts : List Nat) : List Char :=
  separated ['.'] (parts.map decimal)

/-- The groups of a version 6 address between colons. -/
def textGroups (groups : List Nat) : List Char :=
  separated [':'] (groups.map hex)

/-- The number of zeros at the front of a list. -/
def leadingZeros (groups : List Nat) : Nat :=
  (groups.takeWhile (· = 0)).length

/-- The start and length of the longest run of zeros, the first of several. -/
def longestZeros (groups : List Nat) : Nat × Nat :=
  (List.range groups.length).foldl
    (fun best start =>
      let length := leadingZeros (groups.drop start)
      if best.2 < length then (start, length) else best)
    (0, 0)

/-- The text of a version 6 address. -/
def textV6 (groups : List Nat) : List Char :=
  match groups with
  | [0, 0, 0, 0, 0, 0xffff, high, low] =>
    "::ffff:".toList ++ textV4 [high / 256, high % 256, low / 256, low % 256]
  | _ =>
    let (start, length) := longestZeros groups
    if 1 < length then
      textGroups (groups.take start) ++ [':', ':'] ++ textGroups (groups.drop (start + length))
    else textGroups groups

/-- The text of an address. -/
def text : Ip → String
  | .v4 a b c d => String.ofList (textV4 [a.toNat, b.toNat, c.toNat, d.toNat])
  | .v6 groups => String.ofList (textV6 (groups.toList.map UInt16.toNat))

/-! ## Reading -/

/-- Reads one of the four numbers of a version 4 address: no leading zero, at most 255. -/
def partV4? (s : List Char) : Option Nat :=
  match s with
  | [] => none
  | '0' :: _ :: _ => none
  | _ => (readDigits 255 0 s).toOption

/-- Reads a version 4 address. -/
def partsV4? (s : List Char) : Option (List Nat) := do
  let parts ← (s.splitOn '.').mapM partV4?
  if parts.length = 4 then some parts else none

/-- Reads one group of a version 6 address. -/
def group? (s : List Char) : Option Nat := do
  let digits ← s.mapM hexValue?
  if 1 ≤ digits.length ∧ digits.length ≤ 4 then
    some (digits.foldl (fun n d => 16 * n + d) 0)
  else none

/-- Reads groups between colons. The last may be a version 4 address, which fills two groups. -/
def groups? : List (List Char) → Option (List Nat)
  | [] => some []
  | [last] =>
    match partsV4? last with
    | some [a, b, c, d] => some [256 * a + b, 256 * c + d]
    | _ => (group? last).map ([·])
  | g :: rest => do
    let n ← group? g
    let ns ← groups? rest
    some (n :: ns)

/-- Reads the groups on one side of two colons. -/
def side? (s : List Char) : Option (List Nat) :=
  if s.isEmpty then some [] else groups? (s.splitOn ':')

/-- Cuts a text at its first two colons in a row. -/
def cutAtColons : List Char → Option (List Char × List Char)
  | ':' :: ':' :: rest => some ([], rest)
  | [] => none
  | c :: rest => (cutAtColons rest).map fun p => (c :: p.1, p.2)

/-- Reads the eight groups of a version 6 address. Two colons stand for at least one zero group. -/
def groupsV6? (s : List Char) : Option (List Nat) :=
  match cutAtColons s with
  | none => groups? (s.splitOn ':')
  | some (left, right) => do
    let left ← side? left
    let right ← side? right
    if left.length + right.length < 8 then
      some (left ++ List.replicate (8 - left.length - right.length) 0 ++ right)
    else none

/-- Reads an address. -/
def ofText? (text : String) : Option Ip :=
  match partsV4? text.toList with
  | some [a, b, c, d] => some (.v4 (.ofNat a) (.ofNat b) (.ofNat c) (.ofNat d))
  | _ => do
    let groups := ((← groupsV6? text.toList).map UInt16.ofNat).toArray
    if h : groups.size = 8 then some (.v6 ⟨groups, h⟩) else none

end Ip

/-! ### Endpoints

An endpoint is written as its address and its port with a colon between. An address of version 6
has colons of its own, so it stands in brackets, with the number of the interface behind a percent
sign if it is local to one. Numbers are written without leading zeros, and read with any.
-/

/-- An address and a port on it. -/
structure Endpoint where
  ip : Ip
  port : UInt16
  /-- The number of the network interface that an address of version 6 is local to; zero stands for
  no interface in particular. -/
  scope : UInt32 := 0
  deriving DecidableEq, Repr

namespace Endpoint

/-- The text of an endpoint. -/
def text (e : Endpoint) : String :=
  let port := ":" ++ toString e.port.toNat
  match e.ip with
  | .v4 .. => e.ip.text ++ port
  | .v6 _ =>
    let scope := if e.scope.toNat = 0 then "" else "%" ++ toString e.scope.toNat
    "[" ++ e.ip.text ++ scope ++ "]" ++ port

/-- Reads a number of an endpoint: digits only, and at least one. -/
def number? (greatest : Nat) (s : List Char) : Option Nat :=
  if s.isEmpty then none else (readDigits greatest 0 s).toOption

/-- Cuts a text at the last place of a character. -/
def cutAtLast? (mark : Char) (s : List Char) : Option (List Char × List Char) :=
  let back := (s.reverse.takeWhile (· ≠ mark)).reverse
  if back.length < s.length then some (s.take (s.length - back.length - 1), back) else none

/-- Reads an address of version 6 that may have the number of an interface behind it. -/
def scoped? (s : List Char) : Option (Ip × Nat) := do
  let (address, scope) ← match cutAtLast? '%' s with
    | none => some (s, 0)
    | some (address, digits) => (number? (UInt32.size - 1) digits).map ((address, ·))
  match Ip.ofText? (String.ofList address) with
  | some (.v6 groups) => some (.v6 groups, scope)
  | _ => none

/-- Reads an endpoint. -/
def ofText? (s : String) : Option Endpoint := do
  let (front, digits) ← cutAtLast? ':' s.toList
  let port ← number? (UInt16.size - 1) digits
  match front with
  | '[' :: rest =>
    let (inside, behind) ← cutAtLast? ']' rest
    let (ip, scope) ← scoped? inside
    if behind.isEmpty then some ⟨ip, .ofNat port, .ofNat scope⟩ else none
  | _ =>
    match Ip.ofText? (String.ofList front) with
    | some (.v4 a b c d) => some ⟨.v4 a b c d, .ofNat port, 0⟩
    | _ => none

end Endpoint

end EchoBench.Net
