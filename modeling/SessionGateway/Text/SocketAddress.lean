import SessionGateway.Text.Reader

/-! Internet addresses with a port: `192.0.2.1:80` and `[2001:db8::1]:80`. Many texts name one
address; writing gives the shortest of them. The address of a node is less strict: a host and a port
with a colon between them. The host may be any text but the empty one, so it is the last colon that
divides. -/
namespace SessionGateway.Text

inductive IpAddress where
  | v4 (a b c d : Nat)
  /-- The eight groups, and a zone, zero for none. -/
  | v6 (groups : List Nat) (zone : Nat)
  deriving DecidableEq, Repr

structure SocketAddress where
  ip : IpAddress
  port : Nat
  deriving DecidableEq, Repr

/-- A number in digits of a base, with the digits it is written in. -/
def readNumber (base : Nat) : Reader (List Char × Nat) := fun cs => do
  let (run, n, rest) ← takeNumber? base cs
  some ((run, n), rest)

/-- A decimal number below a bound, with any number of leading zeros. -/
def readBelow (bound : Nat) : Reader Nat := do
  let (_, n) ← readNumber 10
  guard (n < bound)
  return n

/-- An octet in decimal: one to three digits without a leading zero. -/
def readOctet : Reader Nat := do
  let (run, n) ← readNumber 10
  guard (run.length ≤ 3 ∧ (run.length = 1 ∨ run.head? ≠ some '0') ∧ n < 256)
  return n

def readV4 : Reader (Nat × Nat × Nat × Nat) := do
  let a ← readOctet
  Reader.char '.'
  let b ← readOctet
  Reader.char '.'
  let c ← readOctet
  Reader.char '.'
  let d ← readOctet
  return (a, b, c, d)

/-- A group in hexadecimal: one to four digits. -/
def readGroup : Reader Nat := do
  let (run, n) ← readNumber 16
  guard (run.length ≤ 4)
  return n

def afterColon (first : Bool) (read : Reader α) : Reader α := do
  unless first do Reader.char ':'
  read

/-- Up to `room` groups, as many as there are. A dotted address counts as the last two of them, and the
flag tells whether there was one. -/
def readGroups (first : Bool) : (room : Nat) → List Char → List Nat × Bool × List Char
  | 0, cs => ([], false, cs)
  | room + 1, cs =>
    let dotted := if 1 ≤ room then afterColon first readV4 cs else none
    match dotted with
    | some ((a, b, c, d), cs) => ([a * 256 + b, c * 256 + d], true, cs)
    | none =>
      match afterColon first readGroup cs with
      | none => ([], false, cs)
      | some (g, cs) =>
        let (more, dotted, cs) := readGroups false room cs
        (g :: more, dotted, cs)

/-- Eight groups, or fewer around a double colon that stands for one or more zero groups. -/
def readV6 : Reader (List Nat) := fun cs =>
  let (head, dotted, cs) := readGroups true 8 cs
  if head.length = 8 then some (head, cs)
  else if dotted then none
  else do
    let ((), cs) ← Reader.word "::" cs
    let (tail, _, cs) := readGroups true (7 - head.length) cs
    some (head ++ List.replicate (8 - head.length - tail.length) 0 ++ tail, cs)

def readZone : Reader Nat :=
  Reader.orElse (do Reader.char '%'; readBelow UInt32.size) 0

def readPort : Reader Nat := do
  Reader.char ':'
  readBelow UInt16.size

namespace SocketAddress

def readDotted : Reader SocketAddress := do
  let (a, b, c, d) ← readV4
  return ⟨.v4 a b c d, ← readPort⟩

def readBracketed : Reader SocketAddress := do
  Reader.char '['
  let groups ← readV6
  let zone ← readZone
  Reader.char ']'
  return ⟨.v6 groups zone, ← readPort⟩

def ofChars? (cs : List Char) : Option SocketAddress :=
  (readDotted <|> readBracketed).whole? cs

def ofString? (s : String) : Option SocketAddress := ofChars? s.toList

end SocketAddress

namespace IpAddress

def dottedText (a b c d : Nat) : String := s!"{a}.{b}.{c}.{d}"

def groupsText (groups : List Nat) : String :=
  String.intercalate ":" (groups.map fun g => String.ofList (digits 16 g))

/-- Start and length of the first longest run of zeros. -/
def longestZeros (groups : List Nat) : Nat × Nat :=
  let starts := List.range groups.length
  starts.foldl (fun best start =>
    let length := ((groups.drop start).takeWhile (· = 0)).length
    if best.2 < length then (start, length) else best) (0, 0)

/-- The groups, the first longest run of two or more zero groups left out. An address that embeds a
dotted one after sixteen one bits shows it as such. -/
def v6Text (groups : List Nat) : String :=
  match groups with
  | [0, 0, 0, 0, 0, 0xFFFF, ab, cd] =>
    "::ffff:" ++ dottedText (ab / 256) (ab % 256) (cd / 256) (cd % 256)
  | _ =>
    let (start, length) := longestZeros groups
    if 1 < length then
      groupsText (groups.take start) ++ "::" ++ groupsText (groups.drop (start + length))
    else groupsText groups

def text : IpAddress → String
  | v4 a b c d => dottedText a b c d
  | v6 groups _ => v6Text groups

end IpAddress

def SocketAddress.text (a : SocketAddress) : String :=
  match a.ip with
  | .v4 .. => s!"{a.ip.text}:{a.port}"
  | .v6 _ zone =>
    let zoneText := if zone = 0 then "" else s!"%{zone}"
    s!"[{a.ip.text}{zoneText}]:{a.port}"

/-! ### Addresses of nodes -/

def splitLastColon? (s : String) : Option (String × String) :=
  let (after, rest) := s.toList.reverse.span (· ≠ ':')
  match rest with
  | ':' :: before => some (String.ofList before.reverse, String.ofList after.reverse)
  | _ => none

def port? (s : String) : Option Nat := unsigned? 65535 s.toList

/-- A host that is not empty, and a port that is a 16-bit number. -/
def isHostPort (s : String) : Bool :=
  match splitLastColon? s with
  | some (host, port) => host ≠ "" && (port? port).isSome
  | none => false

end SessionGateway.Text
