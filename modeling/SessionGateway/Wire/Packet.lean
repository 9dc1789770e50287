/-! Frames in memory. Three layouts share one scheme: a length, fixed header fields, a body that
nobody here interprets. Message ids 0 and 1 belong to the heartbeat in every layout. Numbers travel as
big-endian octets, and a signed one as its two's complement, so the fixed-width integer types supply the
sign and the octets the places. -/
namespace SessionGateway.Wire

/-! ### Octets -/

abbrev Octets := List UInt8

/-- The last `width` base-256 digits of `n`, most significant first. Higher digits are lost. -/
def bigEndian : (width : Nat) → (n : Nat) → Octets
  | 0, _ => []
  | width + 1, n => bigEndian width (n / 256) ++ [UInt8.ofNat n]

/-- The number whose base-256 digits, most significant first, are `bs`. -/
def ofBigEndian (bs : Octets) : Nat := bs.foldl (fun n b => n * 256 + b.toNat) 0

@[simp] theorem length_bigEndian (width n : Nat) : (bigEndian width n).length = width := by
  induction width generalizing n with
  | zero => rfl
  | succ width ih => simp [bigEndian, ih]

theorem ofBigEndian_append_singleton (bs : Octets) (b : UInt8) :
    ofBigEndian (bs ++ [b]) = ofBigEndian bs * 256 + b.toNat := by
  simp [ofBigEndian]

theorem ofBigEndian_bigEndian (width n : Nat) :
    ofBigEndian (bigEndian width n) = n % Nat.pow 256 width := by
  induction width generalizing n with
  | zero => exact (Nat.mod_one n).symm
  | succ width ih =>
    have places : Nat.pow 256 (width + 1) = 256 * Nat.pow 256 width := Nat.mul_comm ..
    rw [bigEndian, ofBigEndian_append_singleton, ih, places, Nat.mod_mul, UInt8.toNat_ofNat']
    omega

def int16Octets (x : Int16) : Octets := bigEndian 2 x.toUInt16.toNat
def int32Octets (x : Int32) : Octets := bigEndian 4 x.toUInt32.toNat
def int64Octets (x : Int64) : Octets := bigEndian 8 x.toUInt64.toNat

/-- The field of `width` octets at offset `start`, read as a number. -/
def field (bs : Octets) (start width : Nat) : Nat := ofBigEndian ((bs.drop start).take width)

def int16At (bs : Octets) (start : Nat) : Int16 := .ofNat (field bs start 2)
def int32At (bs : Octets) (start : Nat) : Int32 := .ofNat (field bs start 4)
def int64At (bs : Octets) (start : Nat) : Int64 := .ofNat (field bs start 8)

/-! ### Packets -/

/-- Who speaks on a link: a client to the gateway, the gateway to a game node, or a game node that
addresses roles and connections itself. -/
inductive Layout where
  | gateway
  | gatewayInternal
  | gameServer
  deriving DecidableEq, Repr

namespace Layout

def all : List Layout := [gateway, gatewayInternal, gameServer]

def name : Layout → String
  | gateway => "gateway"
  | gatewayInternal => "gateway_internal"
  | gameServer => "game_server"

def ofName? (s : String) : Option Layout := all.find? (·.name = s)

/-- Octets in front of the body, the four of the length included. -/
def headerLength : Layout → Nat
  | gateway => 12
  | gatewayInternal => 16
  | gameServer => 28

/-- The longest body of a frame of at most `limit` octets; none fits below the header. -/
def maxBodyLength (layout : Layout) (limit : Nat) : Nat := limit - layout.headerLength

end Layout

abbrev MessageId := Int32
abbrev SessionId := Int32

def heartbeatRequestId : MessageId := 0
def heartbeatResponseId : MessageId := 1

def isReserved (id : MessageId) : Bool := id == heartbeatRequestId || id == heartbeatResponseId

structure ClientPacket where
  msgId : MessageId
  seq : Int16
  magic : Int16
  body : Octets
  deriving DecidableEq, Repr

structure NodePacket where
  session : SessionId
  msgId : MessageId
  seq : Int32
  body : Octets
  deriving DecidableEq, Repr

structure ServerPacket where
  msgId : MessageId
  seq : Int16
  gateId : Int16
  roleId : Int64
  connectionId : Int64
  body : Octets
  deriving DecidableEq, Repr

/-- A client's request under the name of its session. The 16-bit sequence number is sign-extended,
so a node that echoes it lets the gateway narrow it again. -/
def ClientPacket.wrap (p : ClientPacket) (session : SessionId) : NodePacket :=
  { session, msgId := p.msgId, seq := p.seq.toInt32, body := p.body }

def NodePacket.unwrap (p : NodePacket) : ClientPacket :=
  { msgId := p.msgId, seq := p.seq.toInt16, magic := 0, body := p.body }

inductive Packet where
  | client (p : ClientPacket)
  | node (p : NodePacket)
  | server (p : ServerPacket)
  deriving DecidableEq, Repr

namespace Packet

def layout : Packet → Layout
  | client _ => .gateway
  | node _ => .gatewayInternal
  | server _ => .gameServer

def msgId : Packet → MessageId
  | client p => p.msgId
  | node p => p.msgId
  | server p => p.msgId

def body : Packet → Octets
  | client p => p.body
  | node p => p.body
  | server p => p.body

def encodedLength (p : Packet) : Nat := p.layout.headerLength + p.body.length

end Packet

end SessionGateway.Wire
