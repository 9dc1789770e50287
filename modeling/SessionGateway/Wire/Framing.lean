import SessionGateway.Wire.Packet

/-! Length-prefixed framing. A frame is a four-octet length that counts the whole frame, the header
fields of its layout, and the body. Decoding never surfaces part of a frame and never reads past the
frame whose length it has checked; a refused length leaves the buffer as it was. -/
namespace SessionGateway.Wire

def defaultLimit : Nat := 1048576

inductive FrameError where
  | tooLarge (length limit : Nat)
  | tooShort (length header : Nat)
  | wrongLayout (link packet : Layout)
  /-- The stream ended inside a frame. -/
  | truncated
  deriving DecidableEq, Repr

def FrameError.message : FrameError → String
  | tooLarge length limit => s!"frame of {length} bytes exceeds maximum of {limit} bytes"
  | tooShort length header => s!"frame of {length} bytes is shorter than the {header}-byte header"
  | wrongLayout link packet => s!"cannot encode {packet.name} packet on a {link.name} link"
  | truncated => "I/O error: bytes remaining on stream"

def Packet.fields : Packet → Octets
  | .client p => int32Octets p.msgId ++ int16Octets p.seq ++ int16Octets p.magic
  | .node p => int32Octets p.session ++ int32Octets p.msgId ++ int32Octets p.seq
  | .server p =>
    int32Octets p.msgId ++ int16Octets p.seq ++ int16Octets p.gateId ++ int64Octets p.roleId ++
      int64Octets p.connectionId

theorem Packet.length_fields (p : Packet) : p.fields.length + 4 = p.layout.headerLength := by
  cases p <;> simp [fields, layout, Layout.headerLength, int16Octets, int32Octets, int64Octets]

def Layout.read (frame : Octets) : Layout → Packet
  | gateway => .client
    { msgId := int32At frame 4, seq := int16At frame 8, magic := int16At frame 10,
      body := frame.drop 12 }
  | gatewayInternal => .node
    { session := int32At frame 4, msgId := int32At frame 8, seq := int32At frame 12,
      body := frame.drop 16 }
  | gameServer => .server
    { msgId := int32At frame 4, seq := int16At frame 8, gateId := int16At frame 10,
      roleId := int64At frame 12, connectionId := int64At frame 20, body := frame.drop 28 }

/-- One side of a link: the layout it speaks and the longest frame it lets pass. -/
structure Codec where
  layout : Layout
  limit : Nat
  deriving DecidableEq, Repr

namespace Codec

/-- The octets of a frame. The length field has four places, whatever the limit. -/
def encode (c : Codec) (p : Packet) : Except FrameError Octets :=
  if p.layout ≠ c.layout then .error (.wrongLayout c.layout p.layout)
  else if c.limit < p.encodedLength then .error (.tooLarge p.encodedLength c.limit)
  else .ok (bigEndian 4 p.encodedLength ++ p.fields ++ p.body)

/-- The part of a frame that stands in front of a body of `room` octets. Of the body only its length
matters here, so this can be run where the body is too long to be laid out. -/
def front (c : Codec) (p : Packet) (room : Nat) : Except FrameError Octets :=
  let length := p.layout.headerLength + room
  if p.layout ≠ c.layout then .error (.wrongLayout c.layout p.layout)
  else if c.limit < length then .error (.tooLarge length c.limit)
  else .ok (bigEndian 4 length ++ p.fields)

theorem encode_eq_front (c : Codec) (p : Packet) :
    c.encode p = (c.front p p.body.length).map (· ++ p.body) := by
  rw [encode, front, Packet.encodedLength, apply_ite (Except.map _), apply_ite (Except.map _)]
  rfl

/-- Appends a frame to an output buffer, or leaves the buffer alone. -/
def write (c : Codec) (out : Octets) (p : Packet) : Octets × Option FrameError :=
  match c.encode p with
  | .ok bs => (out ++ bs, none)
  | .error e => (out, some e)

inductive Decoded where
  /-- More octets are needed. -/
  | incomplete
  | refused (e : FrameError)
  | packet (p : Packet) (rest : Octets)
  deriving DecidableEq, Repr

/-- The first frame of a buffer. Its length is judged as soon as its four octets are there. -/
def decode (c : Codec) (buffer : Octets) : Decoded :=
  let lengthField := buffer.take 4
  if lengthField.length < 4 then .incomplete
  else
    let length := ofBigEndian lengthField
    if c.limit < length then .refused (.tooLarge length c.limit)
    else if length < c.layout.headerLength then .refused (.tooShort length c.layout.headerLength)
    else
      let frame := buffer.take length
      if frame.length < length then .incomplete
      else .packet (c.layout.read frame) (buffer.drop length)

theorem length_rest_lt {c : Codec} {buffer rest : Octets} {p : Packet}
    (h : c.decode buffer = .packet p rest) : rest.length < buffer.length := by
  have header : 12 ≤ c.layout.headerLength := by cases c.layout <;> decide
  unfold decode at h
  simp only [List.length_take] at h
  split at h <;> try contradiction
  split at h <;> try contradiction
  split at h <;> try contradiction
  split at h <;> try contradiction
  cases h
  simp only [List.length_drop]
  omega

/-- What is left of a buffer at the end of the stream must be nothing. -/
def decodeEnd (c : Codec) (buffer : Octets) : Decoded :=
  match c.decode buffer with
  | .incomplete => if buffer.isEmpty then .incomplete else .refused .truncated
  | d => d

/-- The outcome of decoding until no further frame comes. -/
structure Drained where
  packets : List Packet
  rest : Octets
  error : Option FrameError
  deriving DecidableEq, Repr

def drain (c : Codec) (buffer : Octets) : Drained :=
  match h : c.decode buffer with
  | .incomplete => ⟨[], buffer, none⟩
  | .refused e => ⟨[], buffer, some e⟩
  | .packet p rest =>
    have := length_rest_lt h
    let later := c.drain rest
    { later with packets := p :: later.packets }
termination_by buffer.length

/-- A further chunk arrives. After an error nothing is decoded any more. -/
def feed (c : Codec) (d : Drained) (chunk : Octets) : Drained :=
  match d.error with
  | some _ => { d with rest := d.rest ++ chunk }
  | none =>
    let more := c.drain (d.rest ++ chunk)
    { more with packets := d.packets ++ more.packets }

def drainChunks (c : Codec) (chunks : List Octets) : Drained :=
  chunks.foldl c.feed ⟨[], [], none⟩

end Codec

end SessionGateway.Wire
