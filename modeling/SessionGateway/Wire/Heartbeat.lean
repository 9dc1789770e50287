import SessionGateway.Wire.Packet

/-! Heartbeat frames. A request carries its sender's clock; the response carries the responder's
clock and then the sender's, so the sender can tell the round trip from its own clock alone. -/
namespace SessionGateway.Wire.Heartbeat

abbrev WallClock := Int64

def request (layout : Layout) (now : WallClock) : Packet :=
  let body := int64Octets now
  match layout with
  | .gateway => .client { msgId := heartbeatRequestId, seq := 0, magic := 0, body }
  | .gatewayInternal => .node { session := 0, msgId := heartbeatRequestId, seq := 0, body }
  | .gameServer =>
    .server { msgId := heartbeatRequestId, seq := 0, gateId := 0, roleId := 0, connectionId := 0, body }

@[simp] theorem request_msgId (layout : Layout) (now : WallClock) :
    (request layout now).msgId = heartbeatRequestId := by
  cases layout <;> rfl

@[simp] theorem request_layout (layout : Layout) (now : WallClock) :
    (request layout now).layout = layout := by
  cases layout <;> rfl

theorem encodedLength_request (layout : Layout) (now : WallClock) :
    (request layout now).encodedLength = layout.headerLength + 8 := by
  have body : (int64Octets now).length = 8 := length_bigEndian 8 _
  cases layout <;> simp [request, Packet.encodedLength, Packet.layout, Packet.body, body]

/-- The clock that a request reports; zero if its body is too short to hold one. -/
def senderClock (p : Packet) : WallClock := if p.body.length < 8 then 0 else int64At p.body 0

/-- The answer keeps the layout and every header field of the request but its message id. -/
def response (asked : Packet) (now : WallClock) : Packet :=
  let body := int64Octets now ++ int64Octets (senderClock asked)
  match asked with
  | .client p => .client { p with msgId := heartbeatResponseId, body }
  | .node p => .node { p with msgId := heartbeatResponseId, body }
  | .server p => .server { p with msgId := heartbeatResponseId, body }

@[simp] theorem response_msgId (asked : Packet) (now : WallClock) :
    (response asked now).msgId = heartbeatResponseId := by
  cases asked <;> rfl

@[simp] theorem response_layout (asked : Packet) (now : WallClock) :
    (response asked now).layout = asked.layout := by
  cases asked <;> rfl

theorem encodedLength_response (asked : Packet) (now : WallClock) :
    (response asked now).encodedLength = asked.layout.headerLength + 16 := by
  have clock (c : WallClock) : (int64Octets c).length = 8 := length_bigEndian 8 _
  cases asked <;> simp [response, Packet.encodedLength, Packet.layout, Packet.body, clock]

def isRequest (p : Packet) : Bool := p.msgId == heartbeatRequestId
def isResponse (p : Packet) : Bool := p.msgId == heartbeatResponseId

/-- The time since the echoed clock. A body without both clocks, or an echo that is not positive,
tells nothing. -/
def latency (p : Packet) (now : WallClock) : Option Int64 :=
  if p.body.length < 16 then none
  else
    let echoed := int64At p.body 8
    if 0 < echoed then some (now - echoed) else none

end SessionGateway.Wire.Heartbeat
