import SessionGateway.Proofs.Configuration.Validity
import SessionGateway.Proofs.Wire.Grammar

/-! How far the length field can be trusted. It has four octets, and a limit is accepted however large
it is. A frame of 4294967296 octets or more that the limit lets pass announces only what is left of its
length modulo that number, so that the receiver cuts the stream inside the frame. -/
namespace SessionGateway.Wire

open SessionGateway.Configuration

/-! ### Limits -/

theorem valid_of_limit {s : Settings} (accepted : s.Valid) {limit : Nat} (least : leastFrameLimit ≤ limit) :
    Settings.Valid { s with server := { s.server with frameLimit := limit } } := by
  have sound := Settings.valid_iff_sound.mp accepted
  exact Settings.valid_iff_sound.mpr { sound with frameLimit := least }

namespace Codec

variable {c : Codec} {p : Packet} {bytes : Octets}

/-! ### What a frame announces -/

theorem announced_front {room : Nat} {lead : Octets} (written : c.front p room = .ok lead) (body : Octets) :
    announced (lead ++ body) = (p.layout.headerLength + room) % 4294967296 := by
  dsimp only [front] at written
  split at written
  · cases written
  split at written
  · cases written
  cases written
  rw [announced, List.append_assoc, List.take_left' (length_bigEndian 4 _), ofBigEndian_bigEndian]

theorem announced_encode (written : c.encode p = .ok bytes) :
    announced bytes = p.encodedLength % 4294967296 := by
  rw [encode_eq_front] at written
  cases front : c.front p p.body.length with
  | error e =>
    rw [front] at written
    cases written
  | ok lead =>
    rw [front] at written
    cases written
    exact announced_front front p.body

theorem octets_of_encode (written : c.encode p = .ok bytes) : c.Takes p ∧ bytes = p.octets := by
  have takes : c.Takes p := encode_ok_iff.mp ⟨bytes, written⟩
  rw [encode_eq, if_pos takes] at written
  exact ⟨takes, (Except.ok.inj written).symm⟩

theorem length_encode (written : c.encode p = .ok bytes) : bytes.length = p.encodedLength := by
  rw [(octets_of_encode written).2, Packet.length_octets]

theorem decode_encode_iff (written : c.encode p = .ok bytes) (rest : Octets) :
    c.decode (bytes ++ rest) = .packet p rest ↔ bytes.length < 4294967296 := by
  obtain ⟨takes, rfl⟩ := octets_of_encode written
  rw [decode_packet_iff_octets, Packet.length_octets]
  constructor
  · exact fun decoded => decoded.2.1
  · exact fun representable => ⟨takes, representable, rfl⟩

/-- Of a longer frame the receiver refuses what is left of the length, or takes that many octets for
the whole frame and reads on in the middle of the body. -/
theorem decode_overlong (written : c.encode p = .ok bytes) (long : 4294967296 ≤ bytes.length)
    (rest : Octets) :
    let left := bytes.length % 4294967296
    c.decode (bytes ++ rest) =
      if left < c.layout.headerLength then .refused (.tooShort left c.layout.headerLength)
      else .packet (c.layout.read (bytes.take left)) (bytes.drop left ++ rest) := by
  intro left
  have small : left < 4294967296 := Nat.mod_lt _ (by decide)
  have announces : announced (bytes ++ rest) = left := by
    rw [announced_append (Nat.le_trans (by decide) long), announced_encode written,
      ← length_encode written]
  have fits : ¬c.limit < left := by
    have limit := (octets_of_encode written).1.2
    rw [← length_encode written] at limit
    omega
  have whole : ¬(bytes ++ rest).length < left := by
    rw [List.length_append]
    omega
  rw [decode_long c (by rw [List.length_append]; omega), announces, if_neg fits, if_neg whole,
    List.take_append_of_le_length (by omega), List.drop_append_of_le_length (by omega)]

/-! ### Limits under which every frame is right -/

theorem encodedLength_read (layout : Layout) {frame : Octets}
    (header : layout.headerLength ≤ frame.length) : (layout.read frame).encodedLength = frame.length := by
  rw [Packet.encodedLength, layout_read, body_read, List.length_drop]
  omega

/-- A packet whose frame is one octet longer than four places can say. -/
def overlong (layout : Layout) : Packet := layout.read (List.replicate 4294967296 0)

theorem encodedLength_overlong (layout : Layout) : (overlong layout).encodedLength = 4294967296 := by
  have header : layout.headerLength ≤ 4294967296 := by cases layout <;> decide
  rw [overlong, encodedLength_read layout (by rw [List.length_replicate]; exact header),
    List.length_replicate]

theorem encode_overlong (layout : Layout) {limit : Nat} (room : 4294967296 ≤ limit) :
    encode ⟨layout, limit⟩ (overlong layout) = .ok (overlong layout).octets := by
  have takes : Takes ⟨layout, limit⟩ (overlong layout) :=
    ⟨layout_read layout _, Nat.le_trans (Nat.le_of_eq (encodedLength_overlong layout)) room⟩
  rw [encode_eq, if_pos takes]

theorem always_right_iff (layout : Layout) (limit : Nat) :
    (∀ p bytes, encode ⟨layout, limit⟩ p = .ok bytes → announced bytes = bytes.length) ↔
      limit < 4294967296 := by
  constructor
  · intro right
    by_contra room
    have written := encode_overlong layout (Nat.le_of_not_lt room)
    have same := right _ _ written
    rw [announced_encode written, length_encode written, encodedLength_overlong] at same
    exact absurd same (by decide)
  · intro narrow p bytes written
    have fits : p.encodedLength ≤ limit := (octets_of_encode written).1.2
    rw [announced_encode written, length_encode written]
    exact Nat.mod_eq_of_lt (Nat.lt_of_le_of_lt fits narrow)

/-- Under any settings that are accepted, a frame that is written is as long as its packet asks, and its
length field holds that length modulo 4294967296. So the field is right, and the receiver cuts the
stream behind the frame, exactly for frames that are shorter than this number; a longer one is refused
or cut inside. All frames are right just for limits below it, and settings stay acceptable under every
limit from the least one on. -/
theorem length_field_right_iff {s : Settings} (accepted : s.Valid) (layout : Layout) :
    let c : Codec := ⟨layout, s.server.frameLimit⟩
    (∀ p bytes, c.encode p = .ok bytes →
      bytes.length = p.encodedLength ∧
      ofBigEndian (bytes.take 4) = bytes.length % 4294967296 ∧
      (ofBigEndian (bytes.take 4) = bytes.length ↔ bytes.length < 4294967296) ∧
      ∀ rest, (c.decode (bytes ++ rest) = .packet p rest ↔ bytes.length < 4294967296) ∧
        (4294967296 ≤ bytes.length →
          let left := bytes.length % 4294967296
          c.decode (bytes ++ rest) =
            if left < layout.headerLength then .refused (.tooShort left layout.headerLength)
            else .packet (layout.read (bytes.take left)) (bytes.drop left ++ rest))) ∧
    ((∀ p bytes, c.encode p = .ok bytes → ofBigEndian (bytes.take 4) = bytes.length) ↔
      s.server.frameLimit < 4294967296) ∧
    ∀ limit, leastFrameLimit ≤ limit →
      Settings.Valid { s with server := { s.server with frameLimit := limit } } := by
  intro c
  refine ⟨?frame, always_right_iff layout _, fun limit least => valid_of_limit accepted least⟩
  case frame =>
    intro p bytes written
    have length := length_encode written
    have announces : ofBigEndian (bytes.take 4) = bytes.length % 4294967296 := by
      rw [length]
      exact announced_encode written
    refine ⟨length, announces, ?_, fun rest => ⟨decode_encode_iff written rest, ?_⟩⟩
    · rw [announces]
      exact Nat.mod_eq_iff_lt (by decide)
    · intro long
      exact decode_overlong written long rest

namespace Roomy

/-! A limit of one octet more than the length field can say. -/

def settings : Settings := { server.frameLimit := 4294967296 }

theorem settings_valid : settings.Valid := by decide

def request (room : Nat) : Packet := .client { msgId := 2, seq := 0, magic := 0, body := List.replicate room 0 }

theorem length_request (room : Nat) : (request room).encodedLength = 12 + room := by
  rw [Packet.encodedLength, request, Packet.body, List.length_replicate]
  rfl

theorem encode_request {room : Nat} (fits : 12 + room ≤ settings.server.frameLimit) :
    ∃ bytes, encode ⟨.gateway, settings.server.frameLimit⟩ (request room) = .ok bytes := by
  apply encode_ok_iff.mpr
  constructor
  · rfl
  · rw [length_request]
    exact fits

end Roomy

/-- A frame of 4294967296 octets announces none at all, and the receiver refuses it. -/
theorem roomy_request_refused : Roomy.settings.Valid ∧
    ∃ bytes, encode ⟨.gateway, Roomy.settings.server.frameLimit⟩ (Roomy.request 4294967284) = .ok bytes ∧
      bytes.length = 4294967296 ∧ ofBigEndian (bytes.take 4) = 0 ∧
      decode ⟨.gateway, Roomy.settings.server.frameLimit⟩ bytes = .refused (.tooShort 0 12) := by
  have fits : 12 + 4294967284 ≤ Roomy.settings.server.frameLimit := by decide
  obtain ⟨bytes, written⟩ := Roomy.encode_request fits
  obtain ⟨length, announces, _, received⟩ :=
    (length_field_right_iff Roomy.settings_valid .gateway).1 _ _ written
  rw [Roomy.length_request] at length
  have refused := (received []).2 (Nat.le_of_eq length.symm)
  rw [length, List.append_nil] at refused
  rw [length] at announces
  exact ⟨Roomy.settings_valid, bytes, written, length, announces, refused⟩

/-- What is written under accepted settings does not always say how long it is. -/
theorem length_field_not_always_right : ¬∀ s : Settings, s.Valid → ∀ layout p bytes,
    encode ⟨layout, s.server.frameLimit⟩ p = .ok bytes → ofBigEndian (bytes.take 4) = bytes.length := by
  intro claim
  have fits : 12 + 4294967284 ≤ Roomy.settings.server.frameLimit := by decide
  obtain ⟨bytes, written⟩ := Roomy.encode_request fits
  have same := claim Roomy.settings Roomy.settings_valid .gateway _ bytes written
  have announces := announced_encode written
  rw [Roomy.length_request] at announces
  rw [length_encode written, Roomy.length_request] at same
  exact absurd (announces.symm.trans same) (by decide)

end Codec

end SessionGateway.Wire
