import SessionGateway.Proofs.Wire.Chunks

/-! The grammar of frames, read from the octets alone. Any octets are a frame when the number in front
lies between the header and the limit and so many octets are there. Nothing else about them is judged,
and writing the packet again gives the octets that it was read from. -/
namespace SessionGateway.Wire.Codec

variable {c : Codec} {p : Packet} {buffer rest : Octets}

/-- What a buffer must hold in front to be decoded on a link. -/
structure Opens (c : Codec) (buffer : Octets) : Prop where
  lengthField : 4 ≤ buffer.length
  header : c.layout.headerLength ≤ announced buffer
  limit : announced buffer ≤ c.limit
  whole : announced buffer ≤ buffer.length

theorem decode_opens (opens : c.Opens buffer) : c.decode buffer =
    .packet (c.layout.read (buffer.take (announced buffer))) (buffer.drop (announced buffer)) :=
  decode_packet_iff.mpr ⟨opens.lengthField, opens.limit, opens.header, opens.whole, rfl, rfl⟩

theorem opens_of_decode (decoded : c.decode buffer = .packet p rest) : c.Opens buffer := by
  obtain ⟨long, limit, header, whole, _, _⟩ := decode_packet_iff.mp decoded
  exact ⟨long, header, limit, whole⟩

theorem decode_packet_iff_opens : (∃ p rest, c.decode buffer = .packet p rest) ↔ c.Opens buffer := by
  constructor
  · rintro ⟨p, rest, decoded⟩
    exact opens_of_decode decoded
  · intro opens
    exact ⟨_, _, decode_opens opens⟩

theorem octets_of_decode (decoded : c.decode buffer = .packet p rest) :
    p.octets = buffer.take (announced buffer) ∧ rest = buffer.drop (announced buffer) := by
  obtain ⟨_, representable, front⟩ := decode_packet_iff_octets.mp decoded
  have length : announced buffer = p.octets.length := by
    rw [front, announced_octets representable, Packet.length_octets]
  constructor
  · rw [length, front, List.take_left]
  · rw [length, front, List.drop_left]

theorem encode_of_decode (decoded : c.decode buffer = .packet p rest) :
    c.encode p = .ok (buffer.take (announced buffer)) := by
  obtain ⟨takes, _, _⟩ := decode_packet_iff_octets.mp decoded
  rw [encode_eq, if_pos takes, (octets_of_decode decoded).1]

theorem decode_tooLarge_iff : c.decode buffer = .refused (.tooLarge (announced buffer) c.limit) ↔
    4 ≤ buffer.length ∧ c.limit < announced buffer := by
  rw [decode_refused_iff]
  constructor
  · rintro ⟨long, ⟨exceeds, _⟩ | ⟨_, _, other⟩⟩
    · exact ⟨long, exceeds⟩
    · cases other
  · rintro ⟨long, exceeds⟩
    exact ⟨long, Or.inl ⟨exceeds, rfl⟩⟩

theorem decode_tooShort_iff :
    c.decode buffer = .refused (.tooShort (announced buffer) c.layout.headerLength) ↔
      4 ≤ buffer.length ∧ announced buffer ≤ c.limit ∧ announced buffer < c.layout.headerLength := by
  rw [decode_refused_iff]
  constructor
  · rintro ⟨long, ⟨_, other⟩ | ⟨fits, short, _⟩⟩
    · cases other
    · exact ⟨long, fits, short⟩
  · rintro ⟨long, fits, short⟩
    exact ⟨long, Or.inr ⟨fits, short, rfl⟩⟩

theorem decode_incomplete_iff : c.decode buffer = .incomplete ↔ buffer.length < 4 ∨
    c.layout.headerLength ≤ announced buffer ∧ announced buffer ≤ c.limit ∧
      buffer.length < announced buffer := by
  by_cases short : buffer.length < 4
  · simp only [decode_short c short, short, true_or]
  · rw [decode_long c (Nat.le_of_not_lt short)]
    split
    · simp only [reduceCtorEq, false_iff]
      omega
    split
    · simp only [reduceCtorEq, false_iff]
      omega
    split
    · simp only [true_iff]
      omega
    · simp only [reduceCtorEq, false_iff]
      omega

/-- On every link, any octets are decoded exactly when the number in their first four lies between the
header and the limit and so many octets are there. Then just these octets are taken, and the packet that
they give is written on the same link as the same octets. A number over the limit is refused as too
large, another one under the header as too short, nothing else is refused, and what is neither decoded
nor refused asks for more. -/
theorem decode_grammar (c : Codec) (buffer : Octets) :
    let length := ofBigEndian (buffer.take 4)
    ((∃ p rest, c.decode buffer = .packet p rest) ↔ 4 ≤ buffer.length ∧
      c.layout.headerLength ≤ length ∧ length ≤ c.limit ∧ length ≤ buffer.length) ∧
    (∀ p rest, c.decode buffer = .packet p rest → rest = buffer.drop length ∧
      c.encode p = .ok (buffer.take length) ∧
      ∀ out, c.write out p = (out ++ buffer.take length, none)) ∧
    (c.decode buffer = .refused (.tooLarge length c.limit) ↔
      4 ≤ buffer.length ∧ c.limit < length) ∧
    (c.decode buffer = .refused (.tooShort length c.layout.headerLength) ↔
      4 ≤ buffer.length ∧ length ≤ c.limit ∧ length < c.layout.headerLength) ∧
    (∀ e, c.decode buffer = .refused e →
      e = .tooLarge length c.limit ∨ e = .tooShort length c.layout.headerLength) ∧
    (c.decode buffer = .incomplete ↔ buffer.length < 4 ∨
      c.layout.headerLength ≤ length ∧ length ≤ c.limit ∧ buffer.length < length) := by
  intro length
  refine ⟨?accepted, ?again, decode_tooLarge_iff, decode_tooShort_iff, ?refused, decode_incomplete_iff⟩
  case accepted =>
    rw [decode_packet_iff_opens]
    constructor
    · rintro ⟨long, header, limit, whole⟩
      exact ⟨long, header, limit, whole⟩
    · rintro ⟨long, header, limit, whole⟩
      exact ⟨long, header, limit, whole⟩
  case again =>
    intro p rest decoded
    have encoded : c.encode p = .ok (buffer.take length) := encode_of_decode decoded
    refine ⟨(octets_of_decode decoded).2, encoded, ?_⟩
    intro out
    rw [write, encoded]
  case refused =>
    intro e refused
    obtain ⟨_, ⟨_, large⟩ | ⟨_, _, short⟩⟩ := decode_refused_iff.mp refused
    · exact Or.inl large
    · exact Or.inr short

/-- Fields with every bit set are read as -1 and written again with every bit set. -/
example : let frame : Octets := [0, 0, 0, 13, 255, 255, 255, 255, 255, 255, 255, 255, 7]
    let p : Packet := .client { msgId := -1, seq := -1, magic := -1, body := [7] }
    decode ⟨.gateway, 13⟩ (frame ++ [1, 2]) = .packet p [1, 2] ∧ encode ⟨.gateway, 13⟩ p = .ok frame := by
  decide

end SessionGateway.Wire.Codec
