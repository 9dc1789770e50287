import SessionGateway.Wire.Framing

/-! One frame there and back. A packet that a link lets pass is read back from its octets, whatever
comes behind them, and nothing is read while its last octet is missing. -/
namespace SessionGateway.Wire

/-! ### Fields -/

@[simp] theorem length_int16Octets (x : Int16) : (int16Octets x).length = 2 := length_bigEndian 2 _

@[simp] theorem length_int32Octets (x : Int32) : (int32Octets x).length = 4 := length_bigEndian 4 _

@[simp] theorem length_int64Octets (x : Int64) : (int64Octets x).length = 8 := length_bigEndian 8 _

theorem field_skip {before : Octets} {start : Nat} (past : before.length ≤ start) (after : Octets)
    (width : Nat) : field (before ++ after) start width = field after (start - before.length) width := by
  rw [field, field, List.drop_append, List.drop_eq_nil_of_le past, List.nil_append]

theorem field_first (width n : Nat) (after : Octets) :
    field (bigEndian width n ++ after) 0 width = n % Nat.pow 256 width := by
  rw [field, List.drop_zero, List.take_left' (length_bigEndian width n), ofBigEndian_bigEndian]

theorem field_int16 (x : Int16) (after : Octets) :
    Int16.ofNat (field (int16Octets x ++ after) 0 2) = x := by
  have small : x.toUInt16.toNat < Nat.pow 256 2 := x.toUInt16.toNat_lt
  rw [int16Octets, field_first, Nat.mod_eq_of_lt small, ← UInt16.toInt16_ofNat',
    UInt16.ofNat_toNat, Int16.toInt16_toUInt16]

theorem field_int32 (x : Int32) (after : Octets) :
    Int32.ofNat (field (int32Octets x ++ after) 0 4) = x := by
  have small : x.toUInt32.toNat < Nat.pow 256 4 := x.toUInt32.toNat_lt
  rw [int32Octets, field_first, Nat.mod_eq_of_lt small, ← UInt32.toInt32_ofNat',
    UInt32.ofNat_toNat, Int32.toInt32_toUInt32]

theorem field_int64 (x : Int64) (after : Octets) :
    Int64.ofNat (field (int64Octets x ++ after) 0 8) = x := by
  have small : x.toUInt64.toNat < Nat.pow 256 8 := x.toUInt64.toNat_lt
  rw [int64Octets, field_first, Nat.mod_eq_of_lt small, ← UInt64.toInt64_ofNat',
    UInt64.ofNat_toNat, Int64.toInt64_toUInt64]

/-! ### Frames -/

@[simp] theorem layout_read (layout : Layout) (frame : Octets) : (layout.read frame).layout = layout := by
  cases layout <;> rfl

def Packet.octets (p : Packet) : Octets := bigEndian 4 p.encodedLength ++ p.fields ++ p.body

theorem Packet.length_octets (p : Packet) : p.octets.length = p.encodedLength := by
  have header := p.length_fields
  simp only [octets, encodedLength, List.length_append, length_bigEndian]
  omega

theorem drop_octets (p : Packet) : p.octets.drop p.layout.headerLength = p.body := by
  have header := p.length_fields
  exact List.drop_left' (by simp only [List.length_append, length_bigEndian]; omega)

theorem read_octets (p : Packet) : p.layout.read p.octets = p := by
  have body := drop_octets p
  cases p <;>
    simp (disch := simp) only [Packet.layout, Packet.octets, Packet.fields, Packet.body, Layout.read,
      Layout.headerLength, List.append_assoc, int16At, int32At, int64At, field_skip,
      length_bigEndian, length_int16Octets, length_int32Octets, length_int64Octets, Nat.reduceSub,
      field_int16, field_int32, field_int64] at body ⊢ <;>
    rw [body]

namespace Codec

variable {c : Codec} {p : Packet} {buffer rest : Octets} {e : FrameError}

/-! ### Writing -/

def Takes (c : Codec) (p : Packet) : Prop := p.layout = c.layout ∧ p.encodedLength ≤ c.limit

instance (c : Codec) (p : Packet) : Decidable (c.Takes p) := inferInstanceAs (Decidable (_ ∧ _))

def refusal (c : Codec) (p : Packet) : FrameError :=
  if p.layout = c.layout then .tooLarge p.encodedLength c.limit else .wrongLayout c.layout p.layout

theorem encode_eq (c : Codec) (p : Packet) :
    c.encode p = if c.Takes p then .ok p.octets else .error (c.refusal p) := by
  unfold encode refusal
  by_cases same : p.layout = c.layout
  · by_cases fits : p.encodedLength ≤ c.limit
    · have takes : c.Takes p := ⟨same, fits⟩
      rw [if_neg (not_not_intro same), if_neg (Nat.not_lt.mpr fits), if_pos takes]
      rfl
    · have refuses : ¬c.Takes p := fun takes => fits takes.2
      rw [if_neg (not_not_intro same), if_pos (Nat.lt_of_not_le fits), if_neg refuses, if_pos same]
  · have refuses : ¬c.Takes p := fun takes => same takes.1
    rw [if_pos same, if_neg refuses, if_neg same]

theorem encode_ok_iff : (∃ bytes, c.encode p = .ok bytes) ↔ c.Takes p := by
  rw [encode_eq]
  by_cases takes : c.Takes p <;> simp [takes]

theorem write_eq (c : Codec) (out : Octets) (p : Packet) :
    c.write out p = if c.Takes p then (out ++ p.octets, none) else (out, some (c.refusal p)) := by
  unfold write
  rw [encode_eq]
  by_cases takes : c.Takes p <;> simp [takes]

/-! ### Reading -/

/-- The length that a buffer of at least four octets announces for its first frame. -/
def announced (buffer : Octets) : Nat := ofBigEndian (buffer.take 4)

theorem announced_append (long : 4 ≤ buffer.length) (more : Octets) :
    announced (buffer ++ more) = announced buffer := by
  rw [announced, List.take_append_of_le_length long, announced]

theorem decode_short (c : Codec) (short : buffer.length < 4) : c.decode buffer = .incomplete := by
  unfold decode
  rw [if_pos (by rw [List.length_take]; omega)]

theorem decode_long (c : Codec) (long : 4 ≤ buffer.length) : c.decode buffer =
    if c.limit < announced buffer then .refused (.tooLarge (announced buffer) c.limit)
    else if announced buffer < c.layout.headerLength then
      .refused (.tooShort (announced buffer) c.layout.headerLength)
    else if buffer.length < announced buffer then .incomplete
    else .packet (c.layout.read (buffer.take (announced buffer))) (buffer.drop (announced buffer)) := by
  unfold decode announced
  have whole : ¬buffer.length < 4 := Nat.not_lt.mpr long
  have cut (n : Nat) : (buffer.take n).length < n ↔ buffer.length < n := by
    rw [List.length_take]
    omega
  simp only [cut, if_neg whole]

theorem four_le_of_decode (complete : c.decode buffer ≠ .incomplete) : 4 ≤ buffer.length :=
  Nat.le_of_not_lt fun short => complete (c.decode_short short)

theorem decode_packet_iff : c.decode buffer = .packet p rest ↔
    4 ≤ buffer.length ∧ announced buffer ≤ c.limit ∧ c.layout.headerLength ≤ announced buffer ∧
      announced buffer ≤ buffer.length ∧
      p = c.layout.read (buffer.take (announced buffer)) ∧ rest = buffer.drop (announced buffer) := by
  constructor
  · intro decoded
    have long : 4 ≤ buffer.length := four_le_of_decode (c := c) (by simp [decoded])
    rw [decode_long c long] at decoded
    split at decoded
    · cases decoded
    rename_i fits
    split at decoded
    · cases decoded
    rename_i header
    split at decoded
    · cases decoded
    rename_i whole
    cases decoded
    exact ⟨long, Nat.le_of_not_lt fits, Nat.le_of_not_lt header, Nat.le_of_not_lt whole, rfl, rfl⟩
  · rintro ⟨long, fits, header, whole, rfl, rfl⟩
    rw [decode_long c long, if_neg (Nat.not_lt.mpr fits), if_neg (Nat.not_lt.mpr header),
      if_neg (Nat.not_lt.mpr whole)]

theorem layout_of_decode (decoded : c.decode buffer = .packet p rest) : p.layout = c.layout := by
  obtain ⟨_, _, _, _, rfl, _⟩ := decode_packet_iff.mp decoded
  exact layout_read c.layout _

theorem decode_append_of_packet (decoded : c.decode buffer = .packet p rest) (more : Octets) :
    c.decode (buffer ++ more) = .packet p (rest ++ more) := by
  obtain ⟨long, fits, header, whole, rfl, rfl⟩ := decode_packet_iff.mp decoded
  rw [decode_packet_iff, announced_append long, List.take_append_of_le_length whole,
    List.drop_append_of_le_length whole, List.length_append]
  exact ⟨by omega, fits, header, by omega, rfl, rfl⟩

theorem decode_append_of_refused (decoded : c.decode buffer = .refused e) (more : Octets) :
    c.decode (buffer ++ more) = .refused e := by
  have long : 4 ≤ buffer.length := four_le_of_decode (c := c) (by simp [decoded])
  rw [decode_long c (by rw [List.length_append]; omega), announced_append long]
  rw [decode_long c long] at decoded
  split at decoded
  · rename_i exceeds
    rw [if_pos exceeds, decoded]
  rename_i fits
  split at decoded
  · rename_i header
    rw [if_neg fits, if_pos header, decoded]
  split at decoded <;> cases decoded

theorem announced_octets (representable : p.encodedLength < 4294967296) (more : Octets) :
    announced (p.octets ++ more) = p.encodedLength := by
  rw [announced, Packet.octets, List.append_assoc, List.append_assoc,
    List.take_left' (length_bigEndian 4 _), ofBigEndian_bigEndian]
  exact Nat.mod_eq_of_lt representable

theorem header_le_encodedLength (p : Packet) : p.layout.headerLength ≤ p.encodedLength :=
  Nat.le_add_right _ _

theorem decode_octets (takes : c.Takes p) (representable : p.encodedLength < 4294967296)
    (rest : Octets) : c.decode (p.octets ++ rest) = .packet p rest := by
  have length := p.length_octets
  have header := header_le_encodedLength p
  have four : 4 ≤ p.layout.headerLength := by cases p <;> simp [Packet.layout, Layout.headerLength]
  rw [decode_packet_iff, announced_octets representable, List.length_append,
    List.take_left' length, List.drop_left' length, ← takes.1, read_octets]
  exact ⟨by omega, takes.2, header, by omega, rfl, rfl⟩

theorem decode_part (takes : c.Takes p) (representable : p.encodedLength < 4294967296) {part : Octets}
    (inside : part <+: p.octets) (missing : part.length < p.encodedLength) :
    c.decode part = .incomplete := by
  by_cases short : part.length < 4
  · exact c.decode_short short
  · obtain ⟨later, split⟩ := inside
    have long : 4 ≤ part.length := Nat.le_of_not_lt short
    have length : announced part = p.encodedLength := by
      rw [← announced_append long later, split]
      simpa using announced_octets representable []
    have header := header_le_encodedLength p
    rw [decode_long c long, length, if_neg (Nat.not_lt.mpr takes.2),
      if_neg (by rw [← takes.1]; omega), if_pos missing]

end Codec

end SessionGateway.Wire
