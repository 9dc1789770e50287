import SessionGateway.Proofs.Wire.Streams
import Mathlib.Data.List.Induction

/-! Streams of any octets, frames or not. What a decoder takes off a stream is whole frames, octet for
octet, and where it stops does not depend on how the stream was cut: it stops at the first length field
that it refuses, or at a frame whose end has not come. -/
namespace SessionGateway.Wire

/-! ### Numbers -/

theorem ofBigEndian_lt (bs : Octets) : ofBigEndian bs < Nat.pow 256 bs.length := by
  induction bs using List.reverseRecOn with
  | nil => decide
  | append_singleton bs b ih =>
    have places : Nat.pow 256 (bs.length + 1) = Nat.pow 256 bs.length * 256 := rfl
    have digit := b.toNat_lt
    rw [ofBigEndian_append_singleton, List.length_append, List.length_singleton, places]
    omega

theorem bigEndian_ofBigEndian (bs : Octets) : bigEndian bs.length (ofBigEndian bs) = bs := by
  induction bs using List.reverseRecOn with
  | nil => rfl
  | append_singleton bs b ih =>
    have digit := b.toNat_lt
    have upper : (ofBigEndian bs * 256 + b.toNat) / 256 = ofBigEndian bs := by omega
    have lower : UInt8.ofNat (ofBigEndian bs * 256 + b.toNat) = b := by
      apply UInt8.toNat_inj.mp
      rw [UInt8.toNat_ofNat']
      omega
    rw [List.length_append, List.length_singleton, ofBigEndian_append_singleton, bigEndian, upper,
      lower, ih]

theorem bigEndian_field {bs : Octets} {start width : Nat} (inside : start + width ≤ bs.length) :
    bigEndian width (field bs start width) = (bs.drop start).take width ∧
      field bs start width < Nat.pow 256 width := by
  have wide : ((bs.drop start).take width).length = width := by
    rw [List.length_take, List.length_drop]
    omega
  have back := bigEndian_ofBigEndian ((bs.drop start).take width)
  have bound := ofBigEndian_lt ((bs.drop start).take width)
  rw [wide] at back bound
  exact ⟨back, bound⟩

theorem int16Octets_int16At {bs : Octets} {start : Nat} (inside : start + 2 ≤ bs.length) :
    int16Octets (int16At bs start) = (bs.drop start).take 2 := by
  obtain ⟨back, bound⟩ := bigEndian_field inside
  have small : (int16At bs start).toUInt16.toNat = field bs start 2 := Nat.mod_eq_of_lt bound
  rw [int16Octets, small, back]

theorem int32Octets_int32At {bs : Octets} {start : Nat} (inside : start + 4 ≤ bs.length) :
    int32Octets (int32At bs start) = (bs.drop start).take 4 := by
  obtain ⟨back, bound⟩ := bigEndian_field inside
  have small : (int32At bs start).toUInt32.toNat = field bs start 4 := Nat.mod_eq_of_lt bound
  rw [int32Octets, small, back]

theorem int64Octets_int64At {bs : Octets} {start : Nat} (inside : start + 8 ≤ bs.length) :
    int64Octets (int64At bs start) = (bs.drop start).take 8 := by
  obtain ⟨back, bound⟩ := bigEndian_field inside
  have small : (int64At bs start).toUInt64.toNat = field bs start 8 := Nat.mod_eq_of_lt bound
  rw [int64Octets, small, back]

/-! ### Frames -/

theorem take_append_drop_next (bs : Octets) {start width next : Nat} (follows : start + width = next) :
    (bs.drop start).take width ++ bs.drop next = bs.drop start := by
  rw [← follows, ← List.drop_drop, List.take_append_drop]

theorem body_read (layout : Layout) (frame : Octets) :
    (layout.read frame).body = frame.drop layout.headerLength := by
  cases layout <;> rfl

theorem fields_read (layout : Layout) {frame : Octets} (header : layout.headerLength ≤ frame.length) :
    (layout.read frame).fields ++ (layout.read frame).body = frame.drop 4 := by
  cases layout <;>
    simp only [Layout.headerLength] at header <;>
    simp (disch := omega) only [Layout.read, Packet.fields, Packet.body, int16Octets_int16At,
      int32Octets_int32At, int64Octets_int64At, List.append_assoc,
      take_append_drop_next]

theorem octets_read (layout : Layout) {frame : Octets} (header : layout.headerLength ≤ frame.length)
    (whole : Codec.announced frame = frame.length) : (layout.read frame).octets = frame := by
  have four : 4 ≤ layout.headerLength := by cases layout <;> simp [Layout.headerLength]
  have length : (layout.read frame).encodedLength = Codec.announced frame := by
    rw [Packet.encodedLength, layout_read, body_read, List.length_drop, whole]
    omega
  have first : (frame.take 4).length = 4 := by
    rw [List.length_take]
    omega
  have announces : bigEndian 4 (Codec.announced frame) = frame.take 4 := by
    have back := bigEndian_ofBigEndian (frame.take 4)
    rw [first] at back
    exact back
  rw [Packet.octets, length, announces, List.append_assoc, fields_read layout header,
    List.take_append_drop]

namespace Codec

variable {c : Codec} {p : Packet} {buffer rest : Octets} {e : FrameError}

theorem announced_lt (long : 4 ≤ buffer.length) : announced buffer < 4294967296 := by
  have bound := ofBigEndian_lt (buffer.take 4)
  rw [List.length_take, Nat.min_eq_left long] at bound
  exact bound

theorem decode_packet_iff_octets : c.decode buffer = .packet p rest ↔
    c.Takes p ∧ p.encodedLength < 4294967296 ∧ buffer = p.octets ++ rest := by
  constructor
  · intro decoded
    obtain ⟨long, fits, header, whole, rfl, rfl⟩ := decode_packet_iff.mp decoded
    have cut : (buffer.take (announced buffer)).length = announced buffer := List.length_take_of_le whole
    have four : 4 ≤ c.layout.headerLength := by cases c.layout <;> simp [Layout.headerLength]
    have same : announced (buffer.take (announced buffer)) = announced buffer := by
      rw [announced, announced, List.take_take, Nat.min_eq_left (by rw [announced] at header; omega)]
    have frame := octets_read c.layout (Nat.le_trans header (Nat.le_of_eq cut.symm)) (same.trans cut.symm)
    have length : (c.layout.read (buffer.take (announced buffer))).encodedLength = announced buffer := by
      rw [← Packet.length_octets, frame, cut]
    rw [Takes, length, frame, List.take_append_drop]
    exact ⟨⟨layout_read _ _, fits⟩, announced_lt long, rfl⟩
  · rintro ⟨takes, representable, rfl⟩
    exact decode_octets takes representable rest

theorem decode_refused_iff : c.decode buffer = .refused e ↔ 4 ≤ buffer.length ∧
    (c.limit < announced buffer ∧ e = .tooLarge (announced buffer) c.limit ∨
      announced buffer ≤ c.limit ∧ announced buffer < c.layout.headerLength ∧
        e = .tooShort (announced buffer) c.layout.headerLength) := by
  constructor
  · intro decoded
    have long : 4 ≤ buffer.length := four_le_of_decode (c := c) (by simp [decoded])
    refine ⟨long, ?_⟩
    rw [decode_long c long] at decoded
    split at decoded
    · rename_i exceeds
      cases decoded
      exact Or.inl ⟨exceeds, rfl⟩
    rename_i fits
    split at decoded
    · rename_i short
      cases decoded
      exact Or.inr ⟨Nat.le_of_not_lt fits, short, rfl⟩
    split at decoded <;> cases decoded
  · rintro ⟨long, ⟨exceeds, rfl⟩ | ⟨fits, short, rfl⟩⟩
    · rw [decode_long c long, if_pos exceeds]
    · rw [decode_long c long, if_neg (Nat.not_lt.mpr fits), if_pos short]

/-! ### Streams -/

/-- Why nothing more comes from the octets that are left. -/
def Drained.Stopped (c : Codec) (d : Drained) : Prop :=
  c.decode d.rest = match d.error with
    | none => .incomplete
    | some e => .refused e

theorem drain_stream (c : Codec) (buffer : Octets) :
    buffer = stream (c.drain buffer).packets ++ (c.drain buffer).rest ∧
      (∀ p ∈ (c.drain buffer).packets, c.Takes p ∧ p.encodedLength < 4294967296) ∧
      (c.drain buffer).Stopped c := by
  induction buffer using drain.induct c with
  | case1 buffer decoded =>
    rw [drain_incomplete decoded]
    exact ⟨rfl, by simp, decoded⟩
  | case2 buffer e decoded =>
    rw [drain_refused decoded]
    exact ⟨rfl, by simp, decoded⟩
  | case3 buffer p rest decoded _ ih =>
    obtain ⟨whole, taken, stopped⟩ := ih
    obtain ⟨takes, representable, front⟩ := decode_packet_iff_octets.mp decoded
    rw [drain_packet decoded]
    refine ⟨?_, ?_, stopped⟩
    · rw [stream_cons, List.append_assoc, ← whole, front]
    · intro q hq
      rcases List.mem_cons.mp hq with rfl | hq
      · exact ⟨takes, representable⟩
      · exact taken q hq

/-- However any stream of octets is cut, decoding it chunk by chunk gives the packets, the error and the
remainder that it gives in one piece. The packets that were read are what was taken off the stream,
octet for octet, and an error is about the length field that the remainder begins with. A decode that
gives no packet leaves its buffer as it was, a refusal stays whatever follows, and a packet is read from
its own octets alone. -/
theorem chunks_immaterial (c : Codec) (chunks : List Octets) :
    let d := c.drainChunks chunks
    d = c.drain chunks.flatten ∧
    chunks.flatten = stream d.packets ++ d.rest ∧ (∀ p ∈ d.packets, c.Takes p) ∧
    (d.error = none → c.decode d.rest = .incomplete) ∧
    (∀ e, d.error = some e → ∀ more, c.decode (d.rest ++ more) = .refused e) ∧
    (∀ before after e, chunks = before ++ after → (c.drainChunks before).error = some e →
      d = { c.drainChunks before with rest := (c.drainChunks before).rest ++ after.flatten }) ∧
    ∀ buffer, match c.decode buffer with
      | .incomplete => c.drain buffer = ⟨[], buffer, none⟩
      | .refused e => c.drain buffer = ⟨[], buffer, some e⟩ ∧
        ∀ more, c.decode (buffer ++ more) = .refused e
      | .packet p rest => buffer = p.octets ++ rest ∧ c.Takes p ∧
        ∀ more, c.decode (p.octets ++ more) = .packet p more := by
  intro d
  have whole : d = c.drain chunks.flatten := drainChunks_eq_drain c chunks
  obtain ⟨split, taken, stopped⟩ := drain_stream c chunks.flatten
  rw [← whole] at split taken stopped
  refine ⟨whole, split, fun p hp => (taken p hp).1, ?_, ?_, ?_, ?_⟩
  · intro unrefused
    rw [Drained.Stopped, unrefused] at stopped
    exact stopped
  · intro e refused more
    rw [Drained.Stopped, refused] at stopped
    exact decode_append_of_refused stopped more
  · rintro before after e rfl refused
    have fed : d = c.feed (c.drainChunks before) after.flatten := by
      rw [whole, drainChunks_eq_drain, ← drain_append, List.flatten_append]
    rw [fed]
    simp only [feed, refused]
  · intro buffer
    cases decoded : c.decode buffer with
    | incomplete => exact drain_incomplete decoded
    | refused e => exact ⟨drain_refused decoded, decode_append_of_refused decoded⟩
    | packet p rest =>
      obtain ⟨takes, representable, front⟩ := decode_packet_iff_octets.mp decoded
      exact ⟨front, takes, decode_octets takes representable⟩

end Codec

end SessionGateway.Wire
