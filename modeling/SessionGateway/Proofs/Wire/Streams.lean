import SessionGateway.Proofs.Wire.Frames

/-! Streams of frames. How a stream is cut into chunks on its way does not matter, and what one side
writes frame by frame the other side reads packet by packet, each as soon as its last octet is there. -/
namespace SessionGateway.Wire

namespace Codec

variable {c : Codec} {p : Packet} {buffer rest : Octets} {e : FrameError}

/-! ### Chunks -/

theorem drain_incomplete (decoded : c.decode buffer = .incomplete) :
    c.drain buffer = ⟨[], buffer, none⟩ := by
  rw [drain]
  split <;> simp_all

theorem drain_refused (decoded : c.decode buffer = .refused e) :
    c.drain buffer = ⟨[], buffer, some e⟩ := by
  rw [drain]
  split <;> simp_all

theorem drain_packet (decoded : c.decode buffer = .packet p rest) :
    c.drain buffer = { c.drain rest with packets := p :: (c.drain rest).packets } := by
  rw [drain]
  split <;> simp_all

theorem drain_append (c : Codec) (buffer more : Octets) :
    c.drain (buffer ++ more) = c.feed (c.drain buffer) more := by
  induction buffer using drain.induct c with
  | case1 buffer decoded =>
    rw [drain_incomplete decoded]
    rfl
  | case2 buffer e decoded =>
    rw [drain_refused decoded, drain_refused (decode_append_of_refused decoded more)]
    rfl
  | case3 buffer p rest decoded _ ih =>
    rw [drain_packet decoded, drain_packet (decode_append_of_packet decoded more), ih]
    unfold feed
    split <;> simp_all

theorem drainChunks_eq_drain (c : Codec) (chunks : List Octets) :
    c.drainChunks chunks = c.drain chunks.flatten := by
  have start : c.drain [] = ⟨[], [], none⟩ := drain_incomplete (c.decode_short (by decide))
  have onward (buffer : Octets) :
      chunks.foldl c.feed (c.drain buffer) = c.drain (buffer ++ chunks.flatten) := by
    induction chunks generalizing buffer with
    | nil => simp
    | cons chunk chunks ih =>
      rw [List.foldl_cons, ← drain_append, ih, List.flatten_cons, List.append_assoc]
  rw [drainChunks, ← start, onward, List.nil_append]

end Codec

/-! ### Sequences of packets -/

def totalLength : List Packet → Nat
  | [] => 0
  | p :: later => p.encodedLength + totalLength later

def stream (ps : List Packet) : Octets := ps.flatMap Packet.octets

/-- The packets whose last octet is among the first `n` of their stream. -/
def arrived (n : Nat) : List Packet → List Packet
  | [] => []
  | p :: later => if p.encodedLength ≤ n then p :: arrived (n - p.encodedLength) later else []

theorem stream_cons (p : Packet) (later : List Packet) :
    stream (p :: later) = p.octets ++ stream later := List.flatMap_cons

theorem length_stream (ps : List Packet) : (stream ps).length = totalLength ps := by
  induction ps with
  | nil => rfl
  | cons p later ih =>
    rw [stream_cons, List.length_append, Packet.length_octets, ih, totalLength]

theorem arrived_all {ps : List Packet} {n : Nat} (whole : totalLength ps ≤ n) : arrived n ps = ps := by
  induction ps generalizing n with
  | nil => rfl
  | cons p later ih =>
    rw [totalLength] at whole
    rw [arrived, if_pos (by omega), ih (by omega)]

namespace Codec

variable {c : Codec} {ps : List Packet}

def writeAll (c : Codec) (out : Octets) (ps : List Packet) : Octets :=
  ps.foldl (fun out p => (c.write out p).1) out

theorem writeAll_eq (c : Codec) (out : Octets) (ps : List Packet) :
    c.writeAll out ps = out ++ stream (ps.filter (c.Takes ·)) := by
  unfold writeAll stream
  induction ps generalizing out with
  | nil => simp
  | cons p later ih =>
    rw [List.foldl_cons, ih, write_eq]
    by_cases takes : c.Takes p <;> simp [takes]

/-- However much of a stream has come, the packets that have come whole are read, and what is left is
the part of the next one. -/
theorem drain_take_stream (taken : ∀ p ∈ ps, c.Takes p)
    (representable : ∀ p ∈ ps, p.encodedLength < 4294967296) (n : Nat) :
    c.drain ((stream ps).take n) =
      ⟨arrived n ps, ((stream ps).take n).drop (totalLength (arrived n ps)), none⟩ := by
  induction ps generalizing n with
  | nil =>
    have nothing : (stream []).take n = [] := List.take_nil
    rw [nothing]
    exact drain_incomplete (c.decode_short (by decide))
  | cons p later ih =>
    have passes := taken p List.mem_cons_self
    have fits := representable p List.mem_cons_self
    have length := p.length_octets
    -- The first frame is there whole, or what has come ends within it.
    by_cases whole : p.encodedLength ≤ n
    · have cut : (stream (p :: later)).take n =
          p.octets ++ (stream later).take (n - p.encodedLength) := by
        rw [stream_cons, List.take_append, List.take_of_length_le (length ▸ whole), length]
      have onward := ih (fun q hq => taken q (List.mem_cons_of_mem p hq))
        (fun q hq => representable q (List.mem_cons_of_mem p hq)) (n - p.encodedLength)
      have total : totalLength (p :: arrived (n - p.encodedLength) later) =
          p.octets.length + totalLength (arrived (n - p.encodedLength) later) := by
        rw [length, totalLength]
      rw [cut, drain_packet (decode_octets passes fits _), onward, arrived, if_pos whole, total,
        List.drop_append]
      simp
    · have cut : (stream (p :: later)).take n = p.octets.take n := by
        rw [stream_cons, List.take_append_of_le_length (by omega)]
      have part : (p.octets.take n).length < p.encodedLength := by
        rw [List.length_take]
        omega
      rw [cut, drain_incomplete (decode_part passes fits (List.take_prefix n _) part), arrived,
        if_neg whole]
      rfl

/-- Packets written one after the other are read in the same order, whatever stood in the buffer before
and however their stream is cut on the way. After any of the chunks just those packets have been read whose
last octet has come. A packet that the link does not let pass leaves the buffer and the others alone. -/
theorem stream_round_trip (c : Codec) (ps : List Packet)
    (representable : ∀ p ∈ ps, c.Takes p → p.encodedLength < 4294967296) :
    ∃ sent : Octets,
      (∀ out, c.writeAll out ps = out ++ sent) ∧
      sent.length = totalLength (ps.filter (c.Takes ·)) ∧
      (∀ chunks : List Octets, chunks.flatten = sent →
        c.drainChunks chunks = ⟨ps.filter (c.Takes ·), [], none⟩) ∧
      (∀ chunks : List Octets, chunks.flatten <+: sent →
        let whole := arrived chunks.flatten.length (ps.filter (c.Takes ·))
        c.drainChunks chunks = ⟨whole, chunks.flatten.drop (totalLength whole), none⟩) ∧
      ∀ out p, ¬c.Takes p → c.write out p = (out, some (c.refusal p)) := by
  have taken : ∀ p ∈ ps.filter (c.Takes ·), c.Takes p := by
    intro p hp
    exact of_decide_eq_true (List.mem_filter.mp hp).2
  have short : ∀ p ∈ ps.filter (c.Takes ·), p.encodedLength < 4294967296 := by
    intro p hp
    exact representable p (List.mem_filter.mp hp).1 (taken p hp)
  have read : ∀ chunks : List Octets, chunks.flatten <+: stream (ps.filter (c.Takes ·)) →
      let whole := arrived chunks.flatten.length (ps.filter (c.Takes ·))
      c.drainChunks chunks = ⟨whole, chunks.flatten.drop (totalLength whole), none⟩ := by
    intro chunks part
    have result := drain_take_stream taken short chunks.flatten.length
    rw [← List.prefix_iff_eq_take.mp part] at result
    rw [drainChunks_eq_drain]
    exact result
  refine ⟨stream (ps.filter (c.Takes ·)), fun out => writeAll_eq c out ps, length_stream _, ?_, read, ?_⟩
  · intro chunks all
    have length : chunks.flatten.length = totalLength (ps.filter (c.Takes ·)) := by
      rw [all, length_stream]
    have result := read chunks (all ▸ List.prefix_refl _)
    dsimp only at result
    rw [length, arrived_all (Nat.le_refl _), ← length, List.drop_length] at result
    exact result
  · intro out p refused
    rw [write_eq, if_neg refused]

namespace Narrow

/-! A link to a client that leaves room for four octets of body. -/

def codec : Codec := ⟨.gateway, 16⟩

def full : Packet := .client { msgId := -2, seq := -3, magic := 7, body := [1, 2, 3, 4] }

def oversized : Packet := .client { msgId := 10001, seq := 4, magic := 0, body := [1, 2, 3, 4, 5] }

def foreign : Packet := .node { session := 1, msgId := 10001, seq := 4, body := [] }

def bare : Packet := .client { msgId := 10002, seq := 5, magic := 0, body := [] }

def packets : List Packet := [full, oversized, foreign, bare]

end Narrow

/-- A cut through a length field, and one through the last octet of a frame. -/
theorem cut_stream_read_back :
    (∀ p ∈ Narrow.packets, Narrow.codec.Takes p → p.encodedLength < 4294967296) ∧
    ∃ sent : Octets, Narrow.codec.writeAll [255] Narrow.packets = 255 :: sent ∧ sent.length = 28 ∧
      Narrow.codec.drainChunks [sent.take 2, (sent.drop 2).take 13] = ⟨[], sent.take 15, none⟩ ∧
      Narrow.codec.drainChunks [sent.take 2, (sent.drop 2).take 13, sent.drop 15] =
        ⟨[Narrow.full, Narrow.bare], [], none⟩ := by
  have short : ∀ p ∈ Narrow.packets, Narrow.codec.Takes p → p.encodedLength < 4294967296 := by decide
  obtain ⟨sent, written, length, all, part, _⟩ := stream_round_trip Narrow.codec Narrow.packets short
  have two : (sent.take 2 ++ (sent.drop 2).take 13 : Octets) = sent.take 15 :=
    (List.take_add (i := 2) (j := 13)).symm
  have total : sent.length = 28 := length
  refine ⟨short, sent, written [255], total, ?_, ?_⟩
  · have joined : [sent.take 2, (sent.drop 2).take 13].flatten = sent.take 15 := by simpa using two
    have result := part _ (joined ▸ List.take_prefix 15 sent)
    rw [joined, List.length_take, total] at result
    exact result
  · apply all
    simp only [List.flatten_cons, List.flatten_nil, List.append_nil]
    rw [← List.append_assoc, two, List.take_append_drop]

end Codec

end SessionGateway.Wire
