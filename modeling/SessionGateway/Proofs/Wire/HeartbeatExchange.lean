import SessionGateway.Wire.Heartbeat
import SessionGateway.Proofs.Wire.Chunks

/-! A heartbeat there and back. The clock that a request takes along comes back in the answer, octet for
octet, so the round trip is told by the clock of the one who asked alone. Whatever a peer sends instead,
nothing is read behind its end and no difference of clocks is too great for 64 bits. -/
namespace SessionGateway.Wire.Heartbeat

variable {p : Packet} {ended : WallClock}

/-! ### Bodies -/

theorem int64At_front (x : Int64) (after : Octets) : int64At (int64Octets x ++ after) 0 = x :=
  field_int64 x after

theorem int64At_behind (first second : Int64) :
    int64At (int64Octets first ++ int64Octets second) 8 = second := by
  have past : (int64Octets first).length ≤ 8 := by simp
  rw [int64At, field_skip past, length_int64Octets, Nat.sub_self]
  simpa using field_int64 second []

theorem body_request (layout : Layout) (now : WallClock) : (request layout now).body = int64Octets now := by
  cases layout <;> rfl

theorem body_response (asked : Packet) (now : WallClock) :
    (response asked now).body = int64Octets now ++ int64Octets (senderClock asked) := by
  cases asked <;> rfl

theorem senderClock_request (layout : Layout) (now : WallClock) : senderClock (request layout now) = now := by
  have long : ¬(int64Octets now).length < 8 := by simp
  rw [senderClock, body_request, if_neg long]
  simpa using int64At_front now []

theorem latency_response (asked : Packet) (now ended : WallClock) : latency (response asked now) ended =
    if 0 < senderClock asked then some (ended - senderClock asked) else none := by
  have long : ¬(int64Octets now ++ int64Octets (senderClock asked)).length < 16 := by simp
  rw [latency, body_response, if_neg long, int64At_behind]

theorem senderClock_octets (asked : Packet) : int64Octets (senderClock asked) =
    if 8 ≤ asked.body.length then asked.body.take 8 else List.replicate 8 0 := by
  rw [senderClock]
  by_cases short : asked.body.length < 8
  · rw [if_pos short, if_neg (Nat.not_le.mpr short)]
    decide
  · have long : 8 ≤ asked.body.length := Nat.le_of_not_lt short
    rw [if_neg short, if_pos long, int64Octets_int64At (by omega), List.drop_zero]

/-- The header fields by which an answer finds its request. -/
def correlation : Packet → List Int
  | .client p => [p.seq.toInt, p.magic.toInt]
  | .node p => [p.session.toInt, p.seq.toInt]
  | .server p => [p.seq.toInt, p.gateId.toInt, p.roleId.toInt, p.connectionId.toInt]

theorem response_correlation (asked : Packet) (now : WallClock) :
    correlation (response asked now) = correlation asked := by
  cases asked <;> rfl

/-! ### Careful reading -/

/-- The clock in front of octets and what follows it. There is none if the octets end within it. -/
def clock? (bs : Octets) : Option (WallClock × Octets) :=
  if bs.length < 8 then none else some (int64At bs 0, bs.drop 8)

def difference? (a b : Int64) : Option Int64 := if (a - b).toInt = a.toInt - b.toInt then some (a - b) else none

/-- The sender's clock, read octet by octet; nothing if an octet is asked for that is not there. -/
def senderClock? (p : Packet) : Option WallClock :=
  if p.body.length < 8 then some 0
  else do
    let (sent, _) ← clock? p.body
    some sent

/-- The round trip, with the clocks read one after the other; nothing if an octet is asked for that is
not there or if a difference does not fit. -/
def latency? (p : Packet) (now : WallClock) : Option (Option Int64) :=
  if p.body.length < 16 then some none
  else do
    let (_, rest) ← clock? p.body
    let (echoed, _) ← clock? rest
    if 0 < echoed then (difference? now echoed).map some else some none

theorem senderClock?_eq (p : Packet) : senderClock? p = some (senderClock p) := by
  rw [senderClock?, senderClock]
  split
  · rfl
  · rename_i long
    simp [clock?, long]

theorem toInt_sub_of_pos {a b : Int64} (nonneg : 0 ≤ a) (positive : 0 < b) :
    (a - b).toInt = a.toInt - b.toInt := by
  have low : 0 ≤ a.toInt := Int64.le_iff_toInt_le.mp nonneg
  have high := a.toInt_lt
  have positive : 0 < b.toInt := Int64.lt_iff_toInt_lt.mp positive
  have bounded := b.toInt_lt
  rw [Int64.toInt_sub]
  apply Int.bmod_eq_of_le <;> omega

theorem latency?_eq (p : Packet) (later : 0 ≤ ended) : latency? p ended = some (latency p ended) := by
  rw [latency?, latency]
  split
  · rfl
  · rename_i long
    have first : clock? p.body = some (int64At p.body 0, p.body.drop 8) := if_neg (by omega)
    have second : clock? (p.body.drop 8) = some (int64At p.body 8, p.body.drop 16) := by
      have left : ¬(p.body.drop 8).length < 8 := by
        rw [List.length_drop]
        omega
      rw [clock?, if_neg left]
      simp [int64At, field]
    simp only [first, second, Option.bind_eq_bind, Option.bind_some]
    split
    · rename_i positive
      rw [difference?, if_pos (toInt_sub_of_pos later positive)]
      rfl
    · rfl

/-! ### There and back -/

theorem toInt_latency_response (asked : Packet) (now : WallClock) (later : 0 ≤ ended) :
    (latency (response asked now) ended).map Int64.toInt =
      if 0 < senderClock asked then some (ended.toInt - (senderClock asked).toInt) else none := by
  rw [latency_response]
  split
  · rename_i positive
    rw [Option.map_some, toInt_sub_of_pos later positive]
  · rfl

theorem read_back {c : Codec} (passes : c.Takes p) (short : p.encodedLength < 4294967296) :
    c.encode p = .ok p.octets ∧ ∀ rest, c.decode (p.octets ++ rest) = .packet p rest :=
  ⟨(Codec.encode_eq c p).trans (if_pos passes), Codec.decode_octets passes short⟩

/-- On every link that lets both frames pass, a request that is written, read, answered at any time, and
whose answer is written and read tells the time from its own clock to the end, and nothing if that clock
was not positive. An answer to any packet at all keeps its layout and its correlation, has the id of an
answer and two clocks for a body, the second of them being what the packet began with, or zero if it was
too short. Whatever packet comes, the sender's clock and the round trip are found without reading behind
the end of its body, and without a difference that 64 bits do not hold. -/
theorem clocks_exchanged (c : Codec) (now answered ended : WallClock) :
    (0 ≤ ended → c.Takes (request c.layout now) → c.Takes (response (request c.layout now) answered) →
      ∃ asking answering asked answer,
        c.encode (request c.layout now) = .ok asking ∧
        (∀ rest, c.decode (asking ++ rest) = .packet asked rest) ∧
        c.encode (response asked answered) = .ok answering ∧
        (∀ rest, c.decode (answering ++ rest) = .packet answer rest) ∧
        (latency answer ended).map Int64.toInt =
          if 0 < now then some (ended.toInt - now.toInt) else none) ∧
    (∀ asked : Packet, let answer := response asked answered
      answer.layout = asked.layout ∧ correlation answer = correlation asked ∧ answer.msgId = 1 ∧
      answer.body.length = 16 ∧ answer.body.take 8 = int64Octets answered ∧
      answer.body.drop 8 = if 8 ≤ asked.body.length then asked.body.take 8 else List.replicate 8 0) ∧
    ∀ p : Packet, senderClock? p = some (senderClock p) ∧
      (0 ≤ ended → latency? p ended = some (latency p ended)) := by
  refine ⟨?exchange, ?answer, ?careful⟩
  case exchange =>
    intro later passes answerPasses
    have header : c.layout.headerLength ≤ 28 := by cases c.layout <;> decide
    have short : (request c.layout now).encodedLength < 4294967296 := by
      rw [encodedLength_request]
      omega
    have answerShort : (response (request c.layout now) answered).encodedLength < 4294967296 := by
      rw [encodedLength_response, request_layout]
      omega
    obtain ⟨written, read⟩ := read_back passes short
    obtain ⟨answerWritten, answerRead⟩ := read_back answerPasses answerShort
    refine ⟨_, _, _, _, written, read, answerWritten, answerRead, ?_⟩
    rw [toInt_latency_response _ _ later, senderClock_request]
  case answer =>
    intro asked answer
    have clock : (int64Octets answered).length = 8 := length_int64Octets answered
    have body : answer.body = int64Octets answered ++ int64Octets (senderClock asked) :=
      body_response asked answered
    refine ⟨response_layout asked answered, response_correlation asked answered,
      response_msgId asked answered, ?_, ?_, ?_⟩
    · rw [body, List.length_append, clock, length_int64Octets]
    · rw [body, List.take_left' clock]
    · rw [body, List.drop_left' clock, senderClock_octets]
  case careful =>
    intro p
    exact ⟨senderClock?_eq p, latency?_eq p⟩

/-- A link of just the room that an answer takes, and a peer whose clock is far ahead. -/
theorem narrow_exchange :
    let link : Codec := { layout := .gatewayInternal, limit := 32 }
    ∃ asking answering asked answer,
      link.encode (request link.layout 5) = .ok asking ∧
      (∀ rest, link.decode (asking ++ rest) = .packet asked rest) ∧
      link.encode (response asked 1000000) = .ok answering ∧
      (∀ rest, link.decode (answering ++ rest) = .packet answer rest) ∧
      (latency answer 12).map Int64.toInt = some 7 := by
  intro link
  have passes : link.Takes (request link.layout 5) := by decide
  have answerPasses : link.Takes (response (request link.layout 5) 1000000) := by decide
  exact (clocks_exchanged link 5 1000000 12).1 (by decide) passes answerPasses

end SessionGateway.Wire.Heartbeat
