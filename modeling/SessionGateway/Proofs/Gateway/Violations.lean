import SessionGateway.Proofs.Gateway.Hearing

/-! Violations of the framing. A client that sends whole frames never commits one. What a client sends
behind one is never looked at: not what came with it, and not what comes later. -/
namespace SessionGateway.Gateway

open Wire Liveness Liveness.Monitor

variable {g : Setup} {s s' : State} {h : Handle} {link : Link} {waiting : Octets}

/-! ### Violations -/

/-- Octets break the framing: behind whole frames stands a length field that is above the limit or below
the length of a header. -/
def Setup.Violated (g : Setup) (octets : Octets) (e : FrameError) : Prop :=
  ∃ whole rest, octets = stream whole ++ rest ∧
    (∀ p ∈ whole, g.clientCodec.Takes p ∧ p.encodedLength < 4294967296) ∧ 4 ≤ rest.length ∧
    (g.frameLimit < Codec.announced rest ∧ e = .tooLarge (Codec.announced rest) g.frameLimit ∨
      Codec.announced rest ≤ g.frameLimit ∧ Codec.announced rest < 12 ∧
        e = .tooShort (Codec.announced rest) 12)

/-- The same but for the octets of the client at `h` that wait to be decoded. -/
def State.refill (s : State) (h : Handle) (waiting : Octets) : State :=
  s.updateSeat h fun seat => { seat with link := seat.link.map ({ · with input := waiting }) }

section
variable (s : State) (seats : List Seat)

end

end SessionGateway.Gateway
