import SessionGateway.Proofs.Configuration.Conversion
import SessionGateway.Proofs.Gateway.Handling

/-! Room for heartbeats. Settings are accepted if their frame limit leaves room for the header of every
layout, the longest of which no link of a gateway speaks. That happens to be room for every heartbeat but
one: the answer to a node, with its two clocks behind a header of its own, is longer by four octets. -/
namespace SessionGateway.Gateway

open SessionGateway.Configuration Wire Liveness

variable {g : Setup}

/-! ### Links -/

theorem takes_request {c : Codec} {now : Heartbeat.WallClock} :
    c.Takes (Heartbeat.request c.layout now) ↔ c.layout.headerLength + 8 ≤ c.limit := by
  simp [Codec.Takes, Heartbeat.encodedLength_request]

theorem takes_response {c : Codec} {buffer rest : Octets} {asked : Packet}
    (decoded : c.decode buffer = .packet asked rest) {now : Heartbeat.WallClock} :
    c.Takes (Heartbeat.response asked now) ↔ c.layout.headerLength + 16 ≤ c.limit := by
  simp [Codec.Takes, Heartbeat.encodedLength_response, Codec.layout_of_decode decoded]

/-! ### Answers -/

theorem clientFrame_request {s : State} {h : Handle} {link : Link} {asked : Packet}
    (connected : s.clientLink? h = some link) (request : Heartbeat.isRequest asked)
    (passes : g.clientCodec.Takes (Heartbeat.response asked s.clock.wall)) :
    if s.network.toClient h = .taken then
      ((s.clientFrame g h asked).clientLink? h).isSome ∧
        (s.clientFrame g h asked).history =
          .clientReceived h (Heartbeat.response asked s.clock.wall) :: s.history
    else (s.clientFrame g h asked).clientLink? h = none := by
  have touched : (s.updateSession h (·.touch s.clock)).clientLink? h = some link := by
    rw [State.clientLink?_updateSession]
    exact connected
  have heard (link : Link) := State.clientLink?_setClientLink link touched
  have network (link : Link) :
      ((s.updateSession h (·.touch s.clock)).setClientLink h link).network = s.network := rfl
  have wall : (s.updateSession h (·.touch s.clock)).clock.wall = s.clock.wall := rfl
  simp only [State.clientFrame, connected, Monitor.onInbound_request _ _ _ request, State.writeClient, heard,
    network, wall]
  by_cases taken : s.network.toClient h = .taken
  · rw [if_pos taken, fault?_eq_none_iff.mpr ⟨taken, passes⟩]
    dsimp only
    constructor
    · exact Option.isSome_iff_exists.mpr ⟨_, State.clientLink?_setClientLink _ (heard _)⟩
    · rfl
  · rw [if_neg taken]
    split
    · exact clientLink?_endClient _ _ _
    · rename_i written
      exact absurd (fault?_eq_none_iff.mp written).1 taken

theorem nodeFrame_request {s : State} {id : Nat} {link : NodeLink} {asked : Packet}
    (connected : s.nodeLink? id = some link) (request : Heartbeat.isRequest asked) :
    let answer := Heartbeat.response asked s.clock.wall
    let after := s.nodeFrame g id asked
    match fault? g.nodeCodec answer (s.network.toNode id) with
    | none =>
      (after.nodeLink? id).isSome ∧
        after.history = .nodeReceived id link.address answer :: s.history
    | some fault =>
      after.nodeLink? id = none ∧
        after.history = .linkEnded id link.address fault.ending :: s.history := by
  intro answer after
  have heard (f : Link → Link) := State.nodeLink?_updateNodeLink f connected
  have network (f : Link → Link) : (s.updateNodeLink id f).network = s.network := rfl
  have frame : after = s.nodeFrame g id asked := rfl
  simp only [State.nodeFrame, connected, Monitor.onInbound_request _ _ _ request, State.writeNode, heard,
    network] at frame
  cases met : fault? g.nodeCodec answer (s.network.toNode id) with
  | none =>
    rw [frame, met]
    dsimp only
    constructor
    · rw [State.nodeLink?_record, State.nodeLink?_updateNodeLink _ (heard _)]
      rfl
    · rfl
  | some fault =>
    rw [frame, met]
    simp only [State.endLink, heard]
    constructor
    · apply List.find?_eq_none.mpr
      intro l hl
      simpa using (List.mem_filter.mp hl).2
    · rfl

/-! ### Room -/

/-- Under settings that are accepted a gateway can write every heartbeat request it makes and every
answer to a client. An answer to a node takes 32 octets, though:
with a frame limit below that, and 28 is accepted, a node that asks loses its link instead. Apart from that
only a connection that does not take what is written on it is lost by asking. -/
theorem heartbeat_room {s : Settings} (accepted : s.Valid) {p : Plan} (planned : s.plan = .ok p)
    (interceptor : Option Interceptor) (draws : Nat → Nat) :
    let g := p.setup interceptor draws
    (∀ now, ∃ bytes, g.clientCodec.encode (Heartbeat.request .gateway now) = .ok bytes) ∧
    (∀ now, ∃ bytes, g.nodeCodec.encode (Heartbeat.request .gatewayInternal now) = .ok bytes) ∧
    (∀ buffer asked rest now, g.clientCodec.decode buffer = .packet asked rest →
      ∃ bytes, g.clientCodec.encode (Heartbeat.response asked now) = .ok bytes) ∧
    (∀ buffer asked rest now, g.nodeCodec.decode buffer = .packet asked rest →
      ((∃ bytes, g.nodeCodec.encode (Heartbeat.response asked now) = .ok bytes) ↔
        32 ≤ s.server.frameLimit)) ∧
    (∀ (st : State) h buffer asked rest, g.clientCodec.decode buffer = .packet asked rest →
      Heartbeat.isRequest asked → (st.clientLink? h).isSome →
        (((st.clientFrame g h asked).clientLink? h).isSome ↔ st.network.toClient h = .taken)) ∧
    (∀ (st : State) id buffer asked rest, g.nodeCodec.decode buffer = .packet asked rest →
      Heartbeat.isRequest asked → (st.nodeLink? id).isSome →
        (((st.nodeFrame g id asked).nodeLink? id).isSome ↔
          st.network.toNode id = .taken ∧ 32 ≤ s.server.frameLimit)) := by
  intro g
  have limit : g.frameLimit = s.server.frameLimit := Settings.plan_frameLimit planned
  have room : 28 ≤ g.frameLimit := limit ▸ Settings.leastFrameLimit_le accepted
  have toClient {buffer asked rest} (decoded : g.clientCodec.decode buffer = .packet asked rest) (now) :
      g.clientCodec.Takes (Heartbeat.response asked now) :=
    (takes_response decoded).mpr room
  have toNode {buffer asked rest} (decoded : g.nodeCodec.decode buffer = .packet asked rest) (now) :
      g.nodeCodec.Takes (Heartbeat.response asked now) ↔ 32 ≤ s.server.frameLimit := by
    rw [takes_response decoded, ← limit]
    exact Iff.rfl
  refine ⟨?_, ?_, ?_, ?_, ?_, ?_⟩
  · intro now
    have takes : g.clientCodec.Takes (Heartbeat.request .gateway now) :=
      takes_request.mpr (show 12 + 8 ≤ g.frameLimit by omega)
    exact Codec.encode_ok_iff.mpr takes
  · intro now
    have takes : g.nodeCodec.Takes (Heartbeat.request .gatewayInternal now) :=
      takes_request.mpr (show 16 + 8 ≤ g.frameLimit by omega)
    exact Codec.encode_ok_iff.mpr takes
  · intro buffer asked rest now decoded
    exact Codec.encode_ok_iff.mpr (toClient decoded now)
  · intro buffer asked rest now decoded
    rw [Codec.encode_ok_iff]
    exact toNode decoded now
  · intro st h buffer asked rest decoded request connected
    obtain ⟨link, hl⟩ := Option.isSome_iff_exists.mp connected
    have answered := clientFrame_request hl request (toClient decoded st.clock.wall)
    split at answered
    · rename_i taken
      exact iff_of_true answered.1 taken
    · rename_i lost
      simp [answered, lost]
  · intro st id buffer asked rest decoded request connected
    obtain ⟨link, hl⟩ := Option.isSome_iff_exists.mp connected
    have answered := nodeFrame_request (g := g) hl request
    rw [← toNode decoded st.clock.wall, ← fault?_eq_none_iff]
    dsimp only at answered
    split at answered
    · rename_i passes
      exact iff_of_true answered.1 passes
    · rename_i met
      simp [answered.1, met]

namespace Narrowest

/-! The least frame limit that is accepted. -/

def settings : Settings := { server.frameLimit := 28 }

theorem settings_valid : settings.Valid := by decide

theorem settings_planned : ∃ p, settings.plan = .ok p := by
  have succeeds : settings.plan.isOk := by decide
  cases planned : settings.plan with
  | ok p => exact ⟨p, rfl⟩
  | error e =>
    rw [planned] at succeeds
    cases succeeds

def fromClient : Packet := Heartbeat.request .gateway 5

def fromNode : Packet := Heartbeat.request .gatewayInternal 5

end Narrowest

theorem narrowest_room : Narrowest.settings.Valid ∧ ∃ p, Narrowest.settings.plan = .ok p ∧
    (p.setup none id).clientCodec.decode Narrowest.fromClient.octets = .packet Narrowest.fromClient [] ∧
    (∃ bytes, (p.setup none id).clientCodec.encode
      (Heartbeat.response Narrowest.fromClient 7) = .ok bytes) ∧
    (p.setup none id).nodeCodec.decode Narrowest.fromNode.octets = .packet Narrowest.fromNode [] ∧
    ¬∃ bytes, (p.setup none id).nodeCodec.encode
      (Heartbeat.response Narrowest.fromNode 7) = .ok bytes := by
  obtain ⟨p, planned⟩ := Narrowest.settings_planned
  obtain ⟨_, _, toClient, toNode, _⟩ := heartbeat_room Narrowest.settings_valid planned none id
  have limit : (p.setup none id).frameLimit = 28 := Settings.plan_frameLimit planned
  have client : (p.setup none id).clientCodec.decode Narrowest.fromClient.octets =
      .packet Narrowest.fromClient [] := by
    rw [Setup.clientCodec, limit]
    decide
  have node : (p.setup none id).nodeCodec.decode Narrowest.fromNode.octets =
      .packet Narrowest.fromNode [] := by
    rw [Setup.nodeCodec, limit]
    decide
  refine ⟨Narrowest.settings_valid, p, planned, client, toClient _ _ _ 7 client, node, ?_⟩
  rw [toNode _ _ _ 7 node]
  decide

/-- Not every request that a link lets in can be answered there. -/
theorem answer_to_node_refused : ¬∀ s : Settings, s.Valid → ∀ p, s.plan = .ok p →
    ∀ buffer asked rest now, (p.setup none id).nodeCodec.decode buffer = .packet asked rest →
      Heartbeat.isRequest asked →
      ∃ bytes, (p.setup none id).nodeCodec.encode (Heartbeat.response asked now) = .ok bytes := by
  intro claim
  obtain ⟨p, planned⟩ := Narrowest.settings_planned
  have limit : (p.setup none id).frameLimit = 28 := Settings.plan_frameLimit planned
  have answer := claim Narrowest.settings Narrowest.settings_valid p planned
    Narrowest.fromNode.octets Narrowest.fromNode [] 7
  rw [Setup.nodeCodec, limit] at answer
  have takes := Codec.encode_ok_iff.mp (answer (by decide) (by decide))
  exact absurd takes (by decide)

end SessionGateway.Gateway
