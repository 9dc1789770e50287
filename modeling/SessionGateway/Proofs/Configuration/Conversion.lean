import SessionGateway.Configuration.Plan
import SessionGateway.Proofs.Configuration.Validity
import SessionGateway.Proofs.Wire.Registration

/-! From valid settings to a plan. That no two messages share an id is not looked at until the plan is made, and
it is all that can go wrong then. A plan from valid settings says what they say, and what works by the plan
never has to correct it. -/
namespace SessionGateway.Configuration

open Wire Liveness Gateway

variable {s : Settings} {p : Plan}

/-! ### Making a plan -/

/-- The plan for a listen address and a message table. -/
def Settings.planWith (s : Settings) (listen : Text.SocketAddress) (messages : MessageTable) : Plan where
  listen
  frameLimit := s.server.frameLimit
  reusePort := s.server.reusePort
  acceptors := s.server.acceptors
  outboundQueue := s.server.outboundQueue
  heartbeats := s.heartbeat.heartbeats
  connectTimeout := s.backend.connectTimeout
  writeQueue := s.backend.writeQueue
  strategy := s.routing.strategy
  service := s.routing.service
  nodes := s.routing.nodes
  rate := ⟨s.rateLimit.capacity, s.rateLimit.refill⟩
  messages

theorem Settings.plan_eq_ok_iff : s.plan = .ok p ↔
    ∃ listen, Text.SocketAddress.ofString? s.server.listenAddress = some listen ∧
      MessageTable.Consistent s.messages.entries ∧ p = s.planWith listen ⟨s.messages.entries⟩ := by
  have registered := @MessageTable.ofList_eq_ok_iff
  unfold Settings.plan
  cases registration : MessageTable.ofList s.messages.entries with
  | error e =>
    constructor
    · intro refused
      cases refused
    · rintro ⟨_, _, consistent, _⟩
      cases registration.symm.trans (registered.mpr ⟨consistent, rfl⟩)
  | ok messages =>
    obtain ⟨consistent, rfl⟩ := registered.mp registration
    cases address : Text.SocketAddress.ofString? s.server.listenAddress with
    | none =>
      constructor
      · intro refused
        cases refused
      · rintro ⟨_, found, _⟩
        cases found
    | some listen =>
      constructor
      · intro planned
        exact ⟨listen, rfl, consistent, (Except.ok.inj planned).symm⟩
      · rintro ⟨_, found, _, rfl⟩
        obtain rfl := Option.some.inj found
        rfl

theorem Settings.plan_frameLimit (planned : s.plan = .ok p) : p.frameLimit = s.server.frameLimit := by
  obtain ⟨_, _, _, rfl⟩ := Settings.plan_eq_ok_iff.mp planned
  rfl

theorem Settings.Sound.consistent_iff (sound : s.Sound) :
    MessageTable.Consistent s.messages.entries ↔ (s.messages.entries.map (·.2)).Nodup := by
  constructor
  · intro consistent
    exact consistent.ids
  · intro ids
    exact ⟨s.messages.names_distinct, ids, sound.free⟩

theorem Settings.Sound.plan_iff (sound : s.Sound) :
    (∃ p, s.plan = .ok p) ↔ (s.messages.entries.map (·.2)).Nodup := by
  rw [← sound.consistent_iff]
  constructor
  · rintro ⟨p, planned⟩
    obtain ⟨_, _, consistent, _⟩ := Settings.plan_eq_ok_iff.mp planned
    exact consistent
  · intro consistent
    obtain ⟨listen, address⟩ := Option.isSome_iff_exists.mp sound.listenAddress
    exact ⟨_, Settings.plan_eq_ok_iff.mpr ⟨listen, address, consistent, rfl⟩⟩

/-! ### What works by a plan -/

/-- How many frames may wait on a link to a node before whoever writes has to wait. -/
def Plan.writerRoom (p : Plan) : Nat := max 1 p.writeQueue

theorem milliseconds_pos {seconds : Nat} : 0 < milliseconds seconds ↔ 0 < seconds :=
  Nat.mul_pos_iff_of_pos_right (by decide)

theorem missed_limit_eq {limit : UInt32} (positive : 0 < limit) : (Missed.start limit).limit = limit := by
  have one : (1 : UInt32) ≤ limit := by
    rw [UInt32.lt_iff_toNat_lt] at positive
    rw [UInt32.le_iff_toNat_le]
    exact positive
  show (if (1 : UInt32) ≤ limit then limit else 1) = limit
  rw [if_pos one]

theorem openSession_session? (g : Setup) (st : State) (peer : Option Text.SocketAddress)
    (link : Option Link) :
    ∃ id, (st.openSession g peer link).2.session? (st.openSession g peer link).1 =
      some (.start id peer g.rate (max 1 g.queueCapacity) st.clock) := by
  simp only [State.openSession, State.session?, List.getElem?_concat_length, Option.map_some]
  exact ⟨_, rfl⟩

/-- What a plan is that says what settings say, and that nothing has to be corrected in. -/
structure Faithful (s : Settings) (p : Plan) : Prop where
  idOf?_eq : ∀ name, p.messages.idOf? name = s.messages.value? name
  nameOf?_iff : ∀ name id, p.messages.nameOf? id = some name ↔ p.messages.idOf? name = some id
  login_configured : s.messages.value? MessageTable.loginName = some p.messages.loginId
  login_free : p.messages.loginId ≠ 0 ∧ p.messages.loginId ≠ 1
  readerIdle_pos : 0 < p.heartbeats.readerIdle
  writerIdle_pos : 0 < p.heartbeats.writerIdle
  allIdle_pos : ∀ period, p.heartbeats.allIdle = some period → 0 < period
  allIdle_off : p.heartbeats.allIdle = none ↔ s.heartbeat.allIdle = 0
  maxMissed_pos : 0 < p.heartbeats.maxMissed
  outboundQueue_pos : 0 < p.outboundQueue
  writeQueue_pos : 0 < p.writeQueue
  capacity_pos : 0 < p.rate.capacity
  missed_limit : ∀ layout now,
    (Monitor.start layout p.heartbeats now).missed.limit = p.heartbeats.maxMissed
  queue_capacity : ∀ interceptor draws (st : State) peer link,
    let opened := st.openSession (p.setup interceptor draws) peer link
    ∃ session, opened.2.session? opened.1 = some session ∧ session.capacity = p.outboundQueue
  writer_room : p.writerRoom = p.writeQueue

theorem planWith_faithful (sound : s.Sound) (consistent : MessageTable.Consistent s.messages.entries)
    (listen : Text.SocketAddress) : Faithful s (s.planWith listen ⟨s.messages.entries⟩) := by
  obtain ⟨loginId, login⟩ := Option.isSome_iff_exists.mp sound.login
  have loginId_eq : (s.planWith listen ⟨s.messages.entries⟩).messages.loginId = loginId := by
    show (s.messages.value? MessageTable.loginName).getD _ = loginId
    rw [login]
    rfl
  have free : isReserved loginId = false := sound.free _ (s.messages.value?_eq_some_iff.mp login)
  have allIdle : (s.planWith listen ⟨s.messages.entries⟩).heartbeats.allIdle =
      if 0 < s.heartbeat.allIdle then some (milliseconds s.heartbeat.allIdle) else none := rfl
  constructor
  case idOf?_eq => exact fun name => rfl
  case nameOf?_iff =>
    intro name id
    rw [consistent.nameOf?_iff, consistent.idOf?_iff]
  case login_configured => rw [login, loginId_eq]
  case login_free =>
    rw [loginId_eq]
    simpa [isReserved, heartbeatRequestId, heartbeatResponseId] using free
  case readerIdle_pos => exact milliseconds_pos.mpr sound.readerIdle
  case writerIdle_pos => exact milliseconds_pos.mpr sound.writerIdle
  case allIdle_pos =>
    intro period watched
    rw [allIdle] at watched
    split at watched
    · next positive => exact Option.some.inj watched ▸ milliseconds_pos.mpr positive
    · cases watched
  case allIdle_off =>
    rw [allIdle]
    split <;> simp <;> omega
  case maxMissed_pos => exact sound.maxMissed
  case outboundQueue_pos => exact sound.outboundQueue
  case writeQueue_pos => exact sound.writeQueue
  case capacity_pos => exact sound.capacity
  case missed_limit => exact fun _ _ => missed_limit_eq sound.maxMissed
  case queue_capacity =>
    intro interceptor draws st peer link
    obtain ⟨id, opened⟩ := openSession_session? _ st peer link
    exact ⟨_, opened, Nat.max_eq_right sound.outboundQueue⟩
  case writer_room => exact Nat.max_eq_right sound.writeQueue

/-- From valid settings a plan can be made just if no two messages share an id, and it is a faithful one. -/
theorem valid_settings_planned (accepted : s.Valid) :
    ((∃ p, s.plan = .ok p) ↔ (s.messages.entries.map (·.2)).Nodup) ∧
    ∀ p, s.plan = .ok p → Faithful s p := by
  have sound := Settings.valid_iff_sound.mp accepted
  refine ⟨sound.plan_iff, ?_⟩
  intro p planned
  obtain ⟨listen, _, consistent, rfl⟩ := Settings.plan_eq_ok_iff.mp planned
  exact planWith_faithful sound consistent listen

namespace Chatty

/-! Two messages, and silence in both directions watched. -/

def settings : Settings :=
  { heartbeat.allIdle := 45, messages := .ofList [("login", 11000), ("chat", 10500)] }

end Chatty

theorem chatty_settings_planned : Chatty.settings.Valid ∧
    ∃ p, Chatty.settings.plan = .ok p ∧ Faithful Chatty.settings p ∧
      p.messages.nameOf? 10500 = some "chat" ∧ p.messages.idOf? "move" = none := by
  have accepted : Chatty.settings.Valid := by decide
  obtain ⟨possible, faithful⟩ := valid_settings_planned accepted
  obtain ⟨p, planned⟩ := possible.mpr (by decide)
  have kept := faithful p planned
  refine ⟨accepted, p, planned, kept, ?_, ?_⟩
  · rw [kept.nameOf?_iff, kept.idOf?_eq]
    decide
  · rw [kept.idOf?_eq]
    decide

end SessionGateway.Configuration
