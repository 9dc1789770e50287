import SessionGateway.Proofs.Gateway.Admittance

/-! What a client is allowed that gets no further tokens. It has what its bucket holds, which is spent frame by
frame, on every frame that could go to a node and on no other, whatever becomes of the frame and of the
session in between. -/
namespace SessionGateway.Gateway

open Wire Selection Admission

variable {g : Setup} {asked : Handle → SessionCall → Prop} {s s' : State} {h : Handle}

def Setup.Frugal (g : Setup) : Prop :=
  ∀ calls, g.interceptor = some calls → ∀ history session p, .acquire ∉ calls history session p

/-- Nobody else asks for tokens of the session at `h`. -/
def Unspending (h : Handle) (a : Handle) (call : SessionCall) : Prop := a = h → call ≠ .acquire

/-- How many of the frames that were handled cost a token. -/
def spent (g : Setup) (log : List (Session × ClientPacket × Outcome)) : Nat :=
  log.countP fun (found, c, _) => Admissible g found c

theorem spent_cons (g : Setup) (found : Session) (c : ClientPacket) (outcome : Outcome)
    (log : List (Session × ClientPacket × Outcome)) : spent g ((found, c, outcome) :: log) =
      if Admissible g found c then spent g log + 1 else spent g log := by
  unfold spent
  by_cases admissible : Admissible g found c <;> simp [admissible]

/-- Of the frames that cost a token, those beyond the first `capacity` were dropped for the rate, and no
other frame was. -/
def Limited (g : Setup) (log : List (Session × ClientPacket × Outcome)) : Prop :=
  ∀ later found c outcome earlier, log = later ++ (found, c, outcome) :: earlier →
    (outcome = .rateLimited ↔ Admissible g found c ∧ g.rate.capacity.toNat ≤ spent g earlier)

theorem Limited.cons {log : List (Session × ClientPacket × Outcome)} (limited : Limited g log)
    {found : Session} {c : ClientPacket} {outcome : Outcome}
    (last : outcome = .rateLimited ↔ Admissible g found c ∧ g.rate.capacity.toNat ≤ spent g log) :
    Limited g ((found, c, outcome) :: log) := by
  intro later found' c' outcome' earlier split
  cases later with
  | nil =>
    obtain ⟨same, rfl⟩ := List.cons.inj split
    cases same
    exact last
  | cons first later => exact limited later found' c' outcome' earlier (List.cons.inj split).2

/-- The bucket of the session at `h` tells how many of its frames cost a token. -/
structure Balanced (g : Setup) (h : Handle) (s : State) : Prop where
  unknown : s.bucket? h = none → handlings h s.history = []
  drained : ∀ b, s.bucket? h = some b → b.Drained g.rate (spent g (handlings h s.history))
  limited : Limited g (handlings h s.history)

theorem Balanced.of_same (balanced : Balanced g h s) (bucket : s'.bucket? h = s.bucket? h)
    (history : handlings h s'.history = handlings h s.history) : Balanced g h s' := by
  refine ⟨?_, ?_, ?_⟩
  · rw [bucket, history]
    exact balanced.unknown
  · rw [bucket, history]
    exact balanced.drained
  · rw [history]
    exact balanced.limited

theorem receive_spends (noRefill : g.rate.refill = 0) {found : Session}
    (hs : s.session? h = some found) {n : Nat} (drained : found.bucket.Drained g.rate n)
    (c : ClientPacket) :
    ((s.receive g h c).1 = .rateLimited ↔ Admissible g found c ∧ g.rate.capacity.toNat ≤ n) ∧
    ∃ b, (s.receive g h c).2.bucket? h = some b ∧
      if Admissible g found c then b.Drained g.rate (n + 1) else b = found.bucket := by
  rw [receive_eq g hs]
  by_cases admissible : Admissible g found c
  · obtain ⟨limited, bucket⟩ := handle_charged hs admissible
    obtain ⟨taken, less⟩ := drained.take noRefill s.clock.bucket
    refine ⟨?_, _, bucket, by rwa [if_pos admissible]⟩
    rw [limited, and_iff_right admissible, ← Nat.not_lt, ← taken, Bool.not_eq_true]
  · obtain ⟨unlimited, bucket⟩ := handle_uncharged hs admissible
    exact ⟨by simp [unlimited, admissible], _, bucket, by rw [if_neg admissible]⟩

theorem receive_balanced (noRefill : g.rate.refill = 0) (balanced : Balanced g h s) (c : ClientPacket) :
    Balanced g h (s.receive g h c).2 := by
  cases hs : s.session? h with
  | none =>
    have same : (s.receive g h c).2 = s := by simp [State.receive, hs]
    rwa [same]
  | some found =>
    have history := receive_handlings (g := g) (h := h) hs c
    rw [if_pos rfl] at history
    obtain ⟨limited, b, bucket, spends⟩ :=
      receive_spends noRefill hs (balanced.drained _ (State.bucket?_eq hs)) c
    refine ⟨?_, ?_, ?_⟩
    · intro unknown
      cases bucket.symm.trans unknown
    · intro b' hb'
      obtain rfl := Option.some.inj (bucket.symm.trans hb')
      rw [history, spent_cons]
      by_cases admissible : Admissible g found c
      · rw [if_pos admissible] at spends ⊢
        exact spends
      · rw [if_neg admissible] at spends ⊢
        rw [spends]
        exact balanced.drained _ (State.bucket?_eq hs)
    · rw [history]
      exact balanced.limited.cons limited

theorem deed_balanced (noRefill : g.rate.refill = 0) (frugal : g.Frugal) (balanced : Balanced g h s)
    (deed : Deed g (Unspending h) s s') : Balanced g h s' := by
  cases deed_accounts h deed with
  | spares bucket history => exact balanced.of_same bucket history
  | opens unknown full history =>
    have fresh := history.trans (balanced.unknown unknown)
    refine ⟨fun _ => fresh, ?_, by rw [history]; exact balanced.limited⟩
    intro b hb
    obtain rfl := Option.some.inj (full.symm.trans hb)
    rw [fresh]
    exact TokenBucket.full_drained g.rate s.clock.bucket
  | asks call other =>
    refine balanced.of_same (bucket?_updateSeat s h ?_) rfl
    intro seat
    exact (perform_bucket s.clock seat.session call).trans (if_neg (other rfl))
  | receives c => exact receive_balanced noRefill balanced c
  | replies p =>
    obtain ⟨history, same | ⟨found, calls, interceptor, hs, set, rfl, bucket⟩⟩ := reply_accounts g h p
    · exact balanced.of_same same history
    · refine balanced.of_same ?_ history
      have none := List.count_eq_zero.mpr (frugal interceptor set s.history found p)
      rw [bucket, none, State.bucket?_eq hs]
      rfl

theorem initial_balanced (resolver : Resolver) (clock : SessionClock) (network : Network) :
    Balanced g h (.initial resolver clock network) where
  unknown _ := rfl
  drained := by
    intro b hb
    cases hb
  limited := by
    intro later found c outcome earlier split
    cases (List.append_eq_nil_iff.mp split.symm).2

/-- Without refill a session may send as many frames to nodes as its bucket holds. Each frame that is no
heartbeat and is the login, or finds its session authenticated, costs one token, whatever becomes of it. All
of them that come when no token is left are dropped for the rate, and no other frame is, or changes the
bucket. That holds whoever else does what in between, as long as nobody but the handling of frames asks for
tokens of the session. -/
theorem tokens_spent_frame_by_frame (g : Setup) (noRefill : g.rate.refill = 0) (frugal : g.Frugal)
    (resolver : Resolver) (clock : SessionClock) (network : Network) (h : Handle) (s : State)
    (path : Relation.ReflTransGen (Deed g (Unspending h)) (.initial resolver clock network) s) :
    let log := handlings h s.history
    let capacity := g.rate.capacity.toNat
    (∀ later found c outcome earlier, log = later ++ (found, c, outcome) :: earlier →
      (outcome = .rateLimited ↔ Admissible g found c ∧ capacity ≤ spent g earlier)) ∧
    ∀ session, s.session? h = some session →
      session.bucket.tokens = ((capacity - spent g log : Nat) : Rat) ∧
      (∀ now, (session.bucket.available now).1 = capacity - spent g log) ∧
      ∀ c, handlings h (s.receive g h c).2.history = (session, c, (s.receive g h c).1) :: log ∧
        ((s.receive g h c).1 = .rateLimited ↔ Admissible g session c ∧ capacity ≤ spent g log) ∧
        ∃ b, (s.receive g h c).2.bucket? h = some b ∧
          if Admissible g session c then b.tokens = ((capacity - (spent g log + 1) : Nat) : Rat)
          else b = session.bucket := by
  intro log capacity
  have balanced : Balanced g h s := by
    induction path with
    | refl => exact initial_balanced resolver clock network
    | tail _ deed ih => exact deed_balanced noRefill frugal ih deed
  refine ⟨balanced.limited, ?_⟩
  intro session hs
  have drained := balanced.drained _ (State.bucket?_eq hs)
  refine ⟨drained.tokens, drained.available noRefill, ?_⟩
  intro c
  have history := receive_handlings (g := g) (h := h) hs c
  rw [if_pos rfl] at history
  obtain ⟨limited, b, bucket, spends⟩ := receive_spends noRefill hs drained c
  refine ⟨history, limited, b, bucket, ?_⟩
  by_cases admissible : Admissible g session c
  · rw [if_pos admissible] at spends ⊢
    exact spends.tokens
  · rw [if_neg admissible] at spends ⊢
    exact spends

namespace Thrifty

/-! A session with two tokens and no more. Its client sends a frame too early, logs in while there is no node,
logs in again, is authenticated, and sends the frame again. -/

def setup : Setup := { Guarded.setup with rate := ⟨2, 0⟩ }

def start : State := .initial Guarded.resolver ⟨0, 0⟩ (.steady fun _ => .accepting)

def sends (p : ClientPacket) : Event := .clientSends 0 (Guarded.octets setup.clientCodec (.client p))

def events : List Event :=
  [.clientConnects none, sends Guarded.business, sends Guarded.login, .addNode "a" "n:1",
    sends Guarded.login, .nodeSends 1 (Guarded.octets setup.nodeCodec (.node (Guarded.login.wrap 1))),
    sends Guarded.business]

def heartbeat : ClientPacket := { msgId := heartbeatResponseId, seq := 3, magic := 0, body := [] }

end Thrifty

theorem third_frame_limited : let s := Thrifty.start.run Thrifty.setup Thrifty.events
    Thrifty.setup.rate.refill = 0 ∧ Thrifty.setup.Frugal ∧
    Relation.ReflTransGen (Deed Thrifty.setup (Unspending 0)) Thrifty.start s ∧
    (handlings 0 s.history).map (·.2.2) = [.rateLimited, .forwarded "n:1", .noNode, .unauthenticated] ∧
    ∃ found, s.session? 0 = some found ∧ found.bucket.tokens = 0 ∧
      (s.receive Thrifty.setup 0 Guarded.business).1 = .rateLimited ∧
      (s.receive Thrifty.setup 0 Thrifty.heartbeat).1 ≠ .rateLimited := by
  intro s
  have frugal : Thrifty.setup.Frugal := by
    intro calls set history session p
    obtain rfl := Option.some.inj set
    by_cases login : p.msgId = 11000 <;> simp [login]
  have path : Relation.ReflTransGen (Deed Thrifty.setup (Unspending 0)) Thrifty.start s := by
    apply Moves.deeds
    apply run_moves
    simp [Thrifty.events, Thrifty.sends]
  have outcomes : (handlings 0 s.history).map (·.2.2) =
      [.rateLimited, .forwarded "n:1", .noNode, .unauthenticated] := by decide +kernel
  have seen : (s.session? 0).map (·.isAuthenticated) = some true := by decide +kernel
  obtain ⟨found, hs, authenticated⟩ := Option.map_eq_some_iff.mp seen
  have three : spent Thrifty.setup (handlings 0 s.history) = 3 := by decide +kernel
  obtain ⟨_, counted⟩ := tokens_spent_frame_by_frame Thrifty.setup rfl frugal _ _ _ 0 s path
  obtain ⟨tokens, _, next⟩ := counted found hs
  rw [three] at tokens next
  obtain ⟨_, business, _⟩ := next Guarded.business
  obtain ⟨_, heartbeat, _⟩ := next Thrifty.heartbeat
  refine ⟨rfl, frugal, path, outcomes, found, hs, tokens.trans ?_, ?_, ?_⟩
  · simp [Thrifty.setup]
  · exact business.mpr ⟨⟨by decide, Or.inr authenticated⟩, by decide⟩
  · exact fun limited => absurd (heartbeat.mp limited).1.1 (by decide)

end SessionGateway.Gateway
