import SessionGateway.Gateway.Session
import Mathlib.Data.List.Induction

/-! The life of a session. Its phase is the one that was written last, until it is closed. Then it is closed
for good: no phase and no player is written over what is there, and nothing is queued any more. -/
namespace SessionGateway.Gateway

def SessionCall.writes : SessionCall → Option Phase
  | .setPhase phase => some phase
  | .authenticate _ => some .authenticated
  | .close => some .closed
  | .bind _ | .acquire | .send _ | .touch => none

/-- Something is asked of a session, by whatever the clocks are, or whoever takes frames from its queue
takes all that are there or leaves. -/
inductive SessionStep where
  | asks (clock : SessionClock) (call : SessionCall)
  | receives
  | abandons

def SessionStep.call? : SessionStep → Option SessionCall
  | asks _ call => some call
  | receives | abandons => none

def callsOf (steps : List SessionStep) : List SessionCall := steps.filterMap SessionStep.call?

def phasesOf (steps : List SessionStep) : List Phase := (callsOf steps).filterMap SessionCall.writes

namespace Session

def follow (s : Session) : SessionStep → Session
  | .asks clock call => s.perform clock call
  | .receives => s.receive.2
  | .abandons => s.abandon

def following (s : Session) (steps : List SessionStep) : Session := steps.foldl follow s

variable {s : Session}

/-! ### One step -/

theorem follow_phase (s : Session) (step : SessionStep) : (s.follow step).phase =
    if s.phase = .closed then .closed else (step.call?.bind SessionCall.writes).getD s.phase := by
  by_cases closed : s.phase = .closed
  · rw [if_pos closed]
    cases step with
    | asks clock call =>
      cases call <;> simp [follow, perform, setPhase_eq, authenticate_eq, bind_eq, send_eq, acquire,
        touch, close, closed]
    | receives => exact closed
    | abandons => exact closed
  · rw [if_neg closed]
    cases step with
    | asks clock call =>
      cases call <;> simp [follow, perform, setPhase_eq, authenticate_eq, bind_eq, send_eq, acquire,
        touch, close, closed, SessionStep.call?, SessionCall.writes]
    | receives => rfl
    | abandons => rfl

theorem follow_closed (closed : s.phase = .closed) (step : SessionStep) :
    (s.follow step).phase = .closed ∧ (s.follow step).player = s.player := by
  refine ⟨by rw [follow_phase, if_pos closed], ?_⟩
  cases step with
  | asks clock call =>
    rcases s.perform_player clock call with kept | ⟨player, rfl, _⟩
    · exact kept
    · simp [follow, perform, authenticate_eq, closed]
  | receives => rfl
  | abandons => rfl

theorem follow_player (active : s.phase ≠ .closed) (step : SessionStep) :
    (s.follow step).player.isSome = true ↔
      s.player.isSome = true ∨ ∃ player, step.call? = some (.authenticate player) := by
  cases step with
  | asks clock call =>
    cases call <;> simp [follow, perform, setPhase_eq, authenticate_eq, bind_eq, send_eq, acquire, touch,
      close, active, SessionStep.call?]
  | receives => simp [follow, receive, SessionStep.call?]
  | abandons => simp [follow, abandon, SessionStep.call?]

theorem isActive_of_closed (closed : s.phase = .closed) : s.isActive = false := by
  simp [isActive, closed]

theorem isAuthenticated_of_closed (closed : s.phase = .closed) : s.isAuthenticated = false := by
  simp [isAuthenticated, closed]

theorem send_of_inactive (inactive : s.isActive = false) (p : Wire.ClientPacket) :
    s.send p = (false, s) := by
  simp [send, inactive]

/-! ### Many steps -/

theorem following_concat (s : Session) (steps : List SessionStep) (step : SessionStep) :
    s.following (steps ++ [step]) = (s.following steps).follow step := by
  simp [following]

theorem following_closed (closed : s.phase = .closed) (steps : List SessionStep) :
    (s.following steps).phase = .closed ∧ (s.following steps).player = s.player := by
  induction steps using List.reverseRecOn with
  | nil => exact ⟨closed, rfl⟩
  | append_singleton steps step ih =>
    obtain ⟨still, same⟩ := follow_closed ih.1 step
    rw [following_concat]
    exact ⟨still, same.trans ih.2⟩

theorem phasesOf_concat (steps : List SessionStep) (step : SessionStep) :
    phasesOf (steps ++ [step]) = phasesOf steps ++ (step.call?.bind SessionCall.writes).toList := by
  cases h : step.call? with
  | none => simp [phasesOf, callsOf, h]
  | some call => cases hw : call.writes <;> simp [phasesOf, callsOf, h, hw]

theorem following_closed_iff (active : s.phase ≠ .closed) (steps : List SessionStep) :
    (s.following steps).phase = .closed ↔ .closed ∈ phasesOf steps := by
  induction steps using List.reverseRecOn with
  | nil => simpa [following, phasesOf, callsOf] using active
  | append_singleton steps step ih =>
    rw [following_concat, follow_phase, phasesOf_concat, List.mem_append, ← ih]
    by_cases closed : (s.following steps).phase = .closed
    · simp [closed]
    · cases step.call?.bind SessionCall.writes with
      | none => simp [closed]
      | some phase => simp [closed, eq_comm]

theorem open_before {steps : List SessionStep} {step : SessionStep}
    (active : (s.following (steps ++ [step])).phase ≠ .closed) : (s.following steps).phase ≠ .closed := by
  intro closed
  rw [following_concat] at active
  exact active (follow_closed closed step).1

theorem following_phase {steps : List SessionStep} (active : (s.following steps).phase ≠ .closed) :
    (s.following steps).phase = (phasesOf steps).getLast?.getD s.phase := by
  induction steps using List.reverseRecOn with
  | nil => rfl
  | append_singleton steps step ih =>
    have before := open_before active
    rw [following_concat, follow_phase, if_neg before, ih before, phasesOf_concat]
    cases step.call?.bind SessionCall.writes <;> simp

theorem following_player {steps : List SessionStep} (active : (s.following steps).phase ≠ .closed) :
    (s.following steps).player.isSome = true ↔
      s.player.isSome = true ∨ ∃ player, .authenticate player ∈ callsOf steps := by
  induction steps using List.reverseRecOn with
  | nil => simp [following, callsOf]
  | append_singleton steps step ih =>
    have before := open_before active
    rw [following_concat, follow_player before, ih before, or_assoc, ← exists_or]
    simp [callsOf, List.filterMap_append]

/-! ### From the start -/

/-- A session is closed from the moment on that this is written, by whoever it is. Before that it counts as
authenticated if it was ever authenticated and that is the phase that was written last. After that it
stays closed, keeps the player it had, and takes nothing into its queue, whatever is asked of it and
whatever becomes of the queue. -/
theorem closed_for_good (id : Wire.SessionId) (peer : Option Text.SocketAddress) (rate : Admission.Rate)
    (capacity : Nat) (clock : SessionClock) (steps : List SessionStep) :
    let s := (Session.start id peer rate capacity clock).following steps
    (s.phase = .closed ↔ .closed ∈ phasesOf steps) ∧
    (s.phase ≠ .closed → (s.isAuthenticated = true ↔
      (∃ player, .authenticate player ∈ callsOf steps) ∧
        (phasesOf steps).getLast? = some .authenticated)) ∧
    (s.phase = .closed → ∀ later : List SessionStep,
      let t := s.following later
      t.phase = .closed ∧ t.player = s.player ∧ t.isAuthenticated = false ∧ t.isActive = false ∧
        ∀ p, t.send p = (false, t)) := by
  intro s
  refine ⟨following_closed_iff (by simp [start]) steps, ?_, ?_⟩
  · intro active
    have phase := following_phase active
    have player := following_player active
    have fresh : (start id peer rate capacity clock).phase = .connected := rfl
    have unknown : (start id peer rate capacity clock).player = none := rfl
    rw [unknown] at player
    rw [fresh] at phase
    rw [isAuthenticated, Bool.and_eq_true, decide_eq_true_eq, player, phase, or_iff_right (by simp)]
    -- The phase of a session that nobody wrote to is not this one.
    cases (phasesOf steps).getLast? <;> simp
  · intro closed later t
    obtain ⟨still, same⟩ := following_closed closed later
    have inactive : t.isActive = false := isActive_of_closed still
    exact ⟨still, same, isAuthenticated_of_closed still, inactive, send_of_inactive inactive⟩

namespace Dismissed

/-! A session that is authenticated and then told that it is closed, without being told to hang up. -/

def fresh : Session := .start 1 none .standard 4 ⟨0, 0⟩

def steps : List SessionStep := [.asks ⟨0, 0⟩ (.authenticate 7), .asks ⟨5, 5⟩ (.setPhase .closed)]

def later : List SessionStep :=
  [.asks ⟨6, 6⟩ (.authenticate 8), .asks ⟨7, 7⟩ (.setPhase .connected), .receives]

def answer : Wire.ClientPacket := { msgId := 20001, seq := 1, magic := 0, body := [] }

end Dismissed

theorem dismissed_session_stays_closed :
    let s := Dismissed.fresh.following Dismissed.steps
    let t := s.following Dismissed.later
    (Dismissed.fresh.following (Dismissed.steps.take 1)).isAuthenticated = true ∧ s.phase = .closed ∧
    t.phase = .closed ∧ t.player = some 7 ∧ t.isAuthenticated = false ∧
    t.send Dismissed.answer = (false, t) := by
  intro s t
  obtain ⟨_, before, _⟩ := closed_for_good 1 none .standard 4 ⟨0, 0⟩ (Dismissed.steps.take 1)
  obtain ⟨closed, _, stays⟩ := closed_for_good 1 none .standard 4 ⟨0, 0⟩ Dismissed.steps
  have now : s.phase = .closed := closed.mpr (by decide)
  obtain ⟨still, player, authenticated, _, dropped⟩ := stays now Dismissed.later
  refine ⟨(before (by decide)).mpr ⟨⟨7, by decide⟩, by decide⟩, now, still, ?_, authenticated,
    dropped Dismissed.answer⟩
  exact player.trans (by decide)

end Session

end SessionGateway.Gateway
