import SessionGateway.Liveness.IdleTimers
import SessionGateway.Wire.Heartbeat

/-! One side of a link that keeps itself alive. Heartbeat requests are answered on the spot and
responses absorbed; whatever else arrives is handed on. When nothing was written for a while a
heartbeat is due, and when nothing was read for too many periods the peer counts as gone. -/
namespace SessionGateway.Liveness

open Wire

structure Missed where
  count : UInt32
  limit : UInt32
  deriving DecidableEq, Repr

namespace Missed

/-- At least one period of silence is always allowed. -/
def start (limit : UInt32) : Missed := ⟨0, max 1 limit⟩

def reset (m : Missed) : Missed := { m with count := 0 }

/-- One more silent period. The count stops at the greatest word. -/
def more (m : Missed) : Missed :=
  { m with count := if m.count = 0xFFFFFFFF then m.count else m.count + 1 }

def exhausted (m : Missed) : Bool := m.limit ≤ m.count

theorem start_patient (limit : UInt32) : (start limit).count < (start limit).limit := by
  show 0 < if (1 : UInt32) ≤ limit then limit else 1
  split
  · rename_i one
    rw [UInt32.le_iff_toNat_le] at one
    rw [UInt32.lt_iff_toNat_lt]
    exact one
  · decide

theorem toNat_count_more {m : Missed} (patient : m.count < m.limit) :
    m.more.count.toNat = m.count.toNat + 1 := by
  rw [UInt32.lt_iff_toNat_lt] at patient
  have word : m.limit.toNat < 4294967296 := m.limit.toNat_lt
  have below : m.count ≠ 0xFFFFFFFF := by
    intro last
    have last : m.count.toNat = 4294967295 := by rw [last]; rfl
    omega
  rw [more, if_neg below]
  simp only [UInt32.toNat_add, UInt32.toNat_one]
  omega

theorem exhausted_more_iff {m : Missed} (patient : m.count < m.limit) :
    m.more.exhausted ↔ m.limit.toNat = m.count.toNat + 1 := by
  have exact := toNat_count_more patient
  have limit : m.more.limit = m.limit := rfl
  rw [UInt32.lt_iff_toNat_lt] at patient
  rw [exhausted, decide_eq_true_iff, UInt32.le_iff_toNat_le, limit, exact]
  omega

end Missed

inductive Inbound where
  | reply (p : Packet)
  | absorbed (latency : Option Int64)
  | deliver (p : Packet)
  deriving DecidableEq, Repr

inductive IdleAction where
  | heartbeat (p : Packet)
  | missed (count : UInt32)
  | close (count : UInt32)
  deriving DecidableEq, Repr

structure Monitor where
  layout : Layout
  missed : Missed
  timers : IdleTimers
  deriving DecidableEq, Repr

namespace Monitor

def start (layout : Layout) (periods : Heartbeats) (now : Time) : Monitor :=
  { layout, missed := .start periods.maxMissed, timers := .start periods now }

/-- What becomes of an arriving frame. Any frame at all shows that the peer lives. -/
def onInbound (m : Monitor) (now : Time) (wall : Heartbeat.WallClock) (p : Packet) :
    Inbound × Monitor :=
  let m := { m with missed := m.missed.reset, timers := m.timers.onRead now }
  if Heartbeat.isRequest p then (.reply (Heartbeat.response p wall), m)
  else if Heartbeat.isResponse p then (.absorbed (Heartbeat.latency p wall), m)
  else (.deliver p, m)

theorem onInbound_snd (m : Monitor) (now : Time) (wall : Heartbeat.WallClock) (p : Packet) :
    (m.onInbound now wall p).2 =
      { m with missed := m.missed.reset, timers := m.timers.onRead now } := by
  unfold onInbound
  split
  · rfl
  split <;> rfl

theorem onInbound_request (m : Monitor) (now : Time) (wall : Heartbeat.WallClock) {asked : Packet}
    (request : Heartbeat.isRequest asked) :
    m.onInbound now wall asked = (.reply (Heartbeat.response asked wall),
      { m with missed := m.missed.reset, timers := m.timers.onRead now }) := by
  rw [onInbound, if_pos request]

theorem onInbound_deliver {m m' : Monitor} {now : Time} {wall : Heartbeat.WallClock} {p q : Packet}
    (h : m.onInbound now wall p = (.deliver q, m')) : q = p ∧ isReserved p.msgId = false := by
  unfold onInbound at h
  split at h
  · cases h
  split at h
  · cases h
  · cases h
    simp_all [Heartbeat.isRequest, Heartbeat.isResponse, isReserved]

theorem onInbound_reply {m m' : Monitor} {now : Time} {wall : Heartbeat.WallClock} {p q : Packet}
    (h : m.onInbound now wall p = (.reply q, m')) : isReserved q.msgId = true := by
  unfold onInbound at h
  split at h
  · cases h
    simp [isReserved]
  split at h <;> cases h

def onOutbound (m : Monitor) (now : Time) : Monitor := { m with timers := m.timers.onWrite now }

def onIdle (m : Monitor) (wall : Heartbeat.WallClock) : IdleEvent → IdleAction × Monitor
  | .reader =>
    let m := { m with missed := m.missed.more }
    (if m.missed.exhausted then .close m.missed.count else .missed m.missed.count, m)
  | .writer => (.heartbeat (Heartbeat.request m.layout wall), m)
  | .all => (.heartbeat (Heartbeat.request m.layout wall), m)

def next (m : Monitor) (now : Time) : IdleEvent × Time × Monitor :=
  let (event, woken, timers) := m.timers.next now
  (event, woken, { m with timers })

/-- The idle event that is due, if one is, and what it asks for. -/
def due (m : Monitor) (now : Time) (wall : Heartbeat.WallClock) : Option (IdleAction × Monitor) :=
  if m.timers.earliest.2 ≤ now then
    let (event, _, m) := m.next now
    some (m.onIdle wall event)
  else none

theorem due_heartbeat {m m' : Monitor} {now : Time} {wall : Heartbeat.WallClock} {p : Packet}
    (h : m.due now wall = some (.heartbeat p, m')) : isReserved p.msgId = true := by
  unfold due at h
  split at h
  · rcases hn : m.next now with ⟨event, woken, m₁⟩
    simp only [hn, Option.some.injEq] at h
    cases event with
    | reader =>
      simp only [onIdle] at h
      split at h <;> cases h
    | writer => cases h; simp [isReserved]
    | all => cases h; simp [isReserved]
  · cases h

/-! ### On a clock that ends -/

def start? (layout : Layout) (periods : Heartbeats) (last now : Time) : Option Monitor := do
  return { layout, missed := .start periods.maxMissed, timers := ← IdleTimers.start? periods last now }

def onInbound? (m : Monitor) (last now : Time) (wall : Heartbeat.WallClock) (p : Packet) :
    Option (Inbound × Monitor) := do
  let timers ← m.timers.onRead? last now
  let (inbound, m) := m.onInbound now wall p
  return (inbound, { m with timers })

def onOutbound? (m : Monitor) (last now : Time) : Option Monitor := do
  return { m with timers := ← m.timers.onWrite? last now }

def next? (m : Monitor) (last now : Time) : Option (IdleEvent × Time × Monitor) := do
  let (event, woken, timers) ← m.timers.next? last now
  return (event, woken, { m with timers })

variable (m : Monitor) (last now : Time)

theorem start?_gives (layout : Layout) (periods : Heartbeats) :
    Gives (periods.Fit last now) (start? layout periods last now) (start layout periods now) :=
  (IdleTimers.start?_gives last now periods).bind (.pure _)

theorem onInbound?_gives (wall : Heartbeat.WallClock) (p : Packet) :
    Gives (m.timers.periods.Fit last now) (m.onInbound? last now wall p) (m.onInbound now wall p) := by
  have heard : ((m.onInbound now wall p).1, { (m.onInbound now wall p).2 with
      timers := m.timers.onRead now }) = m.onInbound now wall p := by
    rw [onInbound_snd, ← onInbound_snd m now wall p]
  exact heard ▸ (IdleTimers.onRead?_gives m.timers last now).bind (.pure _)

theorem onOutbound?_gives :
    Gives (m.timers.periods.Fit last now) (m.onOutbound? last now) (m.onOutbound now) :=
  (IdleTimers.onWrite?_gives m.timers last now).bind (.pure _)

theorem next?_gives :
    Gives (m.timers.periods.Fit last (m.next now).2.1) (m.next? last now) (m.next now) :=
  (IdleTimers.next?_gives m.timers last now).bind (.pure _)

end Monitor

end SessionGateway.Liveness
