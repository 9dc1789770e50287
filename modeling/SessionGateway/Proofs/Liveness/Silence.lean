import SessionGateway.Liveness.Monitor

/-! When a monitor gives its peer up. Frames, writes and idle events may come in any order, and events as
late as they like. A timer starts anew from the moment its event was noticed and not from the deadline, so
being late never makes a period of silence shorter. -/
namespace SessionGateway.Liveness

open Wire

inductive Call where
  | inbound (wall : Heartbeat.WallClock) (p : Packet)
  | outbound
  | advance (ms : Time)
  /-- The next event of the timers is waited for and answered at once. It is late if its deadline is past. -/
  | idle (wall : Heartbeat.WallClock)
  /-- An event that the timers did not give is answered. -/
  | told (wall : Heartbeat.WallClock) (event : IdleEvent)

inductive Entry where
  | heard (now : Time)
  | wrote (now : Time)
  | idled (event : IdleEvent) (timed : Bool) (now : Time) (asked : IdleAction)
  deriving DecidableEq, Repr

namespace Entry

def isHeard : Entry → Bool
  | heard _ => true
  | _ => false

def isSilence : Entry → Bool
  | idled .reader _ _ _ => true
  | _ => false

def isTimed : Entry → Bool
  | idled _ timed _ _ => timed
  | _ => false

end Entry

/-- A monitor, its clock, and what happened to it, latest first. -/
structure Journal where
  monitor : Monitor
  now : Time
  entries : List Entry

namespace Journal

def start (layout : Layout) (periods : Heartbeats) (origin : Time) : Journal where
  monitor := .start layout periods origin
  now := origin
  entries := []

def answer (j : Journal) (timed : Bool) (wall : Heartbeat.WallClock) (event : IdleEvent) : Journal :=
  let (asked, monitor) := j.monitor.onIdle wall event
  { j with monitor, entries := .idled event timed j.now asked :: j.entries }

def take (j : Journal) : Call → Journal
  | .inbound wall p =>
    { j with monitor := (j.monitor.onInbound j.now wall p).2, entries := .heard j.now :: j.entries }
  | .outbound => { j with monitor := j.monitor.onOutbound j.now, entries := .wrote j.now :: j.entries }
  | .advance ms => { j with now := j.now + ms }
  | .idle wall =>
    let (event, now, monitor) := j.monitor.next j.now
    { j with monitor, now }.answer true wall event
  | .told wall event => j.answer false wall event

def run (j : Journal) (calls : List Call) : Journal := calls.foldl take j

/-! ### What the entries tell -/

/-- The entries since a frame was last heard, if one was. -/
def sinceHeard (entries : List Entry) : List Entry := entries.takeWhile (!·.isHeard)

def lastHeard (origin : Time) : List Entry → Time
  | [] => origin
  | .heard now :: _ => now
  | _ :: earlier => lastHeard origin earlier

/-- How many periods of silence have ended since a frame was last heard. -/
def silences (entries : List Entry) : Nat := (sinceHeard entries).countP (·.isSilence)

def measured (entries : List Entry) : Nat :=
  (sinceHeard entries).countP fun e => e.isSilence && e.isTimed

/-- All silence that is told of is told by the timers. -/
def Unprompted (entries : List Entry) : Prop := ∀ e ∈ entries, e.isSilence → e.isTimed

variable {e : Entry} {entries earlier later : List Entry} {now origin : Time} {event : IdleEvent}
  {timed : Bool} {asked : IdleAction}

@[simp] theorem sinceHeard_heard : sinceHeard (.heard now :: entries) = [] := rfl

@[simp] theorem sinceHeard_wrote :
    sinceHeard (.wrote now :: entries) = .wrote now :: sinceHeard entries := rfl

@[simp] theorem sinceHeard_idled : sinceHeard (.idled event timed now asked :: entries) =
    .idled event timed now asked :: sinceHeard entries := rfl

theorem silences_cons (unheard : e.isHeard = false) :
    silences (e :: entries) = silences entries + e.isSilence.toNat := by
  cases e with
  | heard => cases unheard
  | wrote => simp [silences, Entry.isSilence]
  | idled event => cases event <;> simp [silences, Entry.isSilence]

theorem measured_cons (unheard : e.isHeard = false) :
    measured (e :: entries) = measured entries + (e.isSilence && e.isTimed).toNat := by
  cases e with
  | heard => cases unheard
  | wrote => simp [measured, Entry.isSilence]
  | idled event timed => cases event <;> cases timed <;> simp [measured, Entry.isSilence, Entry.isTimed]

theorem measured_eq_silences (unprompted : Unprompted (sinceHeard entries)) :
    measured entries = silences entries := by
  apply List.countP_congr
  intro e member
  have timed := unprompted e member
  cases silence : e.isSilence <;> simp_all

def tally (n : Nat) : UInt32 := .ofNat (min n 0xFFFFFFFF)

theorem toNat_tally (n : Nat) : (tally n).toNat = min n 0xFFFFFFFF :=
  UInt32.toNat_ofNat_of_lt (by show _ < 4294967296; omega)

theorem toNat_tally_of_lt {n : Nat} (word : n < UInt32.size) : (tally n).toNat = n := by
  have word : n < 4294967296 := word
  rw [toNat_tally]
  omega

theorem more_tally {m : Missed} {n : Nat} (count : m.count = tally n) : m.more.count = tally (n + 1) := by
  have before := toNat_tally n
  have after := toNat_tally (n + 1)
  rw [← UInt32.toNat_inj, after]
  by_cases last : m.count = 0xFFFFFFFF
  · have full : (tally n).toNat = 4294967295 := by
      rw [← count, last]
      rfl
    rw [Missed.more, if_pos last, last]
    show 4294967295 = _
    omega
  · have room : (tally n).toNat ≠ 4294967295 := by
      rw [← count]
      exact fun full => last (UInt32.toNat_inj.mp full)
    rw [Missed.more, if_neg last, count]
    simp only [UInt32.toNat_add, UInt32.toNat_one]
    omega

theorem exhausted_tally {m : Missed} {n : Nat} (count : m.count = tally n) :
    m.exhausted = decide (m.limit.toNat ≤ n) := by
  have word : m.limit.toNat < 4294967296 := m.limit.toNat_lt
  rw [Missed.exhausted, count, decide_eq_decide, UInt32.le_iff_toNat_le, toNat_tally]
  omega

/-- What the end of a period is answered with when `n` periods of silence have ended. -/
def verdict (limit : UInt32) (n : Nat) : IdleAction :=
  if limit.toNat ≤ n then .close (tally n) else .missed (tally n)

def Lawful (layout : Layout) (periods : Heartbeats) (origin : Time) (earlier : List Entry) :
    Entry → Prop
  | .idled .reader timed now asked =>
    asked = verdict (max 1 periods.maxMissed) (silences earlier + 1) ∧
    (timed → lastHeard origin earlier + (measured earlier + 1) * periods.readerIdle ≤ now)
  | .idled _ _ _ asked => ∃ wall, asked = .heartbeat (Heartbeat.request layout wall)
  | _ => True

theorem Lawful.closed_late {layout : Layout} {periods : Heartbeats} {count : UInt32}
    (lawful : Lawful layout periods origin earlier (.idled event timed now (.close count)))
    (isTimed : timed) (unprompted : Unprompted (sinceHeard earlier)) :
    lastHeard origin earlier + (max 1 periods.maxMissed).toNat * periods.readerIdle ≤ now := by
  cases event with
  | reader =>
    obtain ⟨answered, elapsed⟩ := lawful
    have reached : (max 1 periods.maxMissed).toNat ≤ silences earlier + 1 := by
      apply Nat.le_of_not_lt
      intro short
      rw [verdict, if_neg (Nat.not_le.mpr short)] at answered
      cases answered
    have passed := elapsed isTimed
    rw [measured_eq_silences unprompted] at passed
    have whole := Nat.mul_le_mul_right periods.readerIdle reached
    exact Nat.le_trans (Nat.add_le_add_left whole _) passed
  | _ =>
    obtain ⟨_, asked⟩ := lawful
    cases asked

/-- The counter tells how many periods of silence have ended since a frame was heard, and the deadline
that each one which the timers told has taken its time. -/
structure Counts (layout : Layout) (periods : Heartbeats) (origin : Time) (j : Journal) : Prop where
  layout_eq : j.monitor.layout = layout
  periods_eq : j.monitor.timers.periods = periods
  limit : j.monitor.missed.limit = max 1 periods.maxMissed
  count : j.monitor.missed.count = tally (silences j.entries)
  deadline : lastHeard origin j.entries + (measured j.entries + 1) * periods.readerIdle ≤
    j.monitor.timers.readerDeadline
  lawful : ∀ later e earlier, j.entries = later ++ e :: earlier →
    Lawful layout periods origin earlier e

variable {j : Journal} {layout : Layout} {periods : Heartbeats}

theorem start_counts (layout : Layout) (periods : Heartbeats) (origin : Time) :
    Counts layout periods origin (start layout periods origin) where
  layout_eq := rfl
  periods_eq := rfl
  limit := rfl
  count := rfl
  deadline := by simp [start, Monitor.start, IdleTimers.start, lastHeard, measured, sinceHeard]
  lawful := by simp [start]

theorem lawful_cons (old : ∀ later e earlier, entries = later ++ e :: earlier →
      Lawful layout periods origin earlier e)
    (new : Lawful layout periods origin entries e) :
    ∀ later e' earlier, e :: entries = later ++ e' :: earlier →
      Lawful layout periods origin earlier e' := by
  intro later e' earlier split
  cases later with
  | nil =>
    obtain ⟨rfl, rfl⟩ := List.cons.inj split
    exact new
  | cons _ later =>
    obtain ⟨_, rest⟩ := List.cons.inj split
    exact old later e' earlier rest

theorem Counts.inbound (c : Counts layout periods origin j) (wall : Heartbeat.WallClock) (p : Packet) :
    Counts layout periods origin (j.take (.inbound wall p)) := by
  simp only [take, Monitor.onInbound_snd]
  exact {
    layout_eq := c.layout_eq
    periods_eq := c.periods_eq
    limit := c.limit
    count := rfl
    deadline := by simp [lastHeard, measured, IdleTimers.onRead, IdleTimers.restartAll, c.periods_eq]
    lawful := lawful_cons c.lawful trivial }

theorem Counts.outbound (c : Counts layout periods origin j) :
    Counts layout periods origin (j.take .outbound) where
  layout_eq := c.layout_eq
  periods_eq := c.periods_eq
  limit := c.limit
  count := c.count
  deadline := c.deadline
  lawful := lawful_cons c.lawful trivial

/-- One more period of silence has ended. An event that the timers gave ended the period that was due, and
started the next one. -/
theorem Counts.silence (c : Counts layout periods origin j) (wall : Heartbeat.WallClock)
    (inTime : timed →
      lastHeard origin j.entries + (measured j.entries + 1) * periods.readerIdle ≤ j.now ∧
      j.now + periods.readerIdle ≤ j.monitor.timers.readerDeadline) :
    Counts layout periods origin (j.answer timed wall .reader) := by
  have count := more_tally c.count
  have limit : j.monitor.missed.more.limit = max 1 periods.maxMissed := c.limit
  have asked : j.monitor.onIdle wall .reader =
      (verdict (max 1 periods.maxMissed) (silences j.entries + 1),
        { j.monitor with missed := j.monitor.missed.more }) := by
    simp only [Monitor.onIdle, verdict, exhausted_tally count, limit, count, decide_eq_true_eq]
  simp only [Journal.answer, asked]
  exact {
    layout_eq := c.layout_eq
    periods_eq := c.periods_eq
    limit := c.limit
    count := by
      rw [silences_cons rfl]
      exact count
    deadline := by
      rw [measured_cons rfl]
      cases timed with
      | false => exact c.deadline
      | true =>
        obtain ⟨passed, again⟩ := inTime rfl
        have later := Nat.add_le_add_right passed periods.readerIdle
        rw [Nat.add_assoc, ← Nat.succ_mul] at later
        exact Nat.le_trans later again
    lawful := lawful_cons c.lawful ⟨rfl, fun isTimed => (inTime isTimed).1⟩ }

theorem Counts.beat (c : Counts layout periods origin j) (wall : Heartbeat.WallClock)
    (beat : event ≠ .reader) : Counts layout periods origin (j.answer timed wall event) := by
  cases event with
  | reader => exact absurd rfl beat
  | _ =>
    exact {
      layout_eq := c.layout_eq
      periods_eq := c.periods_eq
      limit := c.limit
      count := c.count
      deadline := c.deadline
      lawful := lawful_cons c.lawful ⟨wall, by rw [← c.layout_eq]⟩ }

theorem Counts.idle (c : Counts layout periods origin j) (wall : Heartbeat.WallClock) :
    Counts layout periods origin (j.take (.idle wall)) := by
  have deadline := c.deadline
  simp only [take, Monitor.next, IdleTimers.next]
  rcases j.monitor.timers.earliest_cases with ⟨first, _⟩ | ⟨first, _⟩ | ⟨_, _, first, _⟩
  · -- The period is over, so what the deadline promised has passed when the wait ends.
    rw [first]
    have woken : j.monitor.timers.readerDeadline ≤ max j.now j.monitor.timers.readerDeadline :=
      Nat.le_max_right _ _
    have passed := Nat.le_trans deadline woken
    apply Counts.silence
    · exact {
        layout_eq := c.layout_eq
        periods_eq := c.periods_eq
        limit := c.limit
        count := c.count
        deadline := Nat.le_trans passed (Nat.le_add_right _ _)
        lawful := c.lawful }
    · intro _
      refine ⟨passed, ?_⟩
      rw [← c.periods_eq]
      exact Nat.le_refl _
  · rw [first]
    refine Counts.beat ?_ wall (by simp)
    exact ⟨c.layout_eq, c.periods_eq, c.limit, c.count, deadline, c.lawful⟩
  · rw [first]
    refine Counts.beat ?_ wall (by simp)
    exact ⟨c.layout_eq, c.periods_eq, c.limit, c.count, deadline, c.lawful⟩

theorem Counts.take (c : Counts layout periods origin j) (call : Call) :
    Counts layout periods origin (j.take call) := by
  cases call with
  | inbound wall p => exact c.inbound wall p
  | outbound => exact c.outbound
  | advance ms => exact ⟨c.layout_eq, c.periods_eq, c.limit, c.count, c.deadline, c.lawful⟩
  | idle wall => exact c.idle wall
  | told wall event =>
    by_cases silence : event = .reader
    · subst silence
      apply c.silence wall
      intro timed
      cases timed
    · exact c.beat wall silence

theorem run_counts (layout : Layout) (periods : Heartbeats) (origin : Time) (calls : List Call) :
    Counts layout periods origin ((start layout periods origin).run calls) := by
  have runs (calls : List Call) : ∀ {j : Journal}, Counts layout periods origin j →
      Counts layout periods origin (j.run calls) := by
    induction calls with
    | nil => exact id
    | cons call calls ih => exact fun c => ih (c.take call)
  exact runs calls (start_counts layout periods origin)

theorem Unprompted.cons (unprompted : Unprompted entries) (new : e.isSilence → e.isTimed) :
    Unprompted (e :: entries) := by
  intro e' member
  rcases List.mem_cons.mp member with rfl | old
  · exact new
  · exact unprompted e' old

theorem take_unprompted (unprompted : Unprompted j.entries) {call : Call}
    (untold : ∀ wall event, .told wall event ≠ call) : Unprompted (j.take call).entries := by
  cases call with
  | inbound => exact unprompted.cons (by simp [Entry.isSilence])
  | outbound => exact unprompted.cons (by simp [Entry.isSilence])
  | advance => exact unprompted
  | idle => exact unprompted.cons fun _ => rfl
  | told wall event => exact absurd rfl (untold wall event)

theorem run_unprompted {calls : List Call} (untold : ∀ wall event, .told wall event ∉ calls)
    (unprompted : Unprompted j.entries) : Unprompted (j.run calls).entries := by
  induction calls generalizing j with
  | nil => exact unprompted
  | cons call calls ih =>
    apply ih
    · exact fun wall event member => untold wall event (List.mem_cons_of_mem _ member)
    · apply take_unprompted unprompted
      rintro wall event rfl
      exact untold wall event List.mem_cons_self

/-! ### When the link is given up -/

/-- For every order of calls: the end of a period is answered with the number of periods of silence that have
ended since a frame was heard, and the link is given up when and only when that number has reached
the limit. Nothing else changes the number. Each period that the timers told has taken its time, so the
link is not given up before the limit of whole periods has passed, unless somebody else told of silence
since a frame was heard. -/
theorem closed_when_due (layout : Layout) (periods : Heartbeats) (origin : Time) (calls : List Call) :
    let limit := max 1 periods.maxMissed
    let j := (start layout periods origin).run calls
    j.monitor.missed.count = tally (silences j.entries) ∧
    (silences j.entries < UInt32.size → j.monitor.missed.count.toNat = silences j.entries) ∧
    (∀ call e, (j.take call).entries = e :: j.entries → e.isHeard = false → e.isSilence = false →
      (j.take call).monitor.missed.count = j.monitor.missed.count) ∧
    ∀ later event (timed : Bool) now asked earlier,
      j.entries = later ++ .idled event timed now asked :: earlier →
      (event = .reader → asked =
        if limit.toNat ≤ silences earlier + 1 then .close (tally (silences earlier + 1))
        else .missed (tally (silences earlier + 1))) ∧
      (event ≠ .reader → ∃ wall, asked = .heartbeat (Heartbeat.request layout wall)) ∧
      (event = .reader → timed →
        lastHeard origin earlier + (measured earlier + 1) * periods.readerIdle ≤ now) ∧
      (∀ count, asked = .close count → timed →
        (∀ wall event, .told wall event ∉ calls) ∨ Unprompted (sinceHeard earlier) →
        lastHeard origin earlier + limit.toNat * periods.readerIdle ≤ now) := by
  intro limit j
  have c : Counts layout periods origin j := run_counts layout periods origin calls
  refine ⟨c.count, fun word => c.count ▸ toNat_tally_of_lt word, ?_, ?_⟩
  · intro call e recorded unheard other
    have after := c.take call
    have count := after.count
    rw [recorded, silences_cons unheard, other] at count
    exact count.trans c.count.symm
  · intro later event timed now asked earlier split
    have lawful := c.lawful later _ earlier split
    refine ⟨?_, ?_, ?_, ?_⟩
    · rintro rfl
      exact lawful.1
    · intro beat
      cases event with
      | reader => exact absurd rfl beat
      | _ => exact lawful
    · rintro rfl isTimed
      exact lawful.2 isTimed
    · rintro count rfl isTimed (untold | unprompted)
      · have all : Unprompted j.entries := run_unprompted untold (by simp [Unprompted, start])
        rw [split] at all
        apply lawful.closed_late isTimed
        intro e member
        have before := List.takeWhile_subset _ member
        exact all e (List.mem_append_right _ (List.mem_cons_of_mem _ before))
      · exact lawful.closed_late isTimed unprompted

namespace Tardy

/-! Two events that are noticed late, and a write between them. -/

def heartbeats : Heartbeats := ⟨10, 40, none, 2⟩

def calls : List Call :=
  [.advance 3, .inbound 0 (Heartbeat.request .gateway 0), .advance 25, .idle 0, .outbound, .idle 0]

def before : List Entry := [.wrote 28, .idled .reader true 28 (.missed 1), .heard 3]

end Tardy

theorem tardy_close : let j := (start .gateway Tardy.heartbeats 0).run Tardy.calls
    j.entries = .idled .reader true 38 (.close 2) :: Tardy.before ∧
    (∀ wall event, .told wall event ∉ Tardy.calls) ∧
    lastHeard 0 Tardy.before + 2 * Tardy.heartbeats.readerIdle ≤ 38 := by
  intro j
  have entries : j.entries = [] ++ .idled .reader true 38 (.close 2) :: Tardy.before := by decide +kernel
  have untold : ∀ wall event, .told wall event ∉ Tardy.calls := by simp [Tardy.calls]
  obtain ⟨_, _, _, told⟩ := closed_when_due .gateway Tardy.heartbeats 0 Tardy.calls
  obtain ⟨_, _, _, patient⟩ := told [] .reader true 38 (.close 2) Tardy.before entries
  exact ⟨entries, untold, patient 2 rfl rfl (Or.inl untold)⟩

end Journal

end SessionGateway.Liveness
