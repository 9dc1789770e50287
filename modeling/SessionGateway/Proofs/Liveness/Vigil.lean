import SessionGateway.Proofs.Liveness.LivingPeer

/-! A link without business. Nothing is written on it but heartbeats and nothing is read but the answers to
them, and every idle event is taken when it is due. A peer that never answers is given up at the end of its last
period of silence, and no heartbeat sent to it before moves that instant. A peer that answers is given up
only if the first heartbeat comes too late to save it. -/
namespace SessionGateway.Liveness

open Wire

/-- What a peer sends in the instant in which it receives a frame. -/
abbrev Peer := Packet → Option Packet

def Peer.silent : Peer := fun _ => none

def Peer.answering (wall : Heartbeat.WallClock) : Peer := fun asked => some (Heartbeat.response asked wall)

/-- Does what an idle event asks for. A frame that the peer sends over it is read in the same instant. -/
def Monitor.carryOut (m : Monitor) (now : Time) (wall : Heartbeat.WallClock) (peer : Peer) :
    IdleAction → Monitor
  | .heartbeat p =>
    match peer p with
    | some answer => ((m.onOutbound now).onInbound now wall answer).2
    | none => m.onOutbound now
  | .missed _ => m
  | .close _ => m

def Monitor.carryOut? (m : Monitor) (last now : Time) (wall : Heartbeat.WallClock) (peer : Peer) :
    IdleAction → Option Monitor
  | .heartbeat p => do
    let m ← m.onOutbound? last now
    match peer p with
    | some answer => return (← m.onInbound? last now wall answer).2
    | none => return m
  | .missed _ => some m
  | .close _ => some m

theorem Monitor.carryOut?_gives (m : Monitor) (last now : Time) (wall : Heartbeat.WallClock) (peer : Peer)
    (action : IdleAction) :
    Gives (m.timers.periods.Fit last now) (m.carryOut? last now wall peer action)
      (m.carryOut now wall peer action) := by
  cases action with
  | heartbeat p =>
    have written := m.onOutbound?_gives last now
    unfold Monitor.carryOut? Monitor.carryOut
    dsimp only
    split
    · exact written.bind (((m.onOutbound now).onInbound?_gives last now wall _).bind (.pure _))
    · exact written.bind (.pure _)
  | missed => exact .pure m
  | close => exact .pure m

theorem Monitor.periods_carryOut (m : Monitor) (now : Time) (wall : Heartbeat.WallClock) (peer : Peer)
    (action : IdleAction) : (m.carryOut now wall peer action).timers.periods = m.timers.periods := by
  cases action with
  | heartbeat p =>
    unfold Monitor.carryOut
    dsimp only
    split
    · rw [Monitor.onInbound_snd]
      rfl
    · rfl
  | missed => rfl
  | close => rfl

def IdleAction.closes : IdleAction → Bool
  | .close _ => true
  | _ => false

/-- When periods of silence ended, and how many there had been then. -/
def misses (record : List (Time × IdleAction)) : List (Time × UInt32) :=
  record.filterMap fun
    | (instant, .missed count) => some (instant, count)
    | _ => none

def beats (record : List (Time × IdleAction)) : List Time :=
  record.filterMap fun
    | (instant, .heartbeat _) => some instant
    | _ => none

/-- When the link was given up, and after how many periods of silence. -/
def closings (record : List (Time × IdleAction)) : List (Time × UInt32) :=
  record.filterMap fun
    | (instant, .close count) => some (instant, count)
    | _ => none

structure Vigil where
  monitor : Monitor
  now : Time
  /-- What the idle events asked for, each with its instant, earliest first. -/
  record : List (Time × IdleAction)
  closed : Bool

namespace Vigil

def start (layout : Layout) (periods : Heartbeats) (now : Time) : Vigil where
  monitor := .start layout periods now
  now
  record := []
  closed := false

/-- Waits for the next idle event and acts on it. Nothing happens on a closed link. -/
def turn (v : Vigil) (wall : Heartbeat.WallClock) (peer : Peer) : Vigil :=
  if v.closed then v
  else
    let (event, now, m) := v.monitor.next v.now
    let (action, m) := m.onIdle wall event
    { monitor := m.carryOut now wall peer action, now, record := v.record ++ [(now, action)]
      closed := action.closes }

def run (v : Vigil) (walls : Nat → Heartbeat.WallClock) (peers : Nat → Peer) : Nat → Vigil
  | 0 => v
  | n + 1 => (v.run walls peers n).turn (walls n) (peers n)

/-! The same where the clock ends. -/

def start? (layout : Layout) (periods : Heartbeats) (last now : Time) : Option Vigil := do
  return { monitor := ← Monitor.start? layout periods last now, now, record := [], closed := false }

def turn? (last : Time) (v : Vigil) (wall : Heartbeat.WallClock) (peer : Peer) : Option Vigil :=
  if v.closed then some v
  else do
    let (event, now, m) ← v.monitor.next? last v.now
    let (action, m) := m.onIdle wall event
    return {
      monitor := ← m.carryOut? last now wall peer action, now, record := v.record ++ [(now, action)]
      closed := action.closes }

def run? (layout : Layout) (periods : Heartbeats) (last origin : Time) (walls : Nat → Heartbeat.WallClock)
    (peers : Nat → Peer) : Nat → Option Vigil
  | 0 => start? layout periods last origin
  | n + 1 => do (← run? layout periods last origin walls peers n).turn? last (walls n) (peers n)

theorem timers_onIdle (m : Monitor) (wall : Heartbeat.WallClock) (event : IdleEvent) :
    (m.onIdle wall event).2.timers = m.timers := by
  cases event <;> rfl

theorem periods_restart (t : IdleTimers) (now : Time) (event : IdleEvent) :
    (t.restart now event).periods = t.periods := by
  cases event <;> rfl

theorem periods_turn (v : Vigil) (wall : Heartbeat.WallClock) (peer : Peer) :
    (v.turn wall peer).monitor.timers.periods = v.monitor.timers.periods := by
  unfold turn
  split
  · rfl
  · dsimp only
    rw [Monitor.periods_carryOut, timers_onIdle]
    exact periods_restart _ _ _

theorem now_le_turn (v : Vigil) (wall : Heartbeat.WallClock) (peer : Peer) : v.now ≤ (v.turn wall peer).now := by
  unfold turn
  split
  · exact Nat.le_refl _
  · exact Nat.le_max_left _ _

theorem turn?_gives (last : Time) (v : Vigil) (wall : Heartbeat.WallClock) (peer : Peer) :
    Gives (v.monitor.timers.periods.Fit last (v.turn wall peer).now) (v.turn? last wall peer)
      (v.turn wall peer) := by
  unfold turn? turn
  split
  · exact .pure v
  · refine (v.monitor.next?_gives last v.now).bind ?_
    rcases woken : v.monitor.next v.now with ⟨event, now, m⟩
    have same : m.timers.periods = v.monitor.timers.periods := by
      have restarted : (v.monitor.next v.now).2.2.timers.periods = v.monitor.timers.periods :=
        periods_restart _ _ _
      rwa [woken] at restarted
    have acted := (m.onIdle wall event).2.carryOut?_gives last now wall peer (m.onIdle wall event).1
    rw [timers_onIdle, same] at acted
    exact acted.bind (.pure _)

variable {layout : Layout} {periods : Heartbeats} {last origin : Time}
  {walls : Nat → Heartbeat.WallClock} {peers : Nat → Peer}

theorem periods_run (n : Nat) : ((start layout periods origin).run walls peers n).monitor.timers.periods = periods := by
  induction n with
  | zero => rfl
  | succ n ih => exact (periods_turn _ _ _).trans ih

theorem now_le_run {v : Vigil} {m n : Nat} (earlier : m ≤ n) : (v.run walls peers m).now ≤ (v.run walls peers n).now := by
  induction earlier with
  | refl => exact Nat.le_refl _
  | step _ ih => exact Nat.le_trans ih (now_le_turn _ _ _)

theorem run?_gives (n : Nat) :
    Gives (periods.Fit last ((start layout periods origin).run walls peers n).now)
      (run? layout periods last origin walls peers n) ((start layout periods origin).run walls peers n) := by
  induction n with
  | zero => exact ((Monitor.start?_gives last origin layout periods).bind (.pure _))
  | succ n ih =>
    have turned := turn?_gives last ((start layout periods origin).run walls peers n) (walls n) (peers n)
    rw [periods_run] at turned
    exact (ih.weaken fun fit => fit.earlier (now_le_turn _ _ _)).bind turned

theorem turn_closed {v : Vigil} (closed : v.closed = true) (wall : Heartbeat.WallClock) (peer : Peer) :
    v.turn wall peer = v := by
  rw [turn, if_pos closed]

theorem turn_open {v : Vigil} (notClosed : v.closed = false) {event : IdleEvent} {deadline : Time}
    (due : v.monitor.timers.earliest = (event, deadline)) (early : v.now ≤ deadline)
    (wall : Heartbeat.WallClock) (peer : Peer) :
    v.turn wall peer =
      let asked := { v.monitor with timers := v.monitor.timers.restart deadline event }.onIdle wall event
      { monitor := asked.2.carryOut deadline wall peer asked.1
        now := deadline
        record := v.record ++ [(deadline, asked.1)]
        closed := asked.1.closes } := by
  have woken : max v.now deadline = deadline := Nat.max_eq_right early
  simp only [turn, notClosed, Bool.false_eq_true, if_false, Monitor.next, IdleTimers.next, due, woken]

/-! ### What the deadlines tell -/

/-- The link is open, its peer was last heard at `heard`, `missed` periods of silence have ended since, and a
heartbeat was last written at `spoke`. -/
structure Abides (periods : Heartbeats) (heard spoke : Time) (missed : Nat) (v : Vigil) : Prop where
  notClosed : v.closed = false
  periods_eq : v.monitor.timers.periods = periods
  limit : v.monitor.missed.limit = max 1 periods.maxMissed
  count : v.monitor.missed.count.toNat = missed
  patient : missed < (max 1 periods.maxMissed).toNat
  reader : v.monitor.timers.readerDeadline = heard + (missed + 1) * periods.readerIdle
  writer : v.monitor.timers.writerDeadline = spoke + periods.writerIdle
  all : v.monitor.timers.allDeadline = periods.allIdle.map (spoke + ·)
  early : v.now ≤ heard + (missed + 1) * periods.readerIdle ∧ v.now ≤ spoke + periods.quiet

variable {v : Vigil} {heard spoke : Time} {missed : Nat} {wall : Heartbeat.WallClock} {peer : Peer}

theorem start_abides (layout : Layout) (periods : Heartbeats) (origin : Time) :
    Abides periods origin origin 0 (start layout periods origin) where
  notClosed := rfl
  periods_eq := rfl
  limit := rfl
  count := rfl
  patient := UInt32.lt_iff_toNat_lt.mp (Missed.start_patient periods.maxMissed)
  reader := by simp [start, Monitor.start, IdleTimers.start]
  writer := rfl
  all := rfl
  early := ⟨Nat.le_add_right _ _, Nat.le_add_right _ _⟩

theorem Abides.due_reader (b : Abides periods heard spoke missed v)
    (first : heard + (missed + 1) * periods.readerIdle ≤ spoke + periods.quiet) :
    v.monitor.timers.earliest = (.reader, heard + (missed + 1) * periods.readerIdle) := by
  obtain rfl := b.periods_eq
  rcases IdleTimers.due_cases b.writer b.all with ⟨reader, _⟩ | ⟨_, _, _, sooner⟩
  · rw [reader, b.reader]
  · rw [b.reader] at sooner
    exact absurd first (Nat.not_le.mpr sooner)

theorem Abides.due_beat (b : Abides periods heard spoke missed v)
    (first : spoke + periods.quiet < heard + (missed + 1) * periods.readerIdle) :
    ∃ event, event ≠ .reader ∧ v.monitor.timers.earliest = (event, spoke + periods.quiet) := by
  obtain rfl := b.periods_eq
  rcases IdleTimers.due_cases b.writer b.all with ⟨_, sooner⟩ | ⟨event, beat, due, _⟩
  · rw [b.reader] at sooner
    exact absurd sooner (Nat.not_le.mpr first)
  · exact ⟨event, beat, due⟩

theorem Abides.count_more (b : Abides periods heard spoke missed v) :
    v.monitor.missed.more.count = UInt32.ofNat (missed + 1) := by
  have patient : v.monitor.missed.count < v.monitor.missed.limit := by
    rw [UInt32.lt_iff_toNat_lt, b.limit, b.count]
    exact b.patient
  have counted := Missed.toNat_count_more patient
  rw [b.count] at counted
  rw [← counted, UInt32.ofNat_toNat]

theorem Abides.miss (b : Abides periods heard spoke missed v) (wall : Heartbeat.WallClock) (peer : Peer)
    (first : heard + (missed + 1) * periods.readerIdle ≤ spoke + periods.quiet)
    (more : missed + 1 < (max 1 periods.maxMissed).toNat) :
    Abides periods heard spoke (missed + 1) (v.turn wall peer) ∧
    (v.turn wall peer).record = v.record ++
      [(heard + (missed + 1) * periods.readerIdle, .missed (.ofNat (missed + 1)))] := by
  have count := b.count_more
  have counted : (UInt32.ofNat (missed + 1)).toNat = missed + 1 :=
    UInt32.toNat_ofNat_of_lt (Nat.lt_trans more (UInt32.toNat_lt _))
  have patient : v.monitor.missed.more.exhausted = false := by
    have limit : v.monitor.missed.more.limit = max 1 periods.maxMissed := b.limit
    rw [Missed.exhausted, limit, count, decide_eq_false_iff_not, UInt32.not_le, UInt32.lt_iff_toNat_lt,
      counted]
    exact more
  have turned := turn_open b.notClosed (b.due_reader first) b.early.1 wall peer
  simp only [Monitor.onIdle, patient, count, Bool.false_eq_true, if_false] at turned
  rw [turned]
  refine ⟨?_, rfl⟩
  exact {
    notClosed := rfl
    periods_eq := b.periods_eq
    limit := b.limit
    count := (congrArg UInt32.toNat count).trans counted
    patient := more
    reader := by
      simp only [Monitor.carryOut, IdleTimers.restart, b.periods_eq]
      rw [Nat.add_assoc, ← Nat.succ_mul]
    writer := b.writer
    all := b.all
    early := ⟨Nat.add_le_add_left (Nat.mul_le_mul_right _ (Nat.le_succ _)) _, first⟩ }

theorem Abides.close (b : Abides periods heard spoke missed v) (wall : Heartbeat.WallClock) (peer : Peer)
    (first : heard + (missed + 1) * periods.readerIdle ≤ spoke + periods.quiet)
    (last : missed + 1 = (max 1 periods.maxMissed).toNat) :
    (v.turn wall peer).closed = true ∧ (v.turn wall peer).now = heard + periods.patience ∧
    (v.turn wall peer).record =
      v.record ++ [(heard + periods.patience, .close (max 1 periods.maxMissed))] := by
  have count := b.count_more
  rw [last, UInt32.ofNat_toNat] at count
  have exhausted : v.monitor.missed.more.exhausted = true := by
    have limit : v.monitor.missed.more.limit = max 1 periods.maxMissed := b.limit
    rw [Missed.exhausted, limit, count]
    exact decide_eq_true (UInt32.le_refl _)
  have turned := turn_open b.notClosed (b.due_reader first) b.early.1 wall peer
  simp only [Monitor.onIdle, exhausted, count, if_true] at turned
  rw [turned, Heartbeats.patience, ← last]
  exact ⟨rfl, rfl, rfl⟩

theorem Abides.beat (b : Abides periods heard spoke missed v) (wall : Heartbeat.WallClock) (peer : Peer)
    (first : spoke + periods.quiet < heard + (missed + 1) * periods.readerIdle) :
    (v.turn wall peer).record = v.record ++
      [(spoke + periods.quiet, .heartbeat (Heartbeat.request v.monitor.layout wall))] ∧
    (peer = .silent → Abides periods heard (spoke + periods.quiet) missed (v.turn wall peer)) ∧
    (∀ theirs, peer = .answering theirs →
      Abides periods (spoke + periods.quiet) (spoke + periods.quiet) 0 (v.turn wall peer)) := by
  obtain ⟨event, beat, due⟩ := b.due_beat first
  have turned := turn_open b.notClosed due b.early.2 wall peer
  have asked (m : Monitor) : m.onIdle wall event = (.heartbeat (Heartbeat.request m.layout wall), m) := by
    cases event with
    | reader => exact absurd rfl beat
    | writer => rfl
    | all => rfl
  simp only [asked] at turned
  rw [turned]
  refine ⟨rfl, ?_, ?_⟩
  · rintro rfl
    have written : (v.monitor.timers.restart (spoke + periods.quiet) event).onWrite
        (spoke + periods.quiet) = v.monitor.timers.onWrite (spoke + periods.quiet) := by
      cases event with
      | reader => exact absurd rfl beat
      | writer => rfl
      | all => rfl
    simp only [Monitor.carryOut, Peer.silent, Monitor.onOutbound, written]
    exact {
      notClosed := rfl
      periods_eq := b.periods_eq
      limit := b.limit
      count := b.count
      patient := b.patient
      reader := b.reader
      writer := by
        rw [← b.periods_eq]
        rfl
      all := by
        rw [← b.periods_eq]
        rfl
      early := ⟨Nat.le_of_lt first, Nat.le_add_right _ _⟩ }
  · rintro theirs rfl
    have fresh := v.monitor.timers.restart_onWrite_onRead (spoke + periods.quiet) event
    simp only [Monitor.carryOut, Peer.answering, Monitor.onInbound_snd, Monitor.onOutbound, fresh,
      b.periods_eq]
    have anew := start_abides v.monitor.layout periods (spoke + periods.quiet)
    exact {
      notClosed := rfl
      periods_eq := rfl
      limit := b.limit
      count := rfl
      patient := anew.patient
      reader := anew.reader
      writer := rfl
      all := rfl
      early := anew.early }

@[simp] theorem misses_append (record record' : List (Time × IdleAction)) :
    misses (record ++ record') = misses record ++ misses record' := List.filterMap_append

@[simp] theorem beats_append (record record' : List (Time × IdleAction)) :
    beats (record ++ record') = beats record ++ beats record' := List.filterMap_append

@[simp] theorem closings_append (record record' : List (Time × IdleAction)) :
    closings (record ++ record') = closings record ++ closings record' := List.filterMap_append

def silences (periods : Heartbeats) (origin : Time) (n : Nat) : List (Time × UInt32) :=
  (List.range n).map fun i => (origin + (i + 1) * periods.readerIdle, .ofNat (i + 1))

/-- The first `n` heartbeats, each sent when the link has been quiet since the one before. -/
def pulse (periods : Heartbeats) (origin : Time) (n : Nat) : List Time :=
  (List.range n).map fun k => origin + (k + 1) * periods.quiet

theorem silences_succ (periods : Heartbeats) (origin : Time) (n : Nat) :
    silences periods origin (n + 1) =
      silences periods origin n ++ [(origin + (n + 1) * periods.readerIdle, .ofNat (n + 1))] := by
  simp [silences, List.range_succ]

theorem pulse_succ (periods : Heartbeats) (origin : Time) (n : Nat) :
    pulse periods origin (n + 1) = pulse periods origin n ++ [origin + (n + 1) * periods.quiet] := by
  simp [pulse, List.range_succ]

theorem quiet_again (periods : Heartbeats) (origin : Time) (sent : Nat) :
    origin + sent * periods.quiet + periods.quiet = origin + (sent + 1) * periods.quiet := by
  rw [Nat.add_assoc, ← Nat.succ_mul]

/-! ### A peer that is never heard -/

/-- After `missed` periods of silence and `sent` heartbeats the peer has not been heard once. -/
structure Unheard (periods : Heartbeats) (origin : Time) (missed sent : Nat) (v : Vigil) : Prop where
  abides : Abides periods origin (origin + sent * periods.quiet) missed v
  misses_eq : misses v.record = silences periods origin missed
  beats_eq : beats v.record = pulse periods origin sent
  kept : closings v.record = []

/-- The link is closed from the `n`th turn on: that turn took the end of the last period of silence, and
`sent` heartbeats had been sent before. -/
structure Lost (periods : Heartbeats) (origin : Time) (sent n : Nat) (after : Nat → Vigil) : Prop where
  closed : ∀ j, (after j).closed = true ↔ n ≤ j
  now : (after n).now = origin + periods.patience
  record : ∃ earlier,
    (after n).record = earlier ++ [(origin + periods.patience, .close (max 1 periods.maxMissed))] ∧
    closings earlier = [] ∧
    misses earlier = silences periods origin ((max 1 periods.maxMissed).toNat - 1) ∧
    beats earlier = pulse periods origin sent

variable {sent n : Nat}

theorem start_unheard (layout : Layout) (periods : Heartbeats) (origin : Time) :
    Unheard periods origin 0 0 (start layout periods origin) where
  abides := by simpa using start_abides layout periods origin
  misses_eq := rfl
  beats_eq := rfl
  kept := rfl

theorem Unheard.miss (u : Unheard periods origin missed sent v)
    (first : (missed + 1) * periods.readerIdle ≤ (sent + 1) * periods.quiet)
    (more : missed + 1 < (max 1 periods.maxMissed).toNat) :
    Unheard periods origin (missed + 1) sent (v.turn wall peer) := by
  have due := Nat.add_le_add_left first origin
  rw [← quiet_again] at due
  obtain ⟨abides, record⟩ := u.abides.miss wall peer due more
  refine ⟨abides, ?_, ?_, ?_⟩
  · rw [record, misses_append, u.misses_eq, silences_succ]
    rfl
  · rw [record, beats_append, u.beats_eq]
    exact List.append_nil _
  · rw [record, closings_append, u.kept]
    rfl

theorem Unheard.beat (u : Unheard periods origin missed sent v)
    (first : (sent + 1) * periods.quiet < (missed + 1) * periods.readerIdle) :
    Unheard periods origin missed (sent + 1) (v.turn wall .silent) := by
  have due := Nat.add_lt_add_left first origin
  rw [← quiet_again] at due
  obtain ⟨record, silent, _⟩ := u.abides.beat wall .silent due
  have abides := silent rfl
  rw [quiet_again] at abides record
  refine ⟨abides, ?_, ?_, ?_⟩
  · rw [record, misses_append, u.misses_eq]
    exact List.append_nil _
  · rw [record, beats_append, u.beats_eq, pulse_succ]
    rfl
  · rw [record, closings_append, u.kept]
    rfl

theorem run_closed (closed : (v.run walls peers n).closed = true) {later : Nat} (after : n ≤ later) :
    v.run walls peers later = v.run walls peers n := by
  induction after with
  | refl => rfl
  | step _ ih => rw [run, ih, turn_closed closed]

theorem Unheard.lost (notClosed : ∀ j, j ≤ n → (v.run walls peers j).closed = false)
    (u : Unheard periods origin missed sent (v.run walls peers n))
    (first : (missed + 1) * periods.readerIdle ≤ (sent + 1) * periods.quiet)
    (last : missed + 1 = (max 1 periods.maxMissed).toNat) :
    Lost periods origin sent (n + 1) (v.run walls peers) := by
  have due := Nat.add_le_add_left first origin
  rw [← quiet_again] at due
  obtain ⟨closed, now, record⟩ := u.abides.close (walls n) (peers n) due last
  have turned : v.run walls peers (n + 1) = (v.run walls peers n).turn (walls n) (peers n) := rfl
  rw [← turned] at closed now record
  refine ⟨?_, now, _, record, u.kept, ?_, u.beats_eq⟩
  · intro j
    constructor
    · intro given
      apply Nat.lt_of_not_le
      intro sooner
      exact absurd (given.symm.trans (notClosed j sooner)) (by decide)
    · intro late
      exact (congrArg Vigil.closed (run_closed closed late)).trans closed
  · rw [u.misses_eq, ← last]
    rfl

/-- Each turn counts one more period of silence or one more heartbeat, until the link is closed. Every
heartbeat was sent before the end of the silence it fell in, and the next one is due only after it. -/
theorem silent_run (layout : Layout) (origin : Time) (reader : 0 < periods.readerIdle)
    (walls : Nat → Heartbeat.WallClock) (n : Nat) :
    let after := (start layout periods origin).run walls fun _ => .silent
    (∃ missed sent, missed + sent = n ∧ Unheard periods origin missed sent (after n) ∧
      sent * periods.quiet < (missed + 1) * periods.readerIdle ∧
      ∀ j, j ≤ n → (after j).closed = false) ∨
    ∃ sent last, Lost periods origin sent last after ∧
      sent * periods.quiet < periods.patience ∧ periods.patience ≤ (sent + 1) * periods.quiet := by
  intro after
  induction n with
  | zero =>
    refine Or.inl ⟨0, 0, rfl, start_unheard layout periods origin, by simpa using reader, ?_⟩
    intro j first
    rw [Nat.le_zero.mp first]
    rfl
  | succ n ih =>
    rcases ih with ⟨missed, sent, rfl, unheard, sooner, notClosed⟩ | lost
    · have extended (more : (after (missed + sent + 1)).closed = false) :
          ∀ j, j ≤ missed + sent + 1 → (after j).closed = false := by
        intro j before
        rcases Nat.le_succ_iff.mp before with earlier | rfl
        · exact notClosed j earlier
        · exact more
      by_cases first : (missed + 1) * periods.readerIdle ≤ (sent + 1) * periods.quiet
      · by_cases more : missed + 1 < (max 1 periods.maxMissed).toNat
        · have longer : Unheard periods origin (missed + 1) sent (after (missed + sent + 1)) :=
            unheard.miss first more
          have later := Nat.mul_le_mul_right periods.readerIdle (Nat.le_succ (missed + 1))
          exact Or.inl ⟨missed + 1, sent, Nat.succ_add _ _, longer, Nat.lt_of_lt_of_le sooner later,
            extended longer.abides.notClosed⟩
        · have last : missed + 1 = (max 1 periods.maxMissed).toNat :=
            Nat.le_antisymm unheard.abides.patient (Nat.le_of_not_lt more)
          have lost := Unheard.lost notClosed unheard first last
          rw [last] at sooner first
          exact Or.inr ⟨sent, _, lost, sooner, first⟩
      · have beaten : Unheard periods origin missed (sent + 1) (after (missed + sent + 1)) :=
          unheard.beat (Nat.lt_of_not_le first)
        exact Or.inl ⟨missed, sent + 1, rfl, beaten, Nat.lt_of_not_le first,
          extended beaten.abides.notClosed⟩
    · exact Or.inr lost

theorem quiet_pos {periods : Heartbeats} (writer : 0 < periods.writerIdle)
    (all : ∀ period, periods.allIdle = some period → 0 < period) : 0 < periods.quiet := by
  unfold Heartbeats.quiet
  cases watched : periods.allIdle with
  | none => exact writer
  | some period => exact Nat.lt_min.mpr ⟨writer, all period watched⟩

theorem Lost.now_le (lost : Lost periods origin sent n ((start layout periods origin).run walls peers))
    (j : Nat) : ((start layout periods origin).run walls peers j).now ≤ origin + periods.patience := by
  rcases Nat.le_total j n with before | after
  · exact lost.now ▸ now_le_run before
  · rw [run_closed ((lost.closed n).mpr (Nat.le_refl n)) after]
    exact Nat.le_of_eq lost.now

/-- A peer that never says a word is given up after exactly as many periods of silence as are allowed, each
noticed at its end. Until then a heartbeat was sent whenever the link had been quiet, and none in the instant in
which the link was closed. The clock has to go on for the periods that begin until then. -/
theorem silent_peer_lost (layout : Layout) (periods : Heartbeats) (last origin : Time)
    (walls : Nat → Heartbeat.WallClock) (reader : 0 < periods.readerIdle)
    (writer : 0 < periods.writerIdle) (all : ∀ period, periods.allIdle = some period → 0 < period)
    (fit : periods.Fit last (origin + periods.patience)) :
    ∃ after, (∀ n, run? layout periods last origin walls (fun _ => .silent) n = some (after n)) ∧
      ∃ sent n, Lost periods origin sent n after ∧
        ∀ k, 1 ≤ k →
          (k ≤ sent ↔ k * periods.quiet < (max 1 periods.maxMissed).toNat * periods.readerIdle) := by
  have quiet := quiet_pos writer all
  rcases silent_run layout origin reader walls
      ((max 1 periods.maxMissed).toNat + periods.patience) with
    ⟨missed, sent, turns, unheard, sooner, _⟩ | ⟨sent, n, lost, inTime, tooLate⟩
  · -- So many turns do not fit in before the end of the last period of silence.
    have short := Nat.lt_of_lt_of_le sooner (Nat.mul_le_mul_right _ unheard.abides.patient)
    have fewer := Nat.lt_of_le_of_lt (Nat.le_mul_of_pos_right sent quiet) short
    exact absurd turns (Nat.ne_of_lt (Nat.add_lt_add unheard.abides.patient fewer))
  · refine ⟨_, fun j => (run?_gives j).given (fit.earlier (lost.now_le j)), sent, n, lost, ?_⟩
    intro k _
    constructor
    · intro before
      exact Nat.lt_of_le_of_lt (Nat.mul_le_mul_right _ before) inTime
    · intro before
      apply Nat.le_of_not_lt
      intro beyond
      have after := Nat.mul_le_mul_right periods.quiet (Nat.succ_le_of_lt beyond)
      exact absurd (Nat.le_trans tooLate after) (Nat.not_le.mpr before)

theorem silence_ends_after_thirty : 0 < Watch.Brisk.heartbeats.readerIdle ∧
    0 < Watch.Brisk.heartbeats.writerIdle ∧
    (∀ period, Watch.Brisk.heartbeats.allIdle = some period → 0 < period) ∧
    Watch.Brisk.heartbeats.Fit 40 (0 + Watch.Brisk.heartbeats.patience) ∧
    ∃ n v earlier, run? .gateway Watch.Brisk.heartbeats 40 0 (fun _ => 0) (fun _ => .silent) n = some v ∧
      v.record = earlier ++ [(30, .close 3)] ∧
      misses earlier = [(10, 1), (20, 2)] ∧ beats earlier = [4, 8, 12, 16, 20, 24, 28] := by
  have all : ∀ period, Watch.Brisk.heartbeats.allIdle = some period → 0 < period := by
    rintro period ⟨⟩
  have fit : Watch.Brisk.heartbeats.Fit 40 (0 + Watch.Brisk.heartbeats.patience) := by
    rintro (_ | _ | _) period ⟨⟩ <;> decide
  obtain ⟨after, ran, sent, n, lost, counted⟩ :=
    silent_peer_lost .gateway Watch.Brisk.heartbeats 40 0 (fun _ => 0) (by decide) (by decide) all fit
  have seven : 7 ≤ sent := (counted 7 (by decide)).mpr (by decide)
  have eight : ¬8 ≤ sent := fun more => absurd ((counted 8 (by decide)).mp more) (by decide)
  obtain rfl : sent = 7 := Nat.le_antisymm (Nat.le_of_not_lt eight) seven
  obtain ⟨earlier, record, _, misses_eq, beats_eq⟩ := lost.record
  exact ⟨by decide, by decide, all, fit, n, after n, earlier, ran n, record, misses_eq, beats_eq⟩

/-! ### A peer that answers -/

/-- Each of the first `sent` heartbeats was answered, and `missed` periods of silence have ended since. -/
structure Exchanged (periods : Heartbeats) (origin : Time) (sent missed : Nat) (v : Vigil) : Prop where
  abides : Abides periods (origin + sent * periods.quiet) (origin + sent * periods.quiet) missed v
  beats_eq : beats v.record = pulse periods origin sent

theorem start_exchanged (layout : Layout) (periods : Heartbeats) (origin : Time) :
    Exchanged periods origin 0 0 (start layout periods origin) where
  abides := by simpa using start_abides layout periods origin
  beats_eq := rfl

/-- The periods of silence that fit between two heartbeats end, and then the next heartbeat is answered. -/
theorem Exchanged.turn (e : Exchanged periods origin sent missed v)
    (short : periods.quiet < periods.patience) (wall theirs : Heartbeat.WallClock) :
    if (missed + 1) * periods.readerIdle ≤ periods.quiet then
      Exchanged periods origin sent (missed + 1) (v.turn wall (.answering theirs))
    else Exchanged periods origin (sent + 1) 0 (v.turn wall (.answering theirs)) := by
  split
  · rename_i fits
    have more : missed + 1 < (max 1 periods.maxMissed).toNat :=
      Nat.lt_of_mul_lt_mul_right (Nat.lt_of_le_of_lt fits short)
    obtain ⟨abides, record⟩ := e.abides.miss wall (.answering theirs)
      (Nat.add_le_add_left fits _) more
    refine ⟨abides, ?_⟩
    rw [record, beats_append, e.beats_eq]
    exact List.append_nil _
  · rename_i long
    have first := Nat.add_lt_add_left (Nat.lt_of_not_le long) (origin + sent * periods.quiet)
    obtain ⟨record, _, answered⟩ := e.abides.beat wall (.answering theirs) first
    have abides := answered theirs rfl
    rw [quiet_again] at abides record
    refine ⟨abides, ?_⟩
    rw [record, beats_append, e.beats_eq, pulse_succ]
    rfl

/-- How many idle events there are from one heartbeat to the next. -/
def cycle (periods : Heartbeats) : Nat := periods.quiet / periods.readerIdle + 1

theorem next_in_cycle (length n : Nat) (pos : 0 < length) :
    if n % length + 1 < length then
      (n + 1) / length = n / length ∧ (n + 1) % length = n % length + 1
    else (n + 1) / length = n / length + 1 ∧ (n + 1) % length = 0 := by
  have split : n + 1 = length * (n / length) + (n % length + 1) := by
    rw [← Nat.add_assoc, Nat.div_add_mod]
  split
  · rename_i inside
    rw [split, Nat.mul_add_div pos, Nat.mul_add_mod, Nat.div_eq_of_lt inside, Nat.mod_eq_of_lt inside]
    exact ⟨rfl, rfl⟩
  · rename_i beyond
    have last : n % length + 1 = length :=
      Nat.le_antisymm (Nat.mod_lt n pos) (Nat.le_of_not_lt beyond)
    rw [split, Nat.mul_add_div pos, Nat.mul_add_mod, last, Nat.div_self pos, Nat.mod_self]
    exact ⟨rfl, rfl⟩

theorem exchanged_run (layout : Layout) (origin : Time) (short : periods.quiet < periods.patience)
    (walls theirs : Nat → Heartbeat.WallClock) (n : Nat) :
    Exchanged periods origin (n / cycle periods) (n % cycle periods)
      ((start layout periods origin).run walls (fun i => .answering (theirs i)) n) := by
  have reader : 0 < periods.readerIdle := by
    apply Nat.pos_of_ne_zero
    intro none
    simp [Heartbeats.patience, none] at short
  induction n with
  | zero =>
    rw [Nat.zero_div, Nat.zero_mod]
    exact start_exchanged layout periods origin
  | succ n ih =>
    have turned := ih.turn short (walls n) (theirs n)
    have next := next_in_cycle (cycle periods) n (Nat.succ_pos _)
    have fits : (n % cycle periods + 1) * periods.readerIdle ≤ periods.quiet ↔
        n % cycle periods + 1 < cycle periods := by
      rw [← Nat.le_div_iff_mul_le reader, ← Nat.lt_succ_iff]
      rfl
    by_cases inside : n % cycle periods + 1 < cycle periods
    · rw [if_pos (fits.mpr inside)] at turned
      rw [if_pos inside] at next
      rw [next.1, next.2]
      exact turned
    · rw [if_neg (fun within => inside (fits.mp within))] at turned
      rw [if_neg inside] at next
      rw [next.1, next.2]
      exact turned

theorem unasked_run (layout : Layout) (long : periods.patience ≤ periods.quiet)
    (walls : Nat → Heartbeat.WallClock) (peers : Nat → Peer)
    (more : n < (max 1 periods.maxMissed).toNat) :
    Unheard periods origin n 0 ((start layout periods origin).run walls peers n) := by
  induction n with
  | zero => exact start_unheard layout periods origin
  | succ n ih =>
    have first : (n + 1) * periods.readerIdle ≤ (0 + 1) * periods.quiet := by
      rw [Nat.zero_add, Nat.one_mul]
      exact Nat.le_trans (Nat.mul_le_mul_right _ (Nat.le_of_lt more)) long
    exact (ih (Nat.lt_of_succ_lt more)).miss first more

theorem unasked_lost (layout : Layout) (long : periods.patience ≤ periods.quiet)
    (walls : Nat → Heartbeat.WallClock) (peers : Nat → Peer) :
    Lost periods origin 0 (max 1 periods.maxMissed).toNat
      ((start layout periods origin).run walls peers) := by
  have allowed : 0 < (max 1 periods.maxMissed).toNat :=
    UInt32.lt_iff_toNat_lt.mp (Missed.start_patient periods.maxMissed)
  obtain ⟨before, last⟩ := Nat.exists_eq_succ_of_ne_zero (Nat.ne_of_gt allowed)
  have unasked {j : Nat} (early : j ≤ before) :
      Unheard periods origin j 0 ((start layout periods origin).run walls peers j) := by
    apply unasked_run layout long
    rw [last]
    exact Nat.lt_succ_of_le early
  have first : (before + 1) * periods.readerIdle ≤ (0 + 1) * periods.quiet := by
    rw [Nat.zero_add, Nat.one_mul, ← Nat.succ_eq_add_one, ← last]
    exact long
  rw [last]
  exact Unheard.lost (fun j early => (unasked early).abides.notClosed) (unasked (Nat.le_refl _)) first last.symm

/-- A peer that answers at once is given up if and only if no heartbeat is due before the end of the last period
of silence. If one is, the link lasts and there is an exchange each time it has been quiet. The clock has to go
on for the periods that begin before the link could be closed, and then as long as the link is looked at. -/
theorem quiet_link_boundary (layout : Layout) (periods : Heartbeats) (last origin : Time)
    (walls theirs : Nat → Heartbeat.WallClock) (fit : periods.Fit last (origin + periods.patience)) :
    let limit := (max 1 periods.maxMissed).toNat
    let link := run? layout periods last origin walls fun i => .answering (theirs i)
    ((∃ n v, link n = some v ∧ v.closed = true) ↔ limit * periods.readerIdle ≤ periods.quiet) ∧
    (limit * periods.readerIdle ≤ periods.quiet →
      ∃ after, (∀ n, link n = some (after n)) ∧ Lost periods origin 0 limit after) ∧
    (periods.quiet < limit * periods.readerIdle → ∀ n,
      (periods.Fit last (origin + (n / cycle periods + 1) * periods.quiet) → ∃ v, link n = some v) ∧
      ∀ v, link n = some v → v.closed = false ∧ beats v.record = pulse periods origin (n / cycle periods)) := by
  intro limit link
  let after := (start layout periods origin).run walls fun i => .answering (theirs i)
  have ran (n : Nat) : Gives (periods.Fit last (after n).now) (link n) (after n) := run?_gives n
  have lost (long : periods.patience ≤ periods.quiet) :
      (∀ n, link n = some (after n)) ∧ Lost periods origin 0 limit after := by
    have lost : Lost periods origin 0 limit after := unasked_lost layout long walls _
    exact ⟨fun n => (ran n).given (fit.earlier (lost.now_le n)), lost⟩
  have saved (short : periods.quiet < periods.patience) (n : Nat) :
      (after n).now ≤ origin + (n / cycle periods + 1) * periods.quiet ∧
      (after n).closed = false ∧ beats (after n).record = pulse periods origin (n / cycle periods) := by
    have exchanged := exchanged_run layout origin short walls theirs n
    exact ⟨quiet_again periods origin _ ▸ exchanged.abides.early.2, exchanged.abides.notClosed,
      exchanged.beats_eq⟩
  refine ⟨⟨?_, ?_⟩, fun long => ⟨after, lost long⟩, ?_⟩
  · rintro ⟨n, v, given, closed⟩
    obtain rfl := (ran n).only v given
    apply Nat.le_of_not_lt
    intro short
    exact absurd (closed.symm.trans (saved short n).2.1) (by decide)
  · intro long
    exact ⟨limit, _, (lost long).1 limit, ((lost long).2.closed limit).mpr (Nat.le_refl _)⟩
  · intro short n
    refine ⟨fun longer => ⟨_, (ran n).given (longer.earlier (saved short n).1)⟩, ?_⟩
    intro v given
    obtain rfl := (ran n).only v given
    exact (saved short n).2

/-- With a heartbeat due one millisecond before the last period of silence ends, and with one due in the instant in
which it does. -/
theorem last_moment_decides :
    let sooner := { Watch.Brisk.heartbeats with writerIdle := 29 }
    let later := { Watch.Brisk.heartbeats with writerIdle := 30 }
    let answered := fun periods =>
      run? .gateway periods 150 0 (fun _ => 0) fun _ => .answering 0
    sooner.Fit 150 (0 + sooner.patience) ∧ later.Fit 150 (0 + later.patience) ∧
    sooner.quiet < (max 1 sooner.maxMissed).toNat * sooner.readerIdle ∧
    (∃ v, answered sooner 9 = some v ∧ v.closed = false ∧ beats v.record = [29, 58, 87]) ∧
    (max 1 later.maxMissed).toNat * later.readerIdle ≤ later.quiet ∧
    (∃ v, answered later 3 = some v ∧ v.closed = true ∧ v.now = 30) := by
  intro sooner later answered
  have fits {periods : Heartbeats} (reader : 0 + periods.patience + periods.readerIdle ≤ 150)
      (writer : 0 + periods.patience + periods.writerIdle ≤ 150) (all : periods.allIdle = none) :
      periods.Fit 150 (0 + periods.patience) := by
    rintro (_ | _ | _) period watched
    · cases watched
      exact reader
    · cases watched
      exact writer
    · cases all.symm.trans watched
  have fit : sooner.Fit 150 (0 + sooner.patience) := fits (by decide) (by decide) rfl
  have fit' : later.Fit 150 (0 + later.patience) := fits (by decide) (by decide) rfl
  have short : sooner.quiet < (max 1 sooner.maxMissed).toNat * sooner.readerIdle := by decide
  have long : (max 1 later.maxMissed).toNat * later.readerIdle ≤ later.quiet := by decide
  obtain ⟨given, saved⟩ := (quiet_link_boundary .gateway sooner 150 0 (fun _ => 0) (fun _ => 0) fit).2.2 short 9
  obtain ⟨after, ran, lost⟩ :=
    (quiet_link_boundary .gateway later 150 0 (fun _ => 0) (fun _ => 0) fit').2.1 long
  obtain ⟨v, reached⟩ := given (by rintro (_ | _ | _) period ⟨⟩ <;> decide)
  obtain ⟨kept, beaten⟩ := saved v reached
  exact ⟨fit, fit', short, ⟨v, reached, kept, beaten.trans (by decide)⟩, long, after 3, ran 3,
    (lost.closed 3).mpr (by decide), lost.now⟩

end Vigil

end SessionGateway.Liveness
