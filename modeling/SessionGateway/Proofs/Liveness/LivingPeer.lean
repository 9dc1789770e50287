import SessionGateway.Liveness.Monitor

/-! A peer that lives and says nothing of its own accord. It answers each heartbeat at once, so it is heard
whenever one is sent; but a heartbeat is sent only after a while in which nothing was written, and
business frames, which it does not answer, are written all the same. Frames that follow each other
closely enough keep the heartbeats away until the peer counts as gone. -/
namespace SessionGateway.Liveness

open Wire

namespace Heartbeats

/-- How long a link goes unwritten before a heartbeat is due. -/
def quiet (p : Heartbeats) : Time :=
  match p.allIdle with
  | some period => min p.writerIdle period
  | none => p.writerIdle

theorem quiet_le_writerIdle (p : Heartbeats) : p.quiet ≤ p.writerIdle := by
  unfold quiet
  cases p.allIdle with
  | none => exact Nat.le_refl _
  | some period => exact Nat.min_le_left _ _

theorem quiet_le_allIdle {p : Heartbeats} {period : Time} (watched : p.allIdle = some period) :
    p.quiet ≤ period := by
  rw [quiet, watched]
  exact Nat.min_le_right _ _

/-- How long a link goes unread before its peer counts as gone. -/
def patience (p : Heartbeats) : Time := (max 1 p.maxMissed).toNat * p.readerIdle

end Heartbeats

theorem IdleTimers.due_cases {t : IdleTimers} {spoke : Time}
    (writer : t.writerDeadline = spoke + t.periods.writerIdle)
    (all : t.allDeadline = t.periods.allIdle.map (spoke + ·)) :
    (t.earliest = (.reader, t.readerDeadline) ∧ t.readerDeadline ≤ spoke + t.periods.quiet) ∨
    ∃ event, event ≠ .reader ∧ t.earliest = (event, spoke + t.periods.quiet) ∧
      spoke + t.periods.quiet < t.readerDeadline := by
  unfold Heartbeats.quiet
  rcases t.earliest_cases with ⟨first, toWriter, toAll⟩ | ⟨first, sooner, toAll⟩ |
    ⟨d, hd, first, sooner, toWriter⟩
  · refine Or.inl ⟨first, ?_⟩
    cases watched : t.periods.allIdle with
    | none => exact writer ▸ toWriter
    | some period =>
      have common := toAll (spoke + period) (by rw [all, watched]; rfl)
      grind
  · refine Or.inr ⟨.writer, by decide, ?_⟩
    rw [first, writer]
    cases watched : t.periods.allIdle with
    | none => exact ⟨rfl, writer ▸ sooner⟩
    | some period =>
      have common := toAll (spoke + period) (by rw [all, watched]; rfl)
      grind
  · refine Or.inr ⟨.all, by decide, ?_⟩
    cases watched : t.periods.allIdle with
    | none => simp [all, watched] at hd
    | some period =>
      have common : some (spoke + period) = some d := by simpa [all, watched] using hd
      grind

/-! ### The link -/

inductive Turn where
  /-- A business frame is written. -/
  | write (now : Time)
  /-- The next idle event is taken when it is due. The clocks are those of this side and of the peer. -/
  | idle (mine theirs : Heartbeat.WallClock)

/-- A link as its monitor sees it, and the instants at which business frames were written. -/
structure Watch where
  monitor : Monitor
  now : Time
  written : List Time
  closed : Bool

namespace Watch

def start (layout : Layout) (periods : Heartbeats) (now : Time) : Watch where
  monitor := .start layout periods now
  now
  written := []
  closed := false

/-- What an idle event asks for is done in the same instant, and so is the peer's answer read. -/
def act (w : Watch) (mine theirs : Heartbeat.WallClock) : IdleAction → Watch
  | .heartbeat p =>
    let m := w.monitor.onOutbound w.now
    { w with monitor := (m.onInbound w.now mine (Heartbeat.response p theirs)).2 }
  | .missed _ => w
  | .close _ => { w with closed := true }

def take (w : Watch) : Turn → Watch
  | .write now => { w with monitor := w.monitor.onOutbound now, now, written := now :: w.written }
  | .idle mine theirs =>
    let (event, now, m) := w.monitor.next w.now
    let (action, m) := m.onIdle mine event
    { w with monitor := m, now }.act mine theirs action

/-- Time does not go back, no idle event is passed over, and nothing happens on a closed link. -/
def Allows (w : Watch) : Turn → Prop
  | .write now => w.closed = false ∧ w.now ≤ now ∧ now ≤ w.monitor.timers.earliest.2
  | .idle _ _ => w.closed = false

instance (w : Watch) : (turn : Turn) → Decidable (w.Allows turn)
  | .write now =>
    inferInstanceAs (Decidable (w.closed = false ∧ w.now ≤ now ∧ now ≤ w.monitor.timers.earliest.2))
  | .idle _ _ => inferInstanceAs (Decidable (w.closed = false))

def run (w : Watch) (turns : List Turn) : Watch := turns.foldl take w

def Timely (w : Watch) : List Turn → Prop
  | [] => True
  | turn :: later => w.Allows turn ∧ (w.take turn).Timely later

instance decidableTimely (w : Watch) : (turns : List Turn) → Decidable (w.Timely turns)
  | [] => inferInstanceAs (Decidable True)
  | turn :: later =>
    have := decidableTimely (w.take turn) later
    inferInstanceAs (Decidable (w.Allows turn ∧ (w.take turn).Timely later))

/-! ### Idle events -/

variable {w : Watch} {deadline : Time} {mine theirs : Heartbeat.WallClock}

theorem take_reader (first : w.monitor.timers.earliest = (.reader, deadline))
    (punctual : w.now ≤ deadline) : w.take (.idle mine theirs) =
      { w with
        now := deadline
        monitor := { w.monitor with
          missed := w.monitor.missed.more
          timers := w.monitor.timers.restart deadline .reader }
        closed := w.closed || w.monitor.missed.more.exhausted } := by
  have woken : max w.now deadline = deadline := Nat.max_eq_right punctual
  simp only [take, Monitor.next, IdleTimers.next, first, woken, Monitor.onIdle]
  cases w.monitor.missed.more.exhausted <;> simp [act]

theorem take_beat {event : IdleEvent} (beat : event ≠ .reader)
    (first : w.monitor.timers.earliest = (event, deadline)) (punctual : w.now ≤ deadline) :
    w.take (.idle mine theirs) =
      { w with
        now := deadline
        monitor := { w.monitor with
          missed := w.monitor.missed.reset
          timers := .start w.monitor.timers.periods deadline } } := by
  have woken : max w.now deadline = deadline := Nat.max_eq_right punctual
  have fresh := w.monitor.timers.restart_onWrite_onRead deadline event
  simp only [take, Monitor.next, IdleTimers.next, first, woken]
  cases event with
  | reader => exact absurd rfl beat
  | writer => simp only [Monitor.onIdle, act, Monitor.onInbound_snd, Monitor.onOutbound, fresh]
  | all => simp only [Monitor.onIdle, act, Monitor.onInbound_snd, Monitor.onOutbound, fresh]

/-! ### What the timers remember -/

/-- The deadlines of an open link tell when its peer was last heard and when a frame was last written.
Between the two instants nothing but business frames was written, none of them late enough for a
heartbeat. -/
structure Keeps (periods : Heartbeats) (heard spoke : Time) (w : Watch) : Prop where
  notClosed : w.closed = false
  periods_eq : w.monitor.timers.periods = periods
  limit : w.monitor.missed.limit = max 1 periods.maxMissed
  patient : w.monitor.missed.count < w.monitor.missed.limit
  reader : w.monitor.timers.readerDeadline =
    heard + (w.monitor.missed.count.toNat + 1) * periods.readerIdle
  writer : w.monitor.timers.writerDeadline = spoke + periods.writerIdle
  all : w.monitor.timers.allDeadline = periods.allIdle.map (spoke + ·)
  order : heard ≤ spoke ∧ spoke ≤ w.now
  punctual : w.now ≤ w.monitor.timers.earliest.2
  latest : ∀ t ∈ w.written, t ≤ spoke
  unbroken : ∀ u, heard ≤ u → u < spoke → ∃ t ∈ w.written, u < t ∧ t ≤ u + periods.quiet

variable {periods : Heartbeats} {heard spoke : Time}

theorem keeps_of_start (notClosed : w.closed = false)
    (timers : w.monitor.timers = .start periods w.now)
    (missed : w.monitor.missed = .start periods.maxMissed) (latest : ∀ t ∈ w.written, t ≤ w.now) :
    Keeps periods w.now w.now w where
  notClosed
  periods_eq := by rw [timers]; rfl
  limit := by rw [missed]; rfl
  patient := by
    rw [missed]
    exact Missed.start_patient _
  reader := by simp [timers, missed, IdleTimers.start, Missed.start]
  writer := by simp [timers, IdleTimers.start]
  all := by simp [timers, IdleTimers.start]
  order := ⟨Nat.le_refl _, Nat.le_refl _⟩
  punctual := by
    rw [timers]
    apply IdleTimers.le_earliest
    · exact Nat.le_add_right _ _
    · exact Nat.le_add_right _ _
    · intro d hd
      simp only [IdleTimers.start, Option.map_eq_some_iff] at hd
      obtain ⟨period, _, rfl⟩ := hd
      exact Nat.le_add_right _ _
  latest
  unbroken := by
    intro u after before
    exact absurd after (Nat.not_le.mpr before)

theorem start_keeps (layout : Layout) (periods : Heartbeats) (now : Time) :
    Keeps periods now now (start layout periods now) :=
  keeps_of_start (w := start layout periods now) rfl rfl rfl (by simp [start])

theorem Keeps.due (k : Keeps periods heard spoke w) :
    (w.monitor.timers.earliest = (.reader, w.monitor.timers.readerDeadline) ∧
      w.monitor.timers.readerDeadline ≤ spoke + periods.quiet) ∨
    ∃ event, event ≠ .reader ∧ w.monitor.timers.earliest = (event, spoke + periods.quiet) := by
  obtain rfl := k.periods_eq
  rcases IdleTimers.due_cases k.writer k.all with reader | ⟨event, beat, first, _⟩
  · exact Or.inl reader
  · exact Or.inr ⟨event, beat, first⟩

theorem Keeps.earliest_le (k : Keeps periods heard spoke w) :
    w.monitor.timers.earliest.2 ≤ spoke + periods.quiet := by
  rcases k.due with ⟨first, early⟩ | ⟨event, _, first⟩
  · rw [first]
    exact early
  · exact Nat.le_of_eq (congrArg Prod.snd first)

theorem Keeps.write (k : Keeps periods heard spoke w) {now : Time} (allowed : w.Allows (.write now)) :
    Keeps periods heard now (w.take (.write now)) := by
  obtain ⟨_, later, due⟩ := allowed
  have order := k.order
  have early : now ≤ spoke + periods.quiet := Nat.le_trans due k.earliest_le
  exact {
    notClosed := k.notClosed
    periods_eq := k.periods_eq
    limit := k.limit
    patient := k.patient
    reader := k.reader
    writer := by
      rw [← k.periods_eq]
      rfl
    all := by
      rw [← k.periods_eq]
      rfl
    order := ⟨Nat.le_trans order.1 (Nat.le_trans order.2 later), Nat.le_refl _⟩
    punctual := by
      apply IdleTimers.le_earliest
      · exact Nat.le_trans due (IdleTimers.earliest_le_reader _)
      · exact Nat.le_add_right _ _
      · intro d hd
        obtain ⟨period, _, rfl⟩ := Option.map_eq_some_iff.mp hd
        exact Nat.le_add_right _ _
    latest := by
      intro t ht
      rcases List.mem_cons.mp ht with rfl | earlier
      · exact Nat.le_refl _
      · exact Nat.le_trans (k.latest t earlier) (Nat.le_trans order.2 later)
    unbroken := by
      intro u after before
      by_cases gap : u < spoke
      · obtain ⟨t, ht, inside⟩ := k.unbroken u after gap
        exact ⟨t, List.mem_cons_of_mem _ ht, inside⟩
      · -- No heartbeat was due yet, so this frame came before the link had been quiet.
        refine ⟨now, List.mem_cons_self, before, ?_⟩
        exact Nat.le_trans early (Nat.add_le_add_right (Nat.le_of_not_lt gap) _) }

theorem Keeps.miss (k : Keeps periods heard spoke w)
    (first : w.monitor.timers.earliest = (.reader, w.monitor.timers.readerDeadline))
    (early : w.monitor.timers.readerDeadline ≤ spoke + periods.quiet)
    (patience : w.monitor.missed.more.exhausted = false) :
    Keeps periods heard spoke (w.take (.idle mine theirs)) := by
  have order := k.order
  have punctual := k.punctual
  rw [first] at punctual
  rw [take_reader first punctual]
  exact {
    notClosed := by simp [k.notClosed, patience]
    periods_eq := k.periods_eq
    limit := k.limit
    patient := by
      have short := of_decide_eq_false patience
      exact UInt32.not_le.mp short
    reader := by
      have count := Missed.toNat_count_more k.patient
      simp only [IdleTimers.restart, k.reader, k.periods_eq, count]
      rw [Nat.add_assoc, ← Nat.succ_mul]
    writer := k.writer
    all := k.all
    order := ⟨order.1, Nat.le_trans order.2 punctual⟩
    punctual := by
      apply IdleTimers.le_earliest
      · exact Nat.le_add_right _ _
      · have writer : w.monitor.timers.writerDeadline = spoke + periods.writerIdle := k.writer
        have quiet := Nat.add_le_add_left periods.quiet_le_writerIdle spoke
        exact writer ▸ Nat.le_trans early quiet
      · intro d hd
        have all : w.monitor.timers.allDeadline = some d := hd
        rw [k.all] at all
        obtain ⟨period, watched, rfl⟩ := Option.map_eq_some_iff.mp all
        exact Nat.le_trans early (Nat.add_le_add_left (Heartbeats.quiet_le_allIdle watched) spoke)
    latest := k.latest
    unbroken := k.unbroken }

/-- All that an idle event can do. The peer stays unheard, with periods of silence left; or the link was
quiet and a heartbeat is answered; or there are no periods left and the link is closed. -/
theorem Keeps.idle (k : Keeps periods heard spoke w) (mine theirs : Heartbeat.WallClock) :
    let after := w.take (.idle mine theirs)
    after.written = w.written ∧ after.now ≤ spoke + periods.quiet ∧
    (Keeps periods heard spoke after ∨
     (after.now = spoke + periods.quiet ∧ Keeps periods after.now after.now after) ∨
     (after.closed = true ∧ after.now = heard + periods.patience)) := by
  intro after
  have order := k.order
  have punctual := k.punctual
  rcases k.due with ⟨first, early⟩ | ⟨event, beat, first⟩
  · rw [first] at punctual
    have taken : after = _ := take_reader first punctual
    have count := Missed.toNat_count_more k.patient
    refine ⟨by rw [taken], by rw [taken]; exact early, ?_⟩
    by_cases exhausted : w.monitor.missed.more.exhausted
    · refine Or.inr (Or.inr ⟨by simp [taken, exhausted], ?_⟩)
      have last := (Missed.exhausted_more_iff k.patient).mp exhausted
      rw [taken, k.reader, ← last, k.limit]
      rfl
    · exact Or.inl (k.miss first early (Bool.eq_false_iff.mpr exhausted))
  · rw [first] at punctual
    have taken : after = _ := take_beat beat first punctual
    have fresh : Keeps periods after.now after.now after := by
      apply keeps_of_start
      · rw [taken]
        exact k.notClosed
      · rw [taken, k.periods_eq]
      · rw [taken]
        rw [Missed.reset, k.limit]
        rfl
      · rw [taken]
        intro t ht
        exact Nat.le_trans (k.latest t ht) (Nat.le_add_right _ _)
    have woken : after.now = spoke + periods.quiet := by rw [taken]
    exact ⟨by rw [taken], Nat.le_of_eq woken, Or.inr (Or.inl ⟨woken, fresh⟩)⟩

/-! ### Runs -/

variable {turns : List Turn} {layout : Layout} {origin : Time}

theorem written_idle (w : Watch) (mine theirs : Heartbeat.WallClock) :
    (w.take (.idle mine theirs)).written = w.written := by
  have acts (w : Watch) (action : IdleAction) : (w.act mine theirs action).written = w.written := by
    cases action <;> rfl
  exact acts _ _

theorem written_run {t : Time} (ht : t ∈ (w.run turns).written) :
    t ∈ w.written ∨ .write t ∈ turns := by
  induction turns generalizing w with
  | nil => exact Or.inl ht
  | cons turn later ih =>
    rcases ih ht with now | after
    · cases turn with
      | write s =>
        rcases List.mem_cons.mp now with rfl | earlier
        · exact Or.inr List.mem_cons_self
        · exact Or.inl earlier
      | idle mine theirs => exact Or.inl (written_idle w mine theirs ▸ now)
    · exact Or.inr (List.mem_cons_of_mem _ after)

theorem timely_closed (closed : w.closed = true) (timely : w.Timely turns) : turns = [] := by
  cases turns with
  | nil => rfl
  | cons turn later =>
    have allowed := timely.1
    cases turn with
    | write now => exact absurd (closed.symm.trans allowed.1) (by decide)
    | idle mine theirs => exact absurd (closed.symm.trans allowed) (by decide)

/-- How a link may be found later. If it was closed then the frames written since the peer was last heard
left no pause. -/
theorem Keeps.run (k : Keeps periods heard spoke w) (timely : w.Timely turns) :
    let after := w.run turns
    (∃ heard' spoke', Keeps periods heard' spoke' after) ∨
    (heard + periods.patience ≤ after.now ∧
      ∀ u, after.now ≤ u + periods.patience → u + periods.quiet < after.now →
        ∃ t ∈ after.written, u < t ∧ t ≤ u + periods.quiet) := by
  induction turns generalizing w heard spoke with
  | nil => exact Or.inl ⟨heard, spoke, k⟩
  | cons turn later ih =>
    obtain ⟨allowed, onward⟩ := timely
    cases turn with
    | write now => exact ih (k.write allowed) onward
    | idle mine theirs =>
      obtain ⟨written, early, unheard | ⟨beat, fresh⟩ | ⟨closed, lost⟩⟩ := k.idle mine theirs
      · exact ih unheard onward
      · have since : heard ≤ (w.take (.idle mine theirs)).now := by
          rw [beat]
          exact Nat.le_trans k.order.1 (Nat.le_add_right _ _)
        rcases ih fresh onward with kept | ⟨late, unbroken⟩
        · exact Or.inl kept
        · exact Or.inr ⟨Nat.le_trans (Nat.add_le_add_right since _) late, unbroken⟩
      · -- The link was closed: what was written since the peer was heard is all that matters.
        cases timely_closed closed onward
        refine Or.inr ⟨Nat.le_of_eq lost.symm, ?_⟩
        intro u recent before
        have after : heard ≤ u := Nat.le_of_add_le_add_right (lost ▸ recent)
        have gap : u < spoke := Nat.lt_of_add_lt_add_right (Nat.lt_of_lt_of_le before early)
        obtain ⟨t, ht, inside⟩ := k.unbroken u after gap
        exact ⟨t, written.symm ▸ ht, inside⟩

theorem closed_unbroken (timely : (start layout periods origin).Timely turns)
    (closed : ((start layout periods origin).run turns).closed = true) :
    let now := ((start layout periods origin).run turns).now
    origin + periods.patience ≤ now ∧
      ∀ u, now ≤ u + periods.patience → u + periods.quiet < now →
        ∃ t, .write t ∈ turns ∧ u < t ∧ t ≤ u + periods.quiet := by
  rcases (start_keeps layout periods origin).run timely with ⟨_, _, k⟩ | ⟨late, unbroken⟩
  · exact absurd (closed.symm.trans k.notClosed) (by decide)
  · refine ⟨late, ?_⟩
    intro u recent before
    obtain ⟨t, ht, inside⟩ := unbroken u recent before
    rcases written_run ht with early | written
    · cases early
    · exact ⟨t, written, inside⟩

/-- A living peer is not lost as long as the business frames pause now and then: each stretch of time
after which its silence would end the link has in it a time without them that is long enough for a
heartbeat to become due. -/
theorem paused_link_survives (layout : Layout) (periods : Heartbeats) (origin : Time) (turns : List Turn)
    (timely : (start layout periods origin).Timely turns)
    (pauses : ∀ now, origin + periods.patience ≤ now →
      ∃ u, now ≤ u + periods.patience ∧ u + periods.quiet < now ∧
        ∀ t, .write t ∈ turns → ¬(u < t ∧ t ≤ u + periods.quiet)) :
    ((start layout periods origin).run turns).closed = false := by
  cases closed : ((start layout periods origin).run turns).closed with
  | false => rfl
  | true =>
    obtain ⟨late, unbroken⟩ := closed_unbroken timely closed
    obtain ⟨u, recent, before, pause⟩ := pauses _ late
    obtain ⟨t, written, inside⟩ := unbroken u recent before
    exact absurd inside (pause t written)

namespace Brisk

/-! A link with a heartbeat due after four milliseconds, to which a frame is written every three. -/

def heartbeats : Heartbeats := { readerIdle := 10, writerIdle := 4, allIdle := none, maxMissed := 3 }

def link : Watch := start .gateway heartbeats 0

def opening : List Turn :=
  [.write 3, .write 6, .write 9, .idle 0 0, .write 12, .write 15, .write 18, .idle 0 0, .write 21]

def paused : List Turn := opening ++ [.idle 0 0, .idle 0 0]

def steady : List Turn := opening ++ [.write 24, .write 27, .idle 0 0]

end Brisk

theorem brisk_link_survives : Brisk.link.Timely Brisk.paused ∧
    (∀ now, 0 + Brisk.heartbeats.patience ≤ now →
      ∃ u, now ≤ u + Brisk.heartbeats.patience ∧ u + Brisk.heartbeats.quiet < now ∧
        ∀ t, .write t ∈ Brisk.paused → ¬(u < t ∧ t ≤ u + Brisk.heartbeats.quiet)) ∧
    (Brisk.link.run Brisk.paused).closed = false := by
  have timely : Brisk.link.Timely Brisk.paused := by decide
  have pauses : ∀ now, 0 + Brisk.heartbeats.patience ≤ now →
      ∃ u, now ≤ u + Brisk.heartbeats.patience ∧ u + Brisk.heartbeats.quiet < now ∧
        ∀ t, .write t ∈ Brisk.paused → ¬(u < t ∧ t ≤ u + Brisk.heartbeats.quiet) := by
    intro now late
    have late : 30 ≤ now := late
    refine ⟨now - 9, show now ≤ now - 9 + 30 by grind, show now - 9 + 4 < now by grind, ?_⟩
    intro t written ⟨after, _⟩
    have last : t ≤ 21 := by
      simp only [Brisk.paused, Brisk.opening, List.cons_append, List.nil_append, List.mem_cons] at written
      grind
    grind
  exact ⟨timely, pauses, paused_link_survives .gateway Brisk.heartbeats 0 Brisk.paused timely pauses⟩

/-- A peer that answers every heartbeat is lost for want of heartbeats. -/
theorem steady_writes_lose_peer : ¬∀ (layout : Layout) (periods : Heartbeats) (origin : Time)
    (turns : List Turn),
    0 < periods.readerIdle → 0 < periods.writerIdle → (∀ a, periods.allIdle = some a → 0 < a) →
    periods.writerIdle < periods.maxMissed.toNat * periods.readerIdle →
    (start layout periods origin).Timely turns →
    ((start layout periods origin).run turns).closed = false := by
  intro claim
  have survives := claim .gateway Brisk.heartbeats 0 Brisk.steady
    (by decide) (by decide) (by decide) (by decide) (by decide)
  exact absurd survives (by decide)

end Watch

end SessionGateway.Liveness
