import Mathlib.Data.List.Induction
import SessionGateway.Liveness.IdleTimers

/-! The timers of a link in the course of time. A deadline lies one period after the last thing on record that
started its timer anew, so the record alone tells what comes next and when. An idle event follows a full
period of silence of its kind, and a wait that is given up leaves no trace. -/
namespace SessionGateway.Liveness

/-- Of two events at one deadline the one of lower rank goes first. -/
def IdleEvent.rank : IdleEvent → Nat
  | reader => 0
  | writer => 1
  | all => 2

inductive Mark where
  | read
  | wrote
  | idle (event : IdleEvent)
  deriving DecidableEq, Repr

/-- What starts the timer of an event anew: traffic that it watches for, and the event itself. -/
def Mark.restarts : Mark → IdleEvent → Bool
  | read, event => event ≠ .writer
  | wrote, event => event ≠ .reader
  | idle event', event => event' = event

/-- The clock goes on for every period that begins with this. -/
def Mark.Fits (m : Mark) (periods : Heartbeats) (last now : Time) : Prop :=
  ∀ event, m.restarts event → ∀ period, periods.period? event = some period → now + period ≤ last

theorem IdleEvent.forall_iff {P : IdleEvent → Prop} :
    (∀ event, P event) ↔ P .reader ∧ P .writer ∧ P .all := by
  constructor
  · exact fun each => ⟨each _, each _, each _⟩
  · rintro ⟨reader, writer, all⟩ (_ | _ | _) <;> assumption

theorem after?_bind_eq_some_iff {α : Type} {last now period : Time} {next : Time → Option α} {x : α} :
    (after? last now period >>= next) = some x ↔ now + period ≤ last ∧ next (now + period) = some x := by
  unfold after?
  split
  · simp_all
  · simp_all [Nat.not_le.mpr]

namespace IdleTimers

def deadline? (t : IdleTimers) : IdleEvent → Option Time
  | .reader => some t.readerDeadline
  | .writer => some t.writerDeadline
  | .all => t.allDeadline

def note (t : IdleTimers) (now : Time) : Mark → IdleTimers
  | .read => t.onRead now
  | .wrote => t.onWrite now
  | .idle event => t.restart now event

def note? (t : IdleTimers) (last now : Time) : Mark → Option IdleTimers
  | .read => t.onRead? last now
  | .wrote => t.onWrite? last now
  | .idle event => t.restart? last now event

theorem periods_note (t : IdleTimers) (now : Time) (m : Mark) : (t.note now m).periods = t.periods := by
  cases m with
  | idle event => cases event <;> rfl
  | _ => rfl

theorem deadline?_note (t : IdleTimers) (now : Time) (m : Mark) (event : IdleEvent) :
    (t.note now m).deadline? event =
      if m.restarts event then (t.periods.period? event).map (now + ·) else t.deadline? event := by
  cases m with
  | idle event' => cases event' <;> cases event <;> rfl
  | _ => cases event <;> rfl

theorem restartAll?_eq_some_iff {t t' : IdleTimers} {last now : Time} : t.restartAll? last now = some t' ↔
    t' = t.restartAll now ∧ ∀ period, t.periods.allIdle = some period → now + period ≤ last := by
  unfold restartAll? restartAll
  cases t.periods.allIdle with
  | none => simp [eq_comm]
  | some period => by_cases fits : now + period ≤ last <;> simp [after?, fits, eq_comm]

theorem start?_eq_some_iff {periods : Heartbeats} {t : IdleTimers} {last now : Time} :
    start? periods last now = some t ↔ t = start periods now ∧ periods.Fit last now := by
  simp only [start?, after?_bind_eq_some_iff, Heartbeats.Fit, IdleEvent.forall_iff, Heartbeats.period?]
  cases watched : periods.allIdle with
  | none => simp [start, watched, eq_comm, and_comm, and_assoc]
  | some period =>
    by_cases fits : now + period ≤ last <;>
      simp [start, watched, after?, fits, eq_comm, and_comm, and_assoc]

theorem note?_eq_some_iff {t t' : IdleTimers} {last now : Time} {m : Mark} :
    t.note? last now m = some t' ↔ t' = t.note now m ∧ m.Fits t.periods last now := by
  simp only [Mark.Fits, IdleEvent.forall_iff]
  cases m with
  | read =>
    simp only [note?, onRead?, after?_bind_eq_some_iff, restartAll?_eq_some_iff, note]
    simp [Mark.restarts, Heartbeats.period?, onRead, restartAll, and_left_comm]
  | wrote =>
    simp only [note?, onWrite?, after?_bind_eq_some_iff, restartAll?_eq_some_iff, note]
    simp [Mark.restarts, Heartbeats.period?, onWrite, restartAll, and_left_comm]
  | idle event =>
    cases event <;> simp only [note?, restart?, after?_bind_eq_some_iff, restartAll?_eq_some_iff, note] <;>
      simp [Mark.restarts, Heartbeats.period?, restart, and_comm, eq_comm]

theorem earliest_first (t : IdleTimers) :
    t.deadline? t.earliest.1 = some t.earliest.2 ∧
    ∀ event due, t.deadline? event = some due →
      t.earliest.2 < due ∨ t.earliest.2 = due ∧ t.earliest.1.rank ≤ event.rank := by
  rcases t.earliest_cases with ⟨first, writer, all⟩ | ⟨first, reader, all⟩ | ⟨d, hd, first, reader, writer⟩
  · rw [first]
    refine ⟨rfl, ?_⟩
    intro event due h
    have latest : t.readerDeadline ≤ due := by
      cases event with
      | reader => exact Nat.le_of_eq (Option.some.inj h)
      | writer => exact Option.some.inj h ▸ writer
      | all => exact all due h
    rcases Nat.lt_or_eq_of_le latest with later | same
    · exact Or.inl later
    · exact Or.inr ⟨same, Nat.zero_le _⟩
  · rw [first]
    refine ⟨rfl, ?_⟩
    intro event due h
    cases event with
    | reader => exact Or.inl (Option.some.inj h ▸ reader)
    | writer => exact Or.inr ⟨Option.some.inj h, Nat.le_refl _⟩
    | all =>
      rcases Nat.lt_or_eq_of_le (all due h) with later | same
      · exact Or.inl later
      · exact Or.inr ⟨same, Nat.le_succ 1⟩
  · rw [first]
    refine ⟨hd, ?_⟩
    intro event due h
    cases event with
    | reader => exact Or.inl (Option.some.inj h ▸ reader)
    | writer => exact Or.inl (Option.some.inj h ▸ writer)
    | all => exact Or.inr ⟨Option.some.inj (hd.symm.trans h), Nat.le_refl _⟩

/-- The timers watch for these periods, none of which began later than now. -/
structure Within (periods : Heartbeats) (now : Time) (t : IdleTimers) : Prop where
  periods_eq : t.periods = periods
  deadlines : ∀ event deadline, t.deadline? event = some deadline →
    ∃ period, periods.period? event = some period ∧ deadline ≤ now + period

theorem start_within (periods : Heartbeats) (now : Time) : (start periods now).Within periods now where
  periods_eq := rfl
  deadlines event deadline found := by
    have begun : (start periods now).deadline? event = (periods.period? event).map (now + ·) := by
      cases event <;> rfl
    obtain ⟨period, watched, rfl⟩ := Option.map_eq_some_iff.mp (begun.symm.trans found)
    exact ⟨period, watched, Nat.le_refl _⟩

theorem Within.later {periods : Heartbeats} {now later : Time} {t : IdleTimers} (within : t.Within periods now)
    (after : now ≤ later) : t.Within periods later where
  periods_eq := within.periods_eq
  deadlines event deadline found := by
    obtain ⟨period, watched, soon⟩ := within.deadlines event deadline found
    exact ⟨period, watched, Nat.le_trans soon (Nat.add_le_add_right after _)⟩

theorem Within.note {periods : Heartbeats} {now : Time} {t : IdleTimers} (within : t.Within periods now)
    (m : Mark) : (t.note now m).Within periods now where
  periods_eq := (periods_note t now m).trans within.periods_eq
  deadlines event deadline found := by
    rw [deadline?_note, within.periods_eq] at found
    split at found
    · obtain ⟨period, watched, rfl⟩ := Option.map_eq_some_iff.mp found
      exact ⟨period, watched, Nat.le_refl _⟩
    · exact within.deadlines event deadline found

end IdleTimers

structure Timeline where
  timers : IdleTimers
  now : Time
  /-- What happened and when, latest first. -/
  record : List (Time × Mark)
  deriving DecidableEq, Repr

namespace Timeline

inductive Act where
  | read
  | write
  | advance (milliseconds : Time)
  /-- Someone waits for the next event. -/
  | wait
  /-- Someone waits for the next event, but no longer than this. -/
  | waitFor (milliseconds : Time)
  deriving DecidableEq, Repr

def start (periods : Heartbeats) (now : Time) : Timeline where
  timers := .start periods now
  now
  record := []

def take (l : Timeline) : Act → Timeline
  | .read => { l with timers := l.timers.onRead l.now, record := (l.now, .read) :: l.record }
  | .write => { l with timers := l.timers.onWrite l.now, record := (l.now, .wrote) :: l.record }
  | .advance milliseconds => { l with now := l.now + milliseconds }
  | .wait =>
    let (event, now, timers) := l.timers.next l.now
    { timers, now, record := (now, .idle event) :: l.record }
  | .waitFor milliseconds =>
    let (event, now, timers) := l.timers.nextBy l.now (l.now + milliseconds)
    { timers, now, record := event.toList.map (now, .idle ·) ++ l.record }

def run (l : Timeline) (acts : List Act) : Timeline := acts.foldl take l

/-! The same where the clock ends. -/

def start? (periods : Heartbeats) (last now : Time) : Option Timeline := do
  return { timers := ← IdleTimers.start? periods last now, now, record := [] }

def take? (last : Time) (l : Timeline) : Act → Option Timeline
  | .read => do
    return { l with timers := ← l.timers.onRead? last l.now, record := (l.now, .read) :: l.record }
  | .write => do
    return { l with timers := ← l.timers.onWrite? last l.now, record := (l.now, .wrote) :: l.record }
  | .advance milliseconds => some { l with now := l.now + milliseconds }
  | .wait => do
    let (event, now, timers) ← l.timers.next? last l.now
    return { timers, now, record := (now, .idle event) :: l.record }
  | .waitFor milliseconds => do
    let (event, now, timers) ← l.timers.nextBy? last l.now (l.now + milliseconds)
    return { timers, now, record := event.toList.map (now, .idle ·) ++ l.record }

def run? (periods : Heartbeats) (last origin : Time) (acts : List Act) : Option Timeline := do
  acts.foldlM (take? last) (← start? periods last origin)

variable {l l' : Timeline} {periods : Heartbeats} {last origin milliseconds : Time}
  {acts acts' rest : List Act}

/-! ### Waits -/

theorem take_waitFor_due (due : l.timers.earliest.2 ≤ l.now + milliseconds) :
    l.take (.waitFor milliseconds) = l.take .wait := by
  simp [take, IdleTimers.nextBy, due]

theorem take?_waitFor_due (due : l.timers.earliest.2 ≤ l.now + milliseconds) :
    l.take? last (.waitFor milliseconds) = l.take? last .wait := by
  simp only [take?, IdleTimers.nextBy?, if_pos due]
  cases l.timers.next? last l.now <;> rfl

theorem take_waitFor_undue (undue : l.now + milliseconds < l.timers.earliest.2) :
    l.take (.waitFor milliseconds) = l.take (.advance milliseconds) := by
  have notDue : ¬l.timers.earliest.2 ≤ l.now + milliseconds := Nat.not_le.mpr undue
  have later : max l.now (l.now + milliseconds) = l.now + milliseconds :=
    Nat.max_eq_right (Nat.le_add_right _ _)
  simp only [take, IdleTimers.nextBy, if_neg notDue, later, Option.toList_none, List.map_nil, List.nil_append]

theorem take?_waitFor_undue (undue : l.now + milliseconds < l.timers.earliest.2) :
    l.take? last (.waitFor milliseconds) = some (l.take (.advance milliseconds)) := by
  have later : max l.now (l.now + milliseconds) = l.now + milliseconds :=
    Nat.max_eq_right (Nat.le_add_right _ _)
  simp only [take?, IdleTimers.nextBy?, if_neg (Nat.not_le.mpr undue), later]
  rfl

/-! ### Where the clock ends -/

/-- The clock goes on for every period that begins with something on record. -/
def Fits (periods : Heartbeats) (last : Time) (record : List (Time × Mark)) : Prop :=
  ∀ instant m, (instant, m) ∈ record → m.Fits periods last instant

theorem fits_cons {instant : Time} {m : Mark} {record : List (Time × Mark)} :
    Fits periods last ((instant, m) :: record) ↔ m.Fits periods last instant ∧ Fits periods last record := by
  simp [Fits, or_imp, forall_and]

def mark (l : Timeline) (now : Time) (m : Mark) (timers : IdleTimers) : Timeline :=
  { timers, now, record := (now, m) :: l.record }

theorem take_cases (l : Timeline) (act : Act) :
    (∃ now, l.take act = { l with now } ∧ ∀ last, l.take? last act = some { l with now }) ∨
    ∃ now m, l.take act = l.mark now m (l.timers.note now m) ∧
      ∀ last, l.take? last act = (l.timers.note? last now m).map (l.mark now m) := by
  have waits : ∃ now m, l.take .wait = l.mark now m (l.timers.note now m) ∧
      ∀ last, l.take? last .wait = (l.timers.note? last now m).map (l.mark now m) := by
    refine ⟨max l.now l.timers.earliest.2, .idle l.timers.earliest.1, rfl, fun last => ?_⟩
    cases found : l.timers.restart? last (max l.now l.timers.earliest.2) l.timers.earliest.1 <;>
      simp [take?, IdleTimers.next?, IdleTimers.note?, found, mark]
  cases act with
  | read =>
    refine Or.inr ⟨l.now, .read, rfl, fun last => ?_⟩
    simp only [take?, IdleTimers.note?]
    cases l.timers.onRead? last l.now <;> rfl
  | write =>
    refine Or.inr ⟨l.now, .wrote, rfl, fun last => ?_⟩
    simp only [take?, IdleTimers.note?]
    cases l.timers.onWrite? last l.now <;> rfl
  | advance milliseconds => exact Or.inl ⟨_, rfl, fun _ => rfl⟩
  | wait => exact Or.inr waits
  | waitFor milliseconds =>
    rcases Nat.lt_or_ge (l.now + milliseconds) l.timers.earliest.2 with undue | due
    · exact Or.inl ⟨_, take_waitFor_undue undue, fun last => take?_waitFor_undue undue⟩
    · rw [take_waitFor_due due]
      simp only [take?_waitFor_due due]
      exact Or.inr waits

theorem periods_take (l : Timeline) (act : Act) : (l.take act).timers.periods = l.timers.periods := by
  rcases l.take_cases act with ⟨now, taken, _⟩ | ⟨now, m, taken, _⟩ <;> rw [taken]
  exact IdleTimers.periods_note l.timers now m

theorem Fits.before {act : Act} (fits : Fits periods last (l.take act).record) :
    Fits periods last l.record := by
  rcases l.take_cases act with ⟨now, taken, _⟩ | ⟨now, m, taken, _⟩ <;> rw [taken] at fits
  · exact fits
  · exact (fits_cons.mp fits).2

theorem take?_eq_some_iff (same : l.timers.periods = periods) (before : Fits periods last l.record)
    (act : Act) :
    l.take? last act = some l' ↔ l' = l.take act ∧ Fits periods last l'.record := by
  subst same
  rcases l.take_cases act with ⟨now, taken, taken?⟩ | ⟨now, m, taken, taken?⟩ <;> rw [taken, taken?]
  · constructor
    · rintro ⟨⟩
      exact ⟨rfl, before⟩
    · rintro ⟨rfl, _⟩
      rfl
  · simp only [Option.map_eq_some_iff, IdleTimers.note?_eq_some_iff]
    constructor
    · rintro ⟨_, ⟨rfl, fits⟩, rfl⟩
      exact ⟨rfl, fits_cons.mpr ⟨fits, before⟩⟩
    · rintro ⟨rfl, fits⟩
      exact ⟨_, ⟨rfl, (fits_cons.mp fits).1⟩, rfl⟩

theorem periods_run (l : Timeline) (acts : List Act) : (l.run acts).timers.periods = l.timers.periods := by
  induction acts generalizing l with
  | nil => rfl
  | cons act acts ih => exact (ih _).trans (periods_take l act)

/-- A run gets to its end if the clock goes on for every period that began in it, and then it is what it would
be on a clock without end. -/
theorem run?_eq_some_iff : run? periods last origin acts = some l ↔ l = (start periods origin).run acts ∧
    periods.Fit last origin ∧ Fits periods last l.record := by
  induction acts using List.reverseRecOn generalizing l with
  | nil =>
    simp only [run?, start?, List.foldlM_nil, Option.bind_eq_bind, bind_pure, Option.bind_eq_some_iff,
      IdleTimers.start?_eq_some_iff]
    constructor
    · rintro ⟨_, ⟨rfl, fit⟩, ⟨⟩⟩
      exact ⟨rfl, fit, nofun⟩
    · rintro ⟨rfl, fit, _⟩
      exact ⟨_, ⟨rfl, fit⟩, rfl⟩
  | append_singleton acts act ih =>
    have ran : run? periods last origin (acts ++ [act]) =
        (run? periods last origin acts).bind (take? last · act) := by
      cases begun : start? periods last origin <;> simp [run?, begun]
    have periods_eq : ((start periods origin).run acts).timers.periods = periods := periods_run _ acts
    rw [ran, run, List.foldl_append, List.foldl_cons, List.foldl_nil, ← run, Option.bind_eq_some_iff]
    constructor
    · rintro ⟨before, found, taken⟩
      obtain ⟨rfl, fit, fits⟩ := ih.mp found
      obtain ⟨rfl, fits'⟩ := (take?_eq_some_iff periods_eq fits act).mp taken
      exact ⟨rfl, fit, fits'⟩
    · rintro ⟨rfl, fit, fits'⟩
      have fits := fits'.before
      exact ⟨_, ih.mpr ⟨rfl, fit, fits⟩, (take?_eq_some_iff periods_eq fits act).mpr ⟨rfl, fits'⟩⟩

theorem now_le_take (l : Timeline) (act : Act) : l.now ≤ (l.take act).now := by
  have waited : l.now ≤ (l.take .wait).now := Nat.le_max_left _ _
  cases act with
  | read => exact Nat.le_refl _
  | write => exact Nat.le_refl _
  | advance milliseconds => exact Nat.le_add_right _ _
  | wait => exact waited
  | waitFor milliseconds =>
    rcases Nat.lt_or_ge (l.now + milliseconds) l.timers.earliest.2 with undue | due
    · rw [take_waitFor_undue undue]
      exact Nat.le_add_right _ _
    · rw [take_waitFor_due due]
      exact waited

/-! ### Waits that are given up -/

/-- The acts that are left when some time has passed in which nothing was done but to wait. -/
inductive Elapses : Time → List Act → List Act → Prop where
  | nothing (acts : List Act) : Elapses 0 acts acts
  | advance (milliseconds more : Time) (acts : List Act) :
    Elapses milliseconds (.advance (milliseconds + more) :: acts) (.advance more :: acts)
  | wait (milliseconds : Time) (acts : List Act) : Elapses milliseconds (.wait :: acts) (.wait :: acts)
  | waitFor (milliseconds more : Time) (acts : List Act) :
    Elapses milliseconds (.waitFor (milliseconds + more) :: acts) (.waitFor more :: acts)
  | through {milliseconds : Time} {acts rest : List Act} (passed : Time) :
    Elapses milliseconds acts rest → Elapses (passed + milliseconds) (.advance passed :: acts) rest

/-- The same acts with further waits among them. Each is given up before an event is due, and takes up time
that would have passed anyway. -/
inductive Interrupted : Timeline → List Act → List Act → Prop where
  | done (l : Timeline) : Interrupted l [] []
  | act {l : Timeline} {acts acts' : List Act} (act : Act) :
    Interrupted (l.take act) acts acts' → Interrupted l (act :: acts) (act :: acts')
  | waited {l : Timeline} {acts acts' rest : List Act} {milliseconds : Time} :
    l.now + milliseconds < l.timers.earliest.2 → Elapses milliseconds acts rest →
    Interrupted (l.take (.advance milliseconds)) rest acts' →
    Interrupted l acts (.waitFor milliseconds :: acts')

theorem max_of_undue (undue : l.now + milliseconds < l.timers.earliest.2) :
    max (l.now + milliseconds) l.timers.earliest.2 = max l.now l.timers.earliest.2 := by
  have late : l.now + milliseconds ≤ l.timers.earliest.2 := Nat.le_of_lt undue
  rw [Nat.max_eq_right late, Nat.max_eq_right (Nat.le_trans (Nat.le_add_right _ _) late)]

theorem run_elapses (elapses : Elapses milliseconds acts rest)
    (undue : l.now + milliseconds < l.timers.earliest.2) :
    (l.take (.advance milliseconds)).run rest = l.run acts := by
  -- All of the time passes before the deadline, so however it is divided the next act has the same one ahead.
  induction elapses generalizing l with
  | nothing => rfl
  | advance milliseconds more acts =>
    have total : (l.take (.advance milliseconds)).take (.advance more) =
        l.take (.advance (milliseconds + more)) := by
      simp only [take, Nat.add_assoc]
    exact congrArg (run · acts) total
  | wait milliseconds acts =>
    have woken : (l.take (.advance milliseconds)).take .wait = l.take .wait := by
      simp only [take, IdleTimers.next, max_of_undue undue]
    exact congrArg (run · acts) woken
  | waitFor milliseconds more acts =>
    have woken : (l.take (.advance milliseconds)).take (.waitFor more) =
        l.take (.waitFor (milliseconds + more)) := by
      have limit : max (l.now + milliseconds) (l.now + milliseconds + more) =
          max l.now (l.now + milliseconds + more) := by
        rw [Nat.max_eq_right (Nat.le_add_right _ _), Nat.add_assoc,
          Nat.max_eq_right (Nat.le_add_right _ _)]
      simp only [take, IdleTimers.nextBy, IdleTimers.next, max_of_undue undue, limit, ← Nat.add_assoc]
    exact congrArg (run · acts) woken
  | @through milliseconds acts rest passed _ ih =>
    have total : l.take (.advance (passed + milliseconds)) =
        (l.take (.advance passed)).take (.advance milliseconds) := by
      simp only [take, Nat.add_assoc]
    rw [← Nat.add_assoc] at undue
    rw [total]
    exact ih undue

theorem Interrupted.run_eq (interrupted : Interrupted l acts acts') : l.run acts' = l.run acts := by
  induction interrupted with
  | done => rfl
  | act _ _ ih => exact ih
  | waited undue elapses _ ih =>
    rw [← run_elapses elapses undue, ← ih, run, List.foldl_cons, take_waitFor_undue undue, run]

/-! ### What the record tells -/

/-- When the timer of an event was started for the last time. -/
def lastRestart (origin : Time) (event : IdleEvent) : List (Time × Mark) → Time
  | [] => origin
  | (instant, m) :: earlier => if m.restarts event then instant else lastRestart origin event earlier

def due? (periods : Heartbeats) (origin : Time) (l : Timeline) (event : IdleEvent) : Option Time :=
  (periods.period? event).map (lastRestart origin event l.record + ·)

/-- The origin and what stands on record, latest first. -/
def instants (origin : Time) (record : List (Time × Mark)) : List Time := record.map (·.1) ++ [origin]

theorem le_lastRestart (event : IdleEvent) {record : List (Time × Mark)}
    (ordered : (instants origin record).Pairwise (· ≥ ·)) :
    origin ≤ lastRestart origin event record ∧
    ∀ instant m, (instant, m) ∈ record → m.restarts event →
      instant ≤ lastRestart origin event record := by
  induction record with
  | nil => exact ⟨Nat.le_refl _, by simp⟩
  | cons last earlier ih =>
    obtain ⟨latest, ordered⟩ := List.pairwise_cons.mp ordered
    obtain ⟨begun, before⟩ := ih ordered
    rw [lastRestart]
    by_cases restarts : last.2.restarts event
    · rw [if_pos restarts]
      refine ⟨latest origin (by simp), ?_⟩
      intro instant m member _
      rcases List.mem_cons.mp member with rfl | member
      · exact Nat.le_refl _
      · exact latest instant (List.mem_append_left _ (List.mem_map_of_mem member))
    · rw [if_neg restarts]
      refine ⟨begun, ?_⟩
      intro instant m member restarted
      rcases List.mem_cons.mp member with rfl | member
      · exact absurd restarted restarts
      · exact before instant m member restarted

/-- The timers know nothing but what the record tells, and every event on it came when its silence was over. -/
structure Kept (periods : Heartbeats) (origin : Time) (l : Timeline) : Prop where
  periods_eq : l.timers.periods = periods
  deadlines : ∀ event, l.timers.deadline? event = l.due? periods origin event
  ordered : (l.now :: instants origin l.record).Pairwise (· ≥ ·)
  silences : ∀ later instant event earlier, l.record = later ++ (instant, .idle event) :: earlier →
    ∃ period, periods.period? event = some period ∧
      lastRestart origin event earlier + period ≤ instant

theorem start_kept (periods : Heartbeats) (origin : Time) : Kept periods origin (start periods origin) where
  periods_eq := rfl
  deadlines event := by cases event <;> rfl
  ordered := by simp [start, instants]
  silences := by simp [start]

theorem Kept.later (k : Kept periods origin l) {now : Time} (later : l.now ≤ now) :
    Kept periods origin { l with now } where
  periods_eq := k.periods_eq
  deadlines := k.deadlines
  ordered := by
    obtain ⟨latest, ordered⟩ := List.pairwise_cons.mp k.ordered
    exact List.pairwise_cons.mpr ⟨fun instant member => Nat.le_trans (latest instant member) later, ordered⟩
  silences := k.silences

theorem Kept.note (k : Kept periods origin l) (m : Mark)
    (silence : ∀ event, m = .idle event → ∃ period, periods.period? event = some period ∧
      lastRestart origin event l.record + period ≤ l.now) :
    Kept periods origin { l with timers := l.timers.note l.now m, record := (l.now, m) :: l.record } where
  periods_eq := (IdleTimers.periods_note _ _ _).trans k.periods_eq
  deadlines event := by
    rw [IdleTimers.deadline?_note, k.periods_eq, k.deadlines, due?, due?, lastRestart]
    split <;> rfl
  ordered := List.pairwise_cons.mpr ⟨fun instant member => by
    rcases List.mem_cons.mp member with rfl | member
    · exact Nat.le_refl _
    · exact List.rel_of_pairwise_cons k.ordered member, k.ordered⟩
  silences := by
    intro later instant event earlier split
    cases later with
    | nil =>
      obtain ⟨same, rfl⟩ := List.cons.inj split
      obtain ⟨rfl, rfl⟩ := Prod.mk.inj same
      exact silence event rfl
    | cons _ later => exact k.silences later instant event earlier (List.cons.inj split).2

theorem Kept.earliest (k : Kept periods origin l) :
    l.due? periods origin l.timers.earliest.1 = some l.timers.earliest.2 ∧
    ∀ event due, l.due? periods origin event = some due →
      l.timers.earliest.2 < due ∨ l.timers.earliest.2 = due ∧ l.timers.earliest.1.rank ≤ event.rank := by
  obtain ⟨found, first⟩ := l.timers.earliest_first
  refine ⟨k.deadlines _ ▸ found, ?_⟩
  intro event due told
  exact first event due ((k.deadlines event).trans told)

theorem Kept.wait (k : Kept periods origin l) : Kept periods origin (l.take .wait) := by
  have woken := k.later (Nat.le_max_left l.now l.timers.earliest.2)
  refine woken.note (.idle l.timers.earliest.1) ?_
  intro event same
  obtain rfl := Mark.idle.inj same
  obtain ⟨period, watched, due⟩ := Option.map_eq_some_iff.mp k.earliest.1
  exact ⟨period, watched, due ▸ Nat.le_max_right _ _⟩

theorem Kept.take (k : Kept periods origin l) (act : Act) : Kept periods origin (l.take act) := by
  cases act with
  | read => exact k.note .read (by simp)
  | write => exact k.note .wrote (by simp)
  | advance milliseconds => exact k.later (Nat.le_add_right _ _)
  | wait => exact k.wait
  | waitFor milliseconds =>
    rcases Nat.lt_or_ge (l.now + milliseconds) l.timers.earliest.2 with undue | due
    · rw [take_waitFor_undue undue]
      exact k.later (Nat.le_add_right _ _)
    · rw [take_waitFor_due due]
      exact k.wait

theorem Kept.run (k : Kept periods origin l) (acts : List Act) : Kept periods origin (l.run acts) := by
  induction acts generalizing l with
  | nil => exact k
  | cons act acts ih => exact ih (k.take act)

theorem ordered_behind {later earlier : List (Time × Mark)}
    (ordered : (instants origin (later ++ earlier)).Pairwise (· ≥ ·)) :
    (instants origin earlier).Pairwise (· ≥ ·) := by
  rw [instants, List.map_append, List.append_assoc] at ordered
  exact (List.pairwise_append.mp ordered).2.1

/-- However traffic, time and waits follow each other: they get to their end if the clock goes on for every
period that begins on the way. Then an idle event comes after a full period without anything that starts its
timer anew. A wait ends with the event whose deadline is the first by the record, at that deadline or at once if
it has passed, unless the next period for that event ends beyond the clock; of equal deadlines the reader's goes
first and the common one last. The clock never goes back. Waits that are given up in between change nothing, and
where silence in both directions is not watched there is no event for it. -/
theorem idle_events_in_time (periods : Heartbeats) (last origin : Time) (acts : List Act) :
    ((∃ l, run? periods last origin acts = some l) ↔
      periods.Fit last origin ∧ Fits periods last ((start periods origin).run acts).record) ∧
    ∀ l, run? periods last origin acts = some l →
      (∀ later instant event earlier, l.record = later ++ (instant, .idle event) :: earlier →
        ∃ period, periods.period? event = some period ∧ origin + period ≤ instant ∧
          ∀ before m, (before, m) ∈ earlier → m.restarts event → before + period ≤ instant) ∧
      (∃ event due, l.due? periods origin event = some due ∧
        (∀ event' due', l.due? periods origin event' = some due' →
          due < due' ∨ due = due' ∧ event.rank ≤ event'.rank) ∧
        (∀ l', l.take? last .wait = some l' →
          l'.now = max l.now due ∧ l'.record = (max l.now due, .idle event) :: l.record) ∧
        ((∃ l', l.take? last .wait = some l') ↔
          ∀ period, periods.period? event = some period → max l.now due + period ≤ last) ∧
        ∀ milliseconds, l.take? last (.waitFor milliseconds) =
          if due ≤ l.now + milliseconds then l.take? last .wait else l.take? last (.advance milliseconds)) ∧
      (∀ act l', l.take? last act = some l' → l.now ≤ l'.now) ∧
      (∀ acts', Interrupted (start periods origin) acts acts' → run? periods last origin acts' = some l) ∧
      (periods.allIdle = none → ∀ instant, (instant, .idle .all) ∉ l.record) := by
  refine ⟨?_, ?_⟩
  · constructor
    · rintro ⟨l, ran⟩
      obtain ⟨rfl, fits⟩ := run?_eq_some_iff.mp ran
      exact fits
    · exact fun fits => ⟨_, run?_eq_some_iff.mpr ⟨rfl, fits⟩⟩
  intro l ran
  obtain ⟨same, fit, fits⟩ := run?_eq_some_iff.mp ran
  have k : Kept periods origin l := same ▸ (start_kept periods origin).run acts
  have taken {act : Act} {l' : Timeline} : l.take? last act = some l' ↔ _ :=
    take?_eq_some_iff k.periods_eq fits act
  refine ⟨?_, ?_, fun act l' given => ?_, fun acts' interrupted => ?_, ?_⟩
  · intro later instant event earlier split
    obtain ⟨period, watched, silence⟩ := k.silences later instant event earlier split
    have ordered := (List.pairwise_cons.mp k.ordered).2
    rw [split] at ordered
    have before := (List.pairwise_cons.mp (ordered_behind ordered)).2
    have restarted := le_lastRestart event before
    refine ⟨period, watched, Nat.le_trans (Nat.add_le_add_right restarted.1 _) silence, ?_⟩
    intro instant' m member restarts
    have latest := restarted.2 instant' m member restarts
    exact Nat.le_trans (Nat.add_le_add_right latest _) silence
  · obtain ⟨found, first⟩ := k.earliest
    refine ⟨l.timers.earliest.1, l.timers.earliest.2, found, first, ?_, ?_, ?_⟩
    · intro l' given
      obtain ⟨rfl, _⟩ := taken.mp given
      exact ⟨rfl, rfl⟩
    · have woken : Fits periods last (l.take .wait).record ↔
          (Mark.idle l.timers.earliest.1).Fits periods last (max l.now l.timers.earliest.2) :=
        fits_cons.trans (and_iff_left fits)
      have begun : (Mark.idle l.timers.earliest.1).Fits periods last (max l.now l.timers.earliest.2) ↔
          ∀ period, periods.period? l.timers.earliest.1 = some period →
            max l.now l.timers.earliest.2 + period ≤ last := by
        simp [Mark.Fits, Mark.restarts]
      rw [← begun, ← woken]
      exact ⟨fun ⟨l', given⟩ => (taken.mp given).1 ▸ (taken.mp given).2,
        fun fits' => ⟨_, taken.mpr ⟨rfl, fits'⟩⟩⟩
    · intro milliseconds
      split
      · next due => exact take?_waitFor_due due
      · next undue => exact take?_waitFor_undue (Nat.not_le.mp undue)
  · obtain ⟨rfl, _⟩ := taken.mp given
    exact now_le_take l act
  · rw [run?_eq_some_iff, interrupted.run_eq]
    exact ⟨same, fit, fits⟩
  · intro unwatched instant member
    obtain ⟨later, earlier, split⟩ := List.append_of_mem member
    obtain ⟨period, watched, _⟩ := k.silences later instant .all earlier split
    cases unwatched.symm.trans watched

namespace Patchy

/-! A frame is read and one is written, then the events that are due are noticed late. -/

def heartbeats : Heartbeats := ⟨10, 4, some 6, 3⟩

def link : Timeline := start heartbeats 0

def plain : List Act := [.advance 3, .read, .wait, .write, .advance 20, .wait, .wait]

def restless : List Act :=
  [.waitFor 2, .advance 1, .read, .waitFor 0, .wait, .write, .waitFor 3, .advance 17, .wait, .wait]

def before : List (Time × Mark) := [(24, .idle .writer), (4, .wrote), (4, .idle .writer), (3, .read)]

theorem interrupted : Interrupted link plain restless := by
  refine .waited (by decide) (.advance 2 1 _) ?_
  refine .act _ (.act _ ?_)
  refine .waited (by decide) (.nothing _) ?_
  refine .act _ (.act _ ?_)
  refine .waited (by decide) (.advance 3 17 _) ?_
  exact .act _ (.act _ (.act _ (.done _)))

end Patchy

theorem patchy_events_in_time :
    run? Patchy.heartbeats 30 0 Patchy.plain = some (Patchy.link.run Patchy.plain) ∧
    run? Patchy.heartbeats 29 0 Patchy.plain = none ∧
    (Patchy.link.run Patchy.plain).record = (24, .idle .all) :: Patchy.before ∧
    (∀ instant m, (instant, m) ∈ Patchy.before → m.restarts .all → instant + 6 ≤ 24) ∧
    Interrupted Patchy.link Patchy.plain Patchy.restless ∧
    run? Patchy.heartbeats 30 0 Patchy.restless = run? Patchy.heartbeats 30 0 Patchy.plain := by
  have ran : run? Patchy.heartbeats 30 0 Patchy.plain = some (Patchy.link.run Patchy.plain) := by decide
  have record : (Patchy.link.run Patchy.plain).record = [] ++ (24, .idle .all) :: Patchy.before := by decide
  obtain ⟨silences, _, _, unchanged, _⟩ := (idle_events_in_time Patchy.heartbeats 30 0 Patchy.plain).2 _ ran
  obtain ⟨period, watched, _, quiet⟩ := silences [] 24 .all Patchy.before record
  obtain rfl : 6 = period := Option.some.inj watched
  exact ⟨ran, by decide, record, quiet, Patchy.interrupted,
    (unchanged Patchy.restless Patchy.interrupted).trans ran.symm⟩

end Timeline

end SessionGateway.Liveness
