/-! Silence on a link. Each direction, and if wanted both together, has a deadline one period after its
last traffic. A deadline that is met is an event, and its timer starts anew from the moment it was
noticed, so a link that stays silent gives one event per period. -/
namespace SessionGateway.Liveness

/-- Milliseconds of the clock that timers follow. -/
abbrev Time := Nat

structure Heartbeats where
  readerIdle : Time
  writerIdle : Time
  /-- Silence in both directions is watched only if a period is given. -/
  allIdle : Option Time
  maxMissed : UInt32
  deriving DecidableEq, Repr

inductive IdleEvent where
  | reader
  | writer
  | all
  deriving DecidableEq, Repr

/-- How long a link has to be silent for an event, if that silence is watched. -/
def Heartbeats.period? (periods : Heartbeats) : IdleEvent → Option Time
  | .reader => some periods.readerIdle
  | .writer => some periods.writerIdle
  | .all => periods.allIdle

def IdleEvent.name : IdleEvent → String
  | reader => "reader"
  | writer => "writer"
  | all => "all"

structure IdleTimers where
  periods : Heartbeats
  readerDeadline : Time
  writerDeadline : Time
  allDeadline : Option Time
  deriving DecidableEq, Repr

namespace IdleTimers

def start (periods : Heartbeats) (now : Time) : IdleTimers :=
  { periods
    readerDeadline := now + periods.readerIdle
    writerDeadline := now + periods.writerIdle
    allDeadline := periods.allIdle.map (now + ·) }

def restartAll (t : IdleTimers) (now : Time) : IdleTimers :=
  { t with allDeadline := t.periods.allIdle.map (now + ·) }

def onRead (t : IdleTimers) (now : Time) : IdleTimers :=
  { t.restartAll now with readerDeadline := now + t.periods.readerIdle }

def onWrite (t : IdleTimers) (now : Time) : IdleTimers :=
  { t.restartAll now with writerDeadline := now + t.periods.writerIdle }

/-- The first deadline to come. Of equal ones the reader's goes first and the common one last. -/
def earliest (t : IdleTimers) : IdleEvent × Time :=
  let first :=
    if t.writerDeadline < t.readerDeadline then (.writer, t.writerDeadline)
    else (.reader, t.readerDeadline)
  match t.allDeadline with
  | some deadline => if deadline < first.2 then (.all, deadline) else first
  | none => first

theorem earliest_cases (t : IdleTimers) :
    (t.earliest = (.reader, t.readerDeadline) ∧ t.readerDeadline ≤ t.writerDeadline ∧
      ∀ d, t.allDeadline = some d → t.readerDeadline ≤ d) ∨
    (t.earliest = (.writer, t.writerDeadline) ∧ t.writerDeadline < t.readerDeadline ∧
      ∀ d, t.allDeadline = some d → t.writerDeadline ≤ d) ∨
    (∃ d, t.allDeadline = some d ∧ t.earliest = (.all, d) ∧ d < t.readerDeadline ∧
      d < t.writerDeadline) := by
  unfold earliest
  cases t.allDeadline with
  | none =>
    by_cases sooner : t.writerDeadline < t.readerDeadline
    · simp [sooner]
    · simp [sooner, Nat.le_of_not_lt sooner]
  | some d =>
    by_cases sooner : t.writerDeadline < t.readerDeadline
    · by_cases soonest : d < t.writerDeadline
      · simp [sooner, soonest, Nat.lt_trans soonest sooner]
      · simp [sooner, soonest, Nat.le_of_not_lt soonest]
    · by_cases soonest : d < t.readerDeadline
      · simp [sooner, soonest, Nat.lt_of_lt_of_le soonest (Nat.le_of_not_lt sooner)]
      · simp [sooner, soonest, Nat.le_of_not_lt sooner, Nat.le_of_not_lt soonest]

theorem earliest_le_reader (t : IdleTimers) : t.earliest.2 ≤ t.readerDeadline := by
  rcases t.earliest_cases with ⟨first, _⟩ | ⟨first, sooner, _⟩ | ⟨d, _, first, sooner, _⟩
  · exact Nat.le_of_eq (congrArg Prod.snd first)
  · rw [first]
    exact Nat.le_of_lt sooner
  · rw [first]
    exact Nat.le_of_lt sooner

theorem le_earliest {t : IdleTimers} {now : Time} (reader : now ≤ t.readerDeadline)
    (writer : now ≤ t.writerDeadline) (all : ∀ d, t.allDeadline = some d → now ≤ d) :
    now ≤ t.earliest.2 := by
  rcases t.earliest_cases with ⟨first, _⟩ | ⟨first, _⟩ | ⟨d, hd, first, _⟩
  · rw [first]
    exact reader
  · rw [first]
    exact writer
  · rw [first]
    exact all d hd

def restart (t : IdleTimers) (now : Time) : IdleEvent → IdleTimers
  | .reader => { t with readerDeadline := now + t.periods.readerIdle }
  | .writer => { t with writerDeadline := now + t.periods.writerIdle }
  | .all => t.restartAll now

theorem restart_onWrite_onRead (t : IdleTimers) (now : Time) (event : IdleEvent) :
    ((t.restart now event).onWrite now).onRead now = start t.periods now := by
  cases event <;> rfl

/-- Waits for the next event: the event, the instant at which the wait ends, and the timers then. A
deadline in the past ends the wait at once. -/
def next (t : IdleTimers) (now : Time) : IdleEvent × Time × IdleTimers :=
  let (event, deadline) := t.earliest
  let woken := max now deadline
  (event, woken, t.restart woken event)

/-- Waits no longer than until `limit`. A wait given up changes no timer. -/
def nextBy (t : IdleTimers) (now limit : Time) : Option IdleEvent × Time × IdleTimers :=
  if t.earliest.2 ≤ limit then
    let (event, woken, t) := t.next now
    (some event, woken, t)
  else (none, max now limit, t)

end IdleTimers

/-! ### Where the clock ends

A clock has a last moment. A sum that lies beyond it stops whoever makes it. -/

/-- The moment a period after `now`, if the clock gets there. -/
def after? (last now period : Time) : Option Time :=
  if now + period ≤ last then some (now + period) else none

/-- The clock goes on for every period that begins now. -/
def Heartbeats.Fit (periods : Heartbeats) (last now : Time) : Prop :=
  ∀ event period, periods.period? event = some period → now + period ≤ last

theorem Heartbeats.Fit.earlier {periods : Heartbeats} {last now before : Time} (fit : periods.Fit last now)
    (earlier : before ≤ now) : periods.Fit last before :=
  fun event period watched => Nat.le_trans (Nat.add_le_add_right earlier _) (fit event period watched)

/-- Whatever comes of a computation that may be stopped is `x`, and it is not stopped if `fit`. -/
structure Gives {α : Type} (fit : Prop) (result : Option α) (x : α) : Prop where
  only : ∀ y, result = some y → y = x
  given : fit → result = some x

namespace Gives

variable {α β : Type} {fit : Prop}

theorem pure (x : α) : Gives fit (some x) x where
  only _ same := (Option.some.inj same).symm
  given _ := rfl

theorem bind {result : Option α} {x : α} {next : α → Option β} {y : β} (first : Gives fit result x)
    (second : Gives fit (next x) y) : Gives fit (result >>= next) y where
  only z given := by
    obtain ⟨x', found, given⟩ := Option.bind_eq_some_iff.mp given
    obtain rfl := first.only x' found
    exact second.only z given
  given holds := by
    rw [first.given holds]
    exact second.given holds

theorem mapM {f : α → Option β} {g : α → β} {o : Option α} (each : ∀ x, o = some x → Gives fit (f x) (g x)) :
    Gives fit (o.mapM f) (o.map g) := by
  cases o with
  | none => exact pure none
  | some x =>
    have mapped : (some x).mapM f = f x >>= fun y => some (some y) := by
      cases found : f x <;> simp [found]
    exact mapped ▸ (each x rfl).bind (pure _)

theorem weaken {fit' : Prop} {result : Option α} {x : α} (gives : Gives fit result x) (stronger : fit' → fit) :
    Gives fit' result x := ⟨gives.only, fun holds => gives.given (stronger holds)⟩

end Gives

theorem after?_gives {periods : Heartbeats} (last now : Time) (event : IdleEvent) {period : Time}
    (watched : periods.period? event = some period) :
    Gives (periods.Fit last now) (after? last now period) (now + period) where
  only deadline found := by
    unfold after? at found
    split at found <;> cases found
    rfl
  given fit := if_pos (fit event period watched)

namespace IdleTimers

def start? (periods : Heartbeats) (last now : Time) : Option IdleTimers := do
  let readerDeadline ← after? last now periods.readerIdle
  let writerDeadline ← after? last now periods.writerIdle
  let allDeadline ← periods.allIdle.mapM (after? last now)
  return { periods, readerDeadline, writerDeadline, allDeadline }

def restartAll? (t : IdleTimers) (last now : Time) : Option IdleTimers := do
  let allDeadline ← t.periods.allIdle.mapM (after? last now)
  return { t with allDeadline }

def onRead? (t : IdleTimers) (last now : Time) : Option IdleTimers := do
  let readerDeadline ← after? last now t.periods.readerIdle
  { t with readerDeadline }.restartAll? last now

def onWrite? (t : IdleTimers) (last now : Time) : Option IdleTimers := do
  let writerDeadline ← after? last now t.periods.writerIdle
  { t with writerDeadline }.restartAll? last now

def restart? (t : IdleTimers) (last now : Time) : IdleEvent → Option IdleTimers
  | .reader => do return { t with readerDeadline := ← after? last now t.periods.readerIdle }
  | .writer => do return { t with writerDeadline := ← after? last now t.periods.writerIdle }
  | .all => t.restartAll? last now

def next? (t : IdleTimers) (last now : Time) : Option (IdleEvent × Time × IdleTimers) := do
  let (event, deadline) := t.earliest
  let woken := max now deadline
  return (event, woken, ← t.restart? last woken event)

def nextBy? (t : IdleTimers) (last now limit : Time) : Option (Option IdleEvent × Time × IdleTimers) := do
  if t.earliest.2 ≤ limit then
    let (event, woken, t) ← t.next? last now
    return (some event, woken, t)
  else return (none, max now limit, t)

variable (t : IdleTimers) (last now : Time)

theorem start?_gives (periods : Heartbeats) :
    Gives (periods.Fit last now) (start? periods last now) (start periods now) :=
  (after?_gives last now .reader rfl).bind <| (after?_gives last now .writer rfl).bind <|
    (Gives.mapM fun _ watched => after?_gives last now .all watched).bind (.pure _)

theorem restartAll?_gives : Gives (t.periods.Fit last now) (t.restartAll? last now) (t.restartAll now) :=
  (Gives.mapM fun _ watched => after?_gives last now .all watched).bind (.pure _)

theorem onRead?_gives : Gives (t.periods.Fit last now) (t.onRead? last now) (t.onRead now) :=
  (after?_gives last now .reader rfl).bind
    (restartAll?_gives { t with readerDeadline := now + t.periods.readerIdle } last now)

theorem onWrite?_gives : Gives (t.periods.Fit last now) (t.onWrite? last now) (t.onWrite now) :=
  (after?_gives last now .writer rfl).bind
    (restartAll?_gives { t with writerDeadline := now + t.periods.writerIdle } last now)

theorem restart?_gives (event : IdleEvent) :
    Gives (t.periods.Fit last now) (t.restart? last now event) (t.restart now event) := by
  cases event with
  | reader => exact (after?_gives last now .reader rfl).bind (.pure _)
  | writer => exact (after?_gives last now .writer rfl).bind (.pure _)
  | all => exact restartAll?_gives t last now

theorem next?_gives :
    Gives (t.periods.Fit last (t.next now).2.1) (t.next? last now) (t.next now) :=
  (restart?_gives t last _ _).bind (.pure _)

end IdleTimers

end SessionGateway.Liveness
