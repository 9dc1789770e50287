import SessionGateway.Selection.Strategy
import Mathlib.Data.List.Rotate

/-! Turns. One counter serves all strategies, and whoever takes a turn gets the next candidate, no matter who
asks and how many candidates there were before. Of the choices only some take one, so what the others ask
in between moves nobody's turn. -/
namespace SessionGateway.Selection

/-- What someone asks the strategies: a position among so many candidates. -/
structure Choice where
  strategy : Strategy
  candidates : Candidates
  count : Nat
  player : Option Int64
  deriving DecidableEq, Repr

/-- Where there are several candidates, round robin takes a turn, and so does consistent hashing among
live instances if it is told no player. -/
def Choice.takesTurn (c : Choice) : Bool :=
  2 ≤ c.count && (c.strategy = .roundRobin ||
    c.strategy = .consistentHash && c.candidates = .live && c.player = none)

abbrev Answer := Choice × Option Nat

def turnCount (record : List Answer) : Nat := record.countP (·.1.takesTurn)

def turnAnswers (record : List Answer) : List (Option Nat) :=
  (record.filter (·.1.takesTurn)).map (·.2)

@[simp] theorem turnCount_append (record record' : List Answer) :
    turnCount (record ++ record') = turnCount record + turnCount record' := List.countP_append

@[simp] theorem turnAnswers_append (record record' : List Answer) :
    turnAnswers (record ++ record') = turnAnswers record ++ turnAnswers record' := by
  simp [turnAnswers]

namespace Rotation

variable (source : Nat → Nat) (r : Rotation) {c : Choice}

def answer (c : Choice) : Option Nat × Rotation :=
  r.select source c.strategy c.candidates c.count c.player

/-- Choices made one after the other, each with its answer. -/
def answered (r : Rotation) : List Choice → List Answer
  | [] => []
  | c :: later => (c, (r.answer source c).1) :: answered (r.answer source c).2 later

def after (choices : List Choice) : Rotation :=
  choices.foldl (fun r c => (r.answer source c).2) r

/-! ### One choice -/

theorem select_several {count : Nat} (several : 2 ≤ count) (strategy : Strategy)
    (candidates : Candidates) (player : Option Int64) :
    r.select source strategy candidates count player =
      (some ((r.pick source strategy candidates player).1 % count),
        (r.pick source strategy candidates player).2) := by
  obtain ⟨more, rfl⟩ : ∃ more, count = more + 2 := ⟨count - 2, by omega⟩
  rfl

theorem answer_of_turn (takes : c.takesTurn) :
    r.answer source c = (some (r.counter.toNat % c.count), r.turn.2) := by
  simp only [Choice.takesTurn, Bool.and_eq_true, Bool.or_eq_true, decide_eq_true_eq] at takes
  obtain ⟨several, roundRobin | ⟨⟨hash, live⟩, unknown⟩⟩ := takes
  · rw [answer, select_several source r several, roundRobin]
    rfl
  · rw [answer, select_several source r several, hash, live, unknown]
    rfl

theorem counter_of_no_turn (takes : c.takesTurn = false) : (r.answer source c).2.counter = r.counter := by
  obtain ⟨strategy, candidates, count, player⟩ := c
  match count with
  | 0 => rfl
  | 1 => rfl
  | more + 2 =>
    rw [answer, select_several source r (Nat.le_add_left 2 more)]
    cases strategy with
    | roundRobin => simp [Choice.takesTurn] at takes
    | random => rfl
    | designated => rfl
    | consistentHash =>
      cases player with
      | some p => rfl
      | none =>
        cases candidates with
        | live => simp [Choice.takesTurn] at takes
        | configured => rfl

theorem counter_answer (c : Choice) :
    (r.answer source c).2.counter = r.counter + .ofNat c.takesTurn.toNat := by
  by_cases takes : c.takesTurn
  · rw [answer_of_turn source r takes, takes]
    rfl
  · rw [Bool.not_eq_true] at takes
    rw [counter_of_no_turn source r takes, takes]
    exact (UInt64.add_zero _).symm

/-! ### Any number of choices -/

theorem map_answered (choices : List Choice) : (r.answered source choices).map (·.1) = choices := by
  induction choices generalizing r with
  | nil => rfl
  | cons c later ih => exact congrArg (c :: ·) (ih _)

theorem counter_after (choices : List Choice) :
    (r.after source choices).counter = r.counter + .ofNat (choices.countP Choice.takesTurn) := by
  induction choices generalizing r with
  | nil => exact (UInt64.add_zero _).symm
  | cons c later ih =>
    have onward := ih (r.answer source c).2
    rw [counter_answer, UInt64.add_assoc, ← UInt64.ofNat_add] at onward
    rw [List.countP_cons, Nat.add_comm]
    cases takes : c.takesTurn <;> rw [takes] at onward <;> exact onward

theorem answered_turn {choices : List Choice} {before later : List Answer} {position : Option Nat}
    (split : r.answered source choices = before ++ (c, position) :: later) (takes : c.takesTurn) :
    position = some ((r.counter + .ofNat (turnCount before)).toNat % c.count) := by
  induction choices generalizing r before with
  | nil => cases before <;> cases split
  | cons first rest ih =>
    cases before with
    | nil =>
      obtain ⟨same, _⟩ := List.cons.inj split
      obtain ⟨rfl, rfl⟩ := Prod.mk.inj same
      rw [answer_of_turn source r takes]
      simp [turnCount]
    | cons earlier before =>
      obtain ⟨rfl, rest⟩ := List.cons.inj split
      have onward := ih (r.answer source first).2 rest
      rw [counter_answer, UInt64.add_assoc, ← UInt64.ofNat_add] at onward
      rw [onward, turnCount, turnCount, List.countP_cons, Nat.add_comm]
      cases first.takesTurn <;> rfl

end Rotation

/-! ### Turns in a row -/

/-- If each turn goes to the candidate after the last one, a row of turns among equally many goes round. -/
theorem turnAnswers_eq {record : List Answer} {start n : Nat}
    (law : ∀ before c position later, record = before ++ (c, position) :: later → c.takesTurn →
      position = some ((start + turnCount before) % n)) :
    turnAnswers record = (List.range (turnCount record)).map fun i => some ((start + i) % n) := by
  -- From the end, because the law tells an answer by what stands before it.
  induction record using List.reverseRecOn with
  | nil => rfl
  | append_singleton record last ih =>
    obtain ⟨c, position⟩ := last
    have earlier := ih fun before c' position' later split =>
      law before c' position' (later ++ [(c, position)]) (by rw [split]; simp)
    rw [turnAnswers_append, turnCount_append, earlier]
    by_cases takes : c.takesTurn
    · have now := law record c position [] rfl takes
      simp [turnAnswers, turnCount, takes, now, List.range_succ]
    · simp [turnAnswers, turnCount, takes]

theorem range_rotate (start n : Nat) :
    (List.range n).rotate start = (List.range n).map fun i => (start + i) % n := by
  apply List.ext_getElem
  · simp
  · intro i _ _
    simp [List.getElem_rotate, Nat.add_comm]

/-- Before the counter comes full circle, a choice that takes the `k`th turn is answered with `k` modulo the
number of its candidates, and no other choice moves the counter. So `n` turns in a row among `n` candidates
lead to each of them once and in their cyclic order, whatever else is chosen in between. -/
theorem turns_go_round (source : Nat → Nat) (choices : List Choice) (few : choices.length < UInt64.size) :
    let record := Rotation.initial.answered source choices
    record.map (·.1) = choices ∧
    (∀ before, before <+: choices →
      (Rotation.initial.after source before).counter.toNat = before.countP Choice.takesTurn) ∧
    (∀ before c position later, record = before ++ (c, position) :: later → c.takesTurn →
      position = some (turnCount before % c.count)) ∧
    (∀ (r : Rotation) c, c.takesTurn = false → (r.answer source c).2.counter = r.counter) ∧
    ∀ before row later n, record = before ++ row ++ later → turnCount row = n →
      (∀ e ∈ row, e.1.takesTurn → e.1.count = n) →
      turnAnswers row = ((List.range n).rotate (turnCount before)).map some ∧
      (turnAnswers row).Perm ((List.range n).map some) := by
  intro record
  have choices_eq : record.map (·.1) = choices := Rotation.map_answered source _ choices
  have word {n : Nat} (within : n ≤ choices.length) : (UInt64.ofNat n).toNat = n :=
    UInt64.toNat_ofNat_of_lt (Nat.lt_of_le_of_lt within few)
  have turn : ∀ before c position later, record = before ++ (c, position) :: later → c.takesTurn →
      position = some (turnCount before % c.count) := by
    intro before c position later split takes
    have within : turnCount before ≤ choices.length := by
      rw [← choices_eq, split, List.length_map, List.length_append]
      exact Nat.le_trans List.countP_le_length (Nat.le_add_right _ _)
    rw [Rotation.answered_turn source _ split takes]
    simp [Rotation.initial, word within]
  refine ⟨choices_eq, ?_, turn, fun r c => Rotation.counter_of_no_turn source r, ?_⟩
  · intro before within
    have short : before.countP Choice.takesTurn ≤ choices.length :=
      Nat.le_trans List.countP_le_length within.length_le
    rw [Rotation.counter_after]
    simp [Rotation.initial, word short]
  · rintro before row later n split rfl same
    have round : turnAnswers row = ((List.range (turnCount row)).rotate (turnCount before)).map some := by
      rw [range_rotate, List.map_map]
      refine turnAnswers_eq ?_
      intro earlier c position rest inside takes
      have answer := turn (before ++ earlier) c position (rest ++ later) (by rw [split, inside]; simp) takes
      rw [turnCount_append, same (c, position) (by simp [inside]) takes] at answer
      exact answer
    rw [round]
    exact ⟨rfl, (List.rotate_perm _ _).map some⟩

namespace Mingled

/-! Three turns among three candidates, with choices in between that take none. -/

def earlier : Answer := (⟨.roundRobin, .live, 2, none⟩, some 0)

def row : List Answer :=
  [(⟨.consistentHash, .live, 3, none⟩, some 1), (⟨.random, .live, 3, none⟩, some 2),
    (⟨.roundRobin, .configured, 3, some 7⟩, some 2), (⟨.consistentHash, .configured, 3, none⟩, some 0),
    (⟨.consistentHash, .live, 3, some 7⟩, some 1), (⟨.roundRobin, .live, 1, none⟩, some 0),
    (⟨.roundRobin, .live, 3, none⟩, some 0)]

def choices : List Choice := (earlier :: row).map (·.1)

end Mingled

theorem mingled_turns_go_round : Mingled.choices.length < UInt64.size ∧
    Rotation.initial.answered (fun _ => 5) Mingled.choices = [Mingled.earlier] ++ Mingled.row ++ [] ∧
    turnCount Mingled.row = 3 ∧ (∀ e ∈ Mingled.row, e.1.takesTurn → e.1.count = 3) ∧
    turnAnswers Mingled.row = [some 1, some 2, some 0] := by
  have few : Mingled.choices.length < UInt64.size := by decide
  have record : Rotation.initial.answered (fun _ => 5) Mingled.choices =
      [Mingled.earlier] ++ Mingled.row ++ [] := by decide
  have three : turnCount Mingled.row = 3 := by decide
  have same : ∀ e ∈ Mingled.row, e.1.takesTurn → e.1.count = 3 := by decide
  obtain ⟨_, _, _, _, round⟩ := turns_go_round (fun _ => 5) Mingled.choices few
  obtain ⟨row, _⟩ := round [Mingled.earlier] Mingled.row [] 3 record three same
  exact ⟨few, record, three, same, row⟩

end SessionGateway.Selection
