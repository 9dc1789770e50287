import SessionGateway.Gateway.Listeners
import SessionGateway.Proofs.Since

/-! What listening leaves when the system refuses part of it. The listeners of a call that fails stay open, though
no address is published, and the next call opens all of them once more. So just those are held that are
published if no call failed after its first listener stood. -/
namespace SessionGateway.Gateway

/-- How the system answers the attempts of one call, by their number and the endpoint asked for. -/
abbrev Attempts := Nat → Endpoint → Except ServerError Endpoint

/-- Whatever is opened is what was asked for, with a port of the system's choice where none was named. -/
def Attempts.Fair (attempt : Attempts) : Prop :=
  ∀ i wanted bound, attempt i wanted = .ok bound →
    bound.host = wanted.host ∧ bound.port ≠ 0 ∧ (wanted.port ≠ 0 → bound.port = wanted.port)

namespace Listeners

/-- What is opened of `n` listeners before an attempt fails, from the attempt with number `i` on. -/
def opened (attempt : Attempts) (i : Nat) (wanted : Endpoint) : Nat → List Endpoint
  | 0 => []
  | n + 1 =>
    match attempt i wanted with
    | .error _ => []
    | .ok bound => bound :: opened attempt (i + 1) bound n

variable {attempt : Attempts} {l : Listeners} {wanted : Endpoint} {n i : Nat}

/-! ### One call -/

/-- A call opens all it wants and publishes it, or it fails and keeps what it opened. -/
theorem bindMore_cases (attempt : Attempts) (l : Listeners) (done : List Endpoint) (wanted : Endpoint) (n : Nat) :
    let more := opened attempt done.length wanted n
    (more.length = n ∧
      bindMore attempt l done wanted n = (.ok (done ++ more), ⟨l.waiting ++ more, done ++ more⟩)) ∨
    (more.length < n ∧
      ∃ e, bindMore attempt l done wanted n = (.error e, { l with waiting := l.waiting ++ more })) := by
  induction n generalizing l done wanted with
  | zero => simp [opened, bindMore]
  | succ n ih =>
    rw [opened, bindMore]
    cases attempt done.length wanted with
    | error e => exact Or.inr ⟨Nat.succ_pos n, e, by simp⟩
    | ok bound =>
      have later := ih { l with waiting := l.waiting ++ [bound] } (done ++ [bound]) bound
      rw [List.length_append, List.length_singleton] at later
      simpa using later

theorem bind_of_published (published : l.published ≠ []) (attempt : Attempts) (wanted : Endpoint) (n : Nat) :
    l.bind attempt wanted n = (.ok l.published, l) := by
  rw [bind, if_neg]
  simpa using published

theorem bind_cases (unpublished : l.published = []) (attempt : Attempts) (wanted : Endpoint) (n : Nat) :
    let more := opened attempt 0 wanted n
    (more.length = n ∧ l.bind attempt wanted n = (.ok more, ⟨l.waiting ++ more, more⟩)) ∨
    (more.length < n ∧ ∃ e, l.bind attempt wanted n = (.error e, { l with waiting := l.waiting ++ more })) := by
  have unbound : l.bind attempt wanted n = bindMore attempt l [] wanted n := by
    rw [bind, if_pos]
    simp [unpublished]
  rw [unbound]
  exact bindMore_cases attempt l [] wanted n

variable {e : ServerError} {addresses : List Endpoint}

theorem of_bind_error (refused : (l.bind attempt wanted n).1 = .error e) :
    l.published = [] ∧ (opened attempt 0 wanted n).length < n ∧
      (l.bind attempt wanted n).2 = { l with waiting := l.waiting ++ opened attempt 0 wanted n } := by
  by_cases unpublished : l.published = []
  · rcases bind_cases unpublished attempt wanted n with ⟨_, bound⟩ | ⟨fewer, e', failed⟩
    · rw [bound] at refused
      cases refused
    · rw [failed]
      exact ⟨unpublished, fewer, rfl⟩
  · rw [bind_of_published unpublished] at refused
    cases refused

theorem of_bind_ok (some_wanted : 1 ≤ n) (bound : (l.bind attempt wanted n).1 = .ok addresses) :
    addresses ≠ [] ∧ (l.bind attempt wanted n).2.published = addresses := by
  by_cases unpublished : l.published = []
  · rcases bind_cases unpublished attempt wanted n with ⟨all, opens⟩ | ⟨_, e, failed⟩
    · rw [opens] at bound ⊢
      obtain rfl := Except.ok.inj bound
      have some_opened : 0 < (opened attempt 0 wanted n).length := by
        rw [all]
        exact some_wanted
      exact ⟨List.ne_nil_of_length_pos some_opened, rfl⟩
    · rw [failed] at bound
      cases bound
  · rw [bind_of_published unpublished] at bound ⊢
    obtain rfl := Except.ok.inj bound
    exact ⟨unpublished, rfl⟩

theorem opened_eq_nil_iff (some_wanted : 1 ≤ n) :
    opened attempt i wanted n = [] ↔ ∃ e, attempt i wanted = .error e := by
  obtain ⟨n, rfl⟩ := Nat.exists_eq_add_of_le' some_wanted
  rw [opened]
  cases attempt i wanted <;> simp

theorem opened_named (fair : attempt.Fair) (named : wanted.port ≠ 0) :
    ∀ a ∈ opened attempt i wanted n, a = wanted := by
  induction n generalizing i with
  | zero => simp [opened]
  | succ n ih =>
    rw [opened]
    cases answer : attempt i wanted with
    | error e => simp
    | ok bound =>
      obtain ⟨host, _, port⟩ := fair i wanted bound answer
      obtain rfl : bound = wanted := by
        cases bound
        cases wanted
        simp_all
      intro a listed
      rcases List.mem_cons.mp listed with rfl | listed
      · rfl
      · exact ih a listed

theorem opened_alike (fair : attempt.Fair) : ∃ endpoint : Endpoint, endpoint.port ≠ 0 ∧
    ∀ a ∈ opened attempt i wanted n, a = endpoint := by
  cases n with
  | zero => exact ⟨⟨"", 1⟩, Nat.one_ne_zero, by simp [opened]⟩
  | succ n =>
    rw [opened]
    cases answer : attempt i wanted with
    | error e => exact ⟨⟨"", 1⟩, Nat.one_ne_zero, by simp⟩
    | ok bound =>
      have named := (fair i wanted bound answer).2.1
      refine ⟨bound, named, ?_⟩
      intro a listed
      rcases List.mem_cons.mp listed with rfl | listed
      · rfl
      · exact opened_named fair named a listed

/-- Where one listener is wanted there is no attempt but the first. -/
theorem first_refused_of_one (refused : (l.bind attempt wanted 1).1 = .error e) :
    ∃ e, attempt 0 wanted = .error e := by
  obtain ⟨_, fewer, _⟩ := of_bind_error refused
  exact (opened_eq_nil_iff (Nat.le_refl 1)).mp (List.eq_nil_of_length_eq_zero (Nat.lt_one_iff.mp fewer))

/-! ### Any calls -/

def after (wanted : Endpoint) (n : Nat) (calls : List Attempts) : Listeners :=
  calls.foldl (fun l attempt => (l.bind attempt wanted n).2) initial

theorem after_concat (wanted : Endpoint) (n : Nat) (calls : List Attempts) (attempt : Attempts) :
    after wanted n (calls ++ [attempt]) = ((after wanted n calls).bind attempt wanted n).2 := by
  simp [after]

/-- Whichever of these calls failed, it failed with its first attempt. -/
def FailedAtOnce (wanted : Endpoint) (n : Nat) (calls : List Attempts) : Prop :=
  ∀ before attempt later, calls = before ++ attempt :: later →
    ∀ e, ((after wanted n before).bind attempt wanted n).1 = .error e → ∃ e, attempt 0 wanted = .error e

theorem failedAtOnce_concat {calls : List Attempts} : FailedAtOnce wanted n (calls ++ [attempt]) ↔
    FailedAtOnce wanted n calls ∧ ∀ e, ((after wanted n calls).bind attempt wanted n).1 = .error e →
      ∃ e, attempt 0 wanted = .error e := by
  constructor
  · intro at_once
    refine ⟨?_, at_once calls attempt [] rfl⟩
    intro before earlier later split
    exact at_once before earlier (later ++ [attempt]) (by simp [split])
  · rintro ⟨at_once, last⟩ before earlier later split
    rcases concat_eq_append_cons split with ⟨rfl, rfl, _⟩ | ⟨rest, _, sooner⟩
    · exact last
    · exact at_once before earlier rest sooner

/-- What failed calls left comes first, and then the listeners that are published. -/
structure Account (wanted : Endpoint) (n : Nat) (calls : List Attempts) (l : Listeners) : Prop where
  held : ∃ left, l.waiting = left ++ l.published ∧ (left = [] ↔ FailedAtOnce wanted n calls)
  published : l.published = [] ∨ l.published.length = n ∧
    ∃ endpoint : Endpoint, endpoint.port ≠ 0 ∧ ∀ a ∈ l.published, a = endpoint

theorem Account.bind {calls : List Attempts} (some_wanted : 1 ≤ n) (fair : attempt.Fair)
    (account : Account wanted n calls (after wanted n calls)) :
    Account wanted n (calls ++ [attempt]) (after wanted n (calls ++ [attempt])) := by
  obtain ⟨left, waiting, clear⟩ := account.held
  rw [after_concat]
  by_cases unpublished : (after wanted n calls).published = []
  · rw [unpublished, List.append_nil] at waiting
    rcases bind_cases unpublished attempt wanted n with ⟨all, bound⟩ | ⟨fewer, e, refused⟩
    · rw [bound]
      refine ⟨⟨left, by rw [waiting], ?_⟩, Or.inr ⟨all, opened_alike fair⟩⟩
      rw [clear, failedAtOnce_concat, bound]
      exact ⟨fun at_once => ⟨at_once, by simp⟩, And.left⟩
    · rw [refused]
      refine ⟨⟨left ++ opened attempt 0 wanted n, by simp [waiting, unpublished], ?_⟩, Or.inl unpublished⟩
      rw [List.append_eq_nil_iff, clear, opened_eq_nil_iff some_wanted, failedAtOnce_concat, refused]
      simp
  · have bound := bind_of_published unpublished attempt wanted n
    rw [bound]
    refine ⟨⟨left, waiting, ?_⟩, account.published⟩
    rw [clear, failedAtOnce_concat, bound]
    exact ⟨fun at_once => ⟨at_once, by simp⟩, And.left⟩

theorem after_account {calls : List Attempts} (some_wanted : 1 ≤ n) (fair : ∀ attempt ∈ calls, attempt.Fair) :
    Account wanted n calls (after wanted n calls) := by
  induction calls using List.reverseRecOn with
  | nil =>
    refine ⟨⟨[], rfl, ?_⟩, Or.inl rfl⟩
    refine ⟨fun _ => ?_, fun _ => rfl⟩
    intro before attempt later split
    cases before <;> cases split
  | append_singleton calls attempt ih =>
    obtain ⟨fairBefore, fairNow⟩ := forall_mem_concat.mp fair
    exact (ih fairBefore).bind some_wanted fairNow

end Listeners

theorem acceptorCount_pos {cores : Nat} (machine : 0 < cores) (reusePort : Bool) (acceptors : Option Nat) :
    1 ≤ acceptorCount reusePort acceptors cores := by
  unfold acceptorCount
  split
  · exact Nat.le_refl 1
  · split
    · split <;> omega
    · exact machine

namespace Listeners

/-- However many acceptors there are and whatever the system answers: a call that fails publishes nothing, and it
keeps no listener just if its first attempt failed. After calls of which the last succeeded there is one address
for each acceptor, all with one port, and their listeners are held, in this order and after all others; no
others are held just if whichever call failed did so with its first attempt. One acceptor that does not share its
port has no other attempts. -/
theorem refused_call_keeps_opened (reusePort : Bool) (acceptors : Option Nat) {cores : Nat} (machine : 0 < cores)
    (wanted : Endpoint) {calls : List Attempts} (fair : ∀ attempt ∈ calls, attempt.Fair) :
    let n := acceptorCount reusePort acceptors cores
    let l := after wanted n calls
    (∀ (attempt : Attempts) e, (l.bind attempt wanted n).1 = .error e →
      let left := (l.bind attempt wanted n).2
      left.published = [] ∧ (left.waiting = l.waiting ↔ ∃ e, attempt 0 wanted = .error e)) ∧
    (∀ (attempt : Attempts) addresses, attempt.Fair → (l.bind attempt wanted n).1 = .ok addresses →
      let bound := after wanted n (calls ++ [attempt])
      bound.published = addresses ∧ addresses.length = n ∧
      (∃ port, port ≠ 0 ∧ ∀ a ∈ addresses, a.port = port) ∧
      addresses <:+ bound.waiting ∧
      (bound.waiting = addresses ↔ FailedAtOnce wanted n calls)) ∧
    (n = 1 → FailedAtOnce wanted n calls ∧
      ∀ (attempt : Attempts) e, (l.bind attempt wanted n).1 = .error e → ∃ e, attempt 0 wanted = .error e) := by
  intro n l
  have some_wanted : 1 ≤ n := acceptorCount_pos machine reusePort acceptors
  refine ⟨?_, ?_, ?_⟩
  · intro attempt e refused left
    obtain ⟨unpublished, _, kept⟩ := of_bind_error refused
    have left_eq : left = { l with waiting := l.waiting ++ opened attempt 0 wanted n } := kept
    rw [left_eq]
    refine ⟨unpublished, ?_⟩
    rw [List.append_right_eq_self, opened_eq_nil_iff some_wanted]
  · intro attempt addresses fairNow bound_ok bound
    have fairAll : ∀ a ∈ calls ++ [attempt], Attempts.Fair a := forall_mem_concat.mpr ⟨fair, fairNow⟩
    have account : Account wanted n (calls ++ [attempt]) bound := after_account some_wanted fairAll
    obtain ⟨some_address, same⟩ := of_bind_ok some_wanted bound_ok
    have published : bound.published = addresses := by
      rw [← same, ← after_concat]
    obtain ⟨left, waiting, clear⟩ := account.held
    rw [published] at waiting
    have as_before : FailedAtOnce wanted n (calls ++ [attempt]) ↔ FailedAtOnce wanted n calls := by
      rw [failedAtOnce_concat, bound_ok]
      exact ⟨And.left, fun at_once => ⟨at_once, by simp⟩⟩
    rcases account.published with none | ⟨all, endpoint, named, alike⟩
    · exact absurd (published.symm.trans none) some_address
    · rw [published] at all alike
      refine ⟨published, all, ⟨endpoint.port, named, ?_⟩, ⟨left, waiting.symm⟩, ?_⟩
      · intro a listed
        rw [alike a listed]
      · rw [waiting, List.append_left_eq_self, clear, as_before]
  · intro one
    rw [one]
    exact ⟨fun _ _ _ _ _ => first_refused_of_one, fun _ _ => first_refused_of_one⟩

namespace Contended

/-! Two acceptors on a port of the system's choice, with other programs after the same ports. -/

def wanted : Endpoint := ⟨"127.0.0.1", 0⟩

def portFor (free : Nat) (e : Endpoint) : Endpoint := ⟨e.host, if e.port = 0 then free else e.port⟩

def refusing (first : Nat) : Attempts := fun i e =>
  if i < first then .ok (portFor 40000 e)
  else .error (.network "Bind failed: Address already in use (os error 98)")

def granting : Attempts := fun _ e => .ok (portFor 40001 e)

theorem portFor_fair {free : Nat} (some_port : free ≠ 0) (e : Endpoint) :
    (portFor free e).host = e.host ∧ (portFor free e).port ≠ 0 ∧ (e.port ≠ 0 → (portFor free e).port = e.port) := by
  unfold portFor
  split <;> simp_all

theorem refusing_fair (first : Nat) : (refusing first).Fair := by
  intro i e bound answer
  unfold refusing at answer
  split at answer
  · obtain rfl := Except.ok.inj answer
    exact portFor_fair (by decide) e
  · cases answer

theorem granting_fair : granting.Fair := by
  intro i e bound answer
  obtain rfl := Except.ok.inj answer
  exact portFor_fair (by decide) e

def refused : Except ServerError (List Endpoint) × Listeners := initial.bind (refusing 1) wanted 2

def retried : Except ServerError (List Endpoint) × Listeners := refused.2.bind granting wanted 2

end Contended

/-- A call whose first attempt is refused leaves nothing, so the next one holds just what it publishes. -/
theorem refused_at_once_retried :
    0 < 4 ∧ (∀ attempt ∈ [Contended.refusing 0], attempt.Fair) ∧ acceptorCount true (some 2) 4 = 2 ∧
    (after Contended.wanted 2 [Contended.refusing 0, Contended.granting]).waiting =
      [⟨"127.0.0.1", 40001⟩, ⟨"127.0.0.1", 40001⟩] := by
  have fair : ∀ attempt ∈ [Contended.refusing 0], attempt.Fair := by
    intro attempt listed
    rw [List.mem_singleton.mp listed]
    exact Contended.refusing_fair 0
  have at_once : FailedAtOnce Contended.wanted 2 [Contended.refusing 0] := by
    rintro before attempt later split e _
    cases before with
    | nil =>
      cases split
      exact ⟨_, rfl⟩
    | cons => simp at split
  have account := refused_call_keeps_opened true (some 2) (by decide : 0 < 4) Contended.wanted fair
  obtain ⟨_, _, _, _, held⟩ := account.2.1 Contended.granting _ Contended.granting_fair rfl
  exact ⟨by decide, fair, rfl, held.mpr at_once⟩

/-- A call that fails at its second attempt leaves a listener behind. The next call succeeds, with one listener more
than there are acceptors and addresses, on another port; to start is to accept from all three. -/
theorem refused_attempt_leaves_listener :
    Contended.refused = (.error (.network "Bind failed: Address already in use (os error 98)"),
      ⟨[⟨"127.0.0.1", 40000⟩], []⟩) ∧
    Contended.retried.1 = .ok [⟨"127.0.0.1", 40001⟩, ⟨"127.0.0.1", 40001⟩] ∧
    Contended.retried.2.waiting =
      [⟨"127.0.0.1", 40000⟩, ⟨"127.0.0.1", 40001⟩, ⟨"127.0.0.1", 40001⟩] ∧
    (Contended.refused.2.start Contended.granting Contended.wanted 2).1 = .ok Contended.retried.2.waiting ∧
    ¬∀ (n : Nat) (wanted : Endpoint) (attempt : Attempts) (l : Listeners) (e : ServerError), attempt.Fair →
      (l.bind attempt wanted n).1 = .error e → (l.bind attempt wanted n).2.waiting = l.waiting := by
  refine ⟨rfl, rfl, rfl, rfl, ?_⟩
  intro clean
  have kept := clean 2 Contended.wanted (Contended.refusing 1) initial _ (Contended.refusing_fair 1) rfl
  cases kept

end Listeners

end SessionGateway.Gateway
