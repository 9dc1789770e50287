import SessionGateway.Proofs.Gateway.Handling
import Mathlib.Control.Monad.Basic

/-! Forwards that fail. Until a link is found nothing waits that did not wait before. From then on the request is
entered, and a frame that is not written strikes its key out, and with it an unanswered request that bore
the same key before. -/
namespace SessionGateway.Gateway

open Wire Selection

variable {g : Setup} {s s' : State} {h : Handle} {address : String} {e : ForwardError}

def ForwardError.Unreached (address : String) : ForwardError → Prop
  | .invalidAddress address' | .connectFailed address' | .connectTimeout address' _ | .unavailable address'
  | .closed address' => address' = address
  | .write _ _ => False

theorem obstacle_unreached {reach : Reach} (met : State.obstacle? g address reach = some e) :
    e.Unreached address := by
  unfold State.obstacle? at met
  split at met
  · cases met
    rfl
  split at met
  · cases met
    rfl
  split at met
  · cases met
    rfl
  · split at met <;> cases met <;> rfl

theorem openLink_unreached (failed : (s.openLink g address).1 = .error e) : e.Unreached address := by
  unfold State.openLink at failed
  dsimp only at failed
  split at failed
  · rename_i met
    cases failed
    exact obstacle_unreached met
  · cases failed

theorem check_succeeds (s : State) (address : String) (slot id : Nat) :
    (s.check address slot id).1 ≠ .error e := by
  unfold State.check
  split <;> simp

theorem seek_unreached (failed : (s.seek g address).1 = .error e) : e.Unreached address := by
  unfold State.seek at failed
  dsimp only at failed
  split at failed
  · exact absurd failed (check_succeeds _ _ _ _)
  · split at failed
    · rename_i met
      cases failed
      exact openLink_unreached (congrArg Prod.fst met)
    · exact absurd failed (check_succeeds _ _ _ _)

theorem linkFor_unreached {looks : Nat} (failed : (s.linkFor g address looks).1 = .error e) :
    e.Unreached address := by
  induction looks generalizing s with
  | zero =>
    cases failed
    rfl
  | succ looks ih =>
    unfold State.linkFor at failed
    split at failed
    · cases failed
      rfl
    · split at failed
      · rename_i met
        cases failed
        exact seek_unreached (congrArg Prod.fst met)
      · cases failed
      · exact ih failed

/-- A failed forward changes no session. As long as no link to the address is found it ends no wait. A frame that
found a link and is not written ends the wait under its own key, and no other. A reply to any other
request that waited before still finds the session it is for. -/
theorem failed_forward_keeps_others (g : Setup) {s s' : State} {h : Handle} {session : Session}
    {address : String} {p : ClientPacket} {e : ForwardError} (hs : s.session? h = some session)
    (failed : s.forward g address h p = (.error e, s')) :
    let key : RequestKey := ⟨session.id, p.seq.toInt32⟩
    let entered := ∃ id, (s.linkFor g address 2).1 = .ok id
    s'.seats = s.seats ∧
    (entered → e.Unwritten address) ∧
    (¬entered → e.Unreached address) ∧
    (∀ k, k ∈ s'.pending.keys ↔ k ∈ s.pending.keys ∧ ¬(k = key ∧ entered)) ∧
    ((∀ k, k ∈ s'.pending.keys ↔ k ∈ s.pending.keys) ↔ ¬(key ∈ s.pending.keys ∧ entered)) ∧
    ∀ q : NodePacket, (⟨q.session, q.seq⟩ : RequestKey) ∈ s.pending.keys →
      ¬((⟨q.session, q.seq⟩ : RequestKey) = key ∧ entered) →
      (s'.pending.take ⟨q.session, q.seq⟩).1 = some q.session ∧
      s'.find? q.session = s.find? q.session := by
  intro key entered
  have kept : s'.seats = s.seats ∧ (entered → e.Unwritten address) ∧ (¬entered → e.Unreached address) ∧
      ∀ k, k ∈ s'.pending.keys ↔ k ∈ s.pending.keys ∧ ¬(k = key ∧ entered) := by
    rcases forward_cases g hs address p with ⟨e', _, _, _, _, hf, missed, _⟩ |
      ⟨e', _, _, _, _, _, hf, ⟨found, unwritten⟩, _⟩ | ⟨_, _, _, _, _, _, hf, _⟩
    · rw [hf] at failed
      cases failed
      have early : ¬entered := by simp [entered, missed]
      exact ⟨rfl, fun late => absurd late early, fun _ => linkFor_unreached missed, by simp [early]⟩
    · rw [hf] at failed
      cases failed
      have late : entered := found
      refine ⟨rfl, fun _ => unwritten, fun early => absurd late early, fun k => ?_⟩
      simp only [Pending.mem_insert_take, late, and_true, key, ne_eq]
    · rw [hf] at failed
      cases failed
  obtain ⟨seats, unwritten, unreached, keys⟩ := kept
  refine ⟨seats, unwritten, unreached, keys, ?_, ?_⟩
  · constructor
    · rintro same ⟨waits, found⟩
      exact ((keys key).mp ((same key).mpr waits)).2 ⟨rfl, found⟩
    · intro unshared k
      rw [keys]
      constructor
      · exact And.left
      · intro hk
        refine ⟨hk, ?_⟩
        rintro ⟨rfl, found⟩
        exact unshared ⟨hk, found⟩
  · intro q waits other
    refine ⟨Pending.take_of_mem ((keys _).mpr ⟨waits, other⟩), ?_⟩
    unfold State.find?
    rw [seats]

namespace Cramped

/-! A gateway whose frame limit a client's frame can meet and the frame for the node then exceeds. -/

def setup : Setup where
  frameLimit := 64
  queueCapacity := 4
  rate := .standard
  heartbeats := ⟨60000, 30000, none, 3⟩
  connectTimeout := 5000
  loginId := 11000
  strategy := .roundRobin
  interceptor := none
  draws := id

def request (seq : Int16) (length : Nat) : ClientPacket :=
  { msgId := setup.loginId, seq, magic := 0, body := List.replicate length 0 }

def octets (p : ClientPacket) : Octets :=
  match setup.clientCodec.encode (.client p) with
  | .ok bytes => bytes
  | .error _ => []

def resolver : Resolver := ⟨"game-node", none, .empty, ⟨0, 0⟩⟩

def start : State := .initial resolver ⟨0, 0⟩ (.steady fun _ => .accepting)

def events : List Event :=
  [.addNode "a" "n:1", .clientConnects none, .clientSends 0 (octets (request 4 1))]

/-- A client connected and sent a request that no node has answered yet. -/
def waiting : State := start.run setup events

def refused (seq : Int16) : State := (waiting.forward setup "n:1" 0 (request seq 52)).2

def answer : NodePacket := { session := 1, msgId := setup.loginId, seq := 4, body := [] }

end Cramped

/-- A refused frame with a number of its own does no harm to the request that waits. -/
theorem refused_forward_keeps_other_number :
    (Cramped.waiting.forward Cramped.setup "n:1" 0 (Cramped.request 5 52)).1 =
      .error (Fault.error "n:1" (.refused (.tooLarge 68 64))) ∧
    (⟨1, 4⟩ : RequestKey) ∈ (Cramped.refused 5).pending.keys := by
  have connected : (Cramped.waiting.session? 0).map (·.id) = some 1 := by decide +kernel
  obtain ⟨session, hs, id⟩ := Option.map_eq_some_iff.mp connected
  have failed : (Cramped.waiting.forward Cramped.setup "n:1" 0 (Cramped.request 5 52)).1 =
      .error (Fault.error "n:1" (.refused (.tooLarge 68 64))) := by decide +kernel
  have kept := (failed_forward_keeps_others Cramped.setup hs (Prod.ext failed rfl)).2.2.2.1 ⟨1, 4⟩
  have waits : (⟨1, 4⟩ : RequestKey) ∈ Cramped.waiting.pending.keys := by decide +kernel
  have other : (⟨1, 4⟩ : RequestKey) ≠ ⟨session.id, (Cramped.request 5 52).seq.toInt32⟩ := by
    rw [id]
    decide
  exact ⟨failed, kept.mpr ⟨waits, fun same => other same.1⟩⟩

/-- A client may use the number of an unanswered request again. If the second frame is refused, nobody
waits for the answer to the first one any more. -/
theorem refused_forward_drops_unanswered :
    (Cramped.waiting.forward Cramped.setup "n:1" 0 (Cramped.request 4 52)).1 =
      .error (Fault.error "n:1" (.refused (.tooLarge 68 64))) ∧
    (⟨1, 4⟩ : RequestKey) ∈ Cramped.waiting.pending.keys ∧
    (⟨1, 4⟩ : RequestKey) ∉ (Cramped.refused 4).pending.keys ∧
    (Cramped.waiting.reply Cramped.setup Cramped.answer).1 = .delivered ∧
    ((Cramped.refused 4).reply Cramped.setup Cramped.answer).1 = .noPending := by
  exact ⟨by decide +kernel, by decide +kernel, by decide +kernel, by decide +kernel, by decide +kernel⟩

end SessionGateway.Gateway
