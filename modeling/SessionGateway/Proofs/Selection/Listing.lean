import SessionGateway.Proofs.Selection.Resolution
import SessionGateway.Proofs.Since

/-! The directory in the course of time. What a service lists is told by what was asked so far: whoever was
registered and not removed since, as registered last, in the order of coming in. To be registered once more
is to stay in one's place, and to come back after a removal is to go to the end. -/
namespace SessionGateway.Selection

inductive Enrolment where
  | register (service : String) (i : Instance)
  | deregister (service id : String)
  deriving DecidableEq, Repr

def Enrolment.service : Enrolment → String
  | register service _ => service
  | deregister service _ => service

def Enrolment.edit : Enrolment → List Instance → List Instance
  | register _ i => placeInstance i
  | deregister _ id => (·.filter (·.id ≠ id))

/-- An instance is registered with the service under this id. -/
def Enrolment.Enters (service id : String) : Enrolment → Prop
  | register service' i => service' = service ∧ i.id = id
  | deregister _ _ => False

/-- Under this id an instance was registered with the service, and it was not removed since. -/
def Enrolled (record : List Enrolment) (service id : String) : Prop :=
  Since (·.Enters service id) (· = .deregister service id) record

/-- Of the registrations under this id since it was last removed, the earliest has this number. -/
def EnrolledAt (record : List Enrolment) (service id : String) (n : Nat) : Prop :=
  SinceAt (·.Enters service id) (· = .deregister service id) record n

/-- This very instance was registered with the service, and since then nothing was registered or removed under
its id. -/
def Latest (record : List Enrolment) (service : String) (i : Instance) : Prop :=
  Since (· = .register service i) (fun e => e.Enters service i.id ∨ e = .deregister service i.id) record

namespace Directory

def enrol (d : Directory) : Enrolment → Directory
  | .register service i => d.register service i
  | .deregister service id => (d.deregister service id).2

def after (d : Directory) (record : List Enrolment) : Directory := record.foldl enrol d

theorem after_concat (d : Directory) (record : List Enrolment) (e : Enrolment) :
    d.after (record ++ [e]) = (d.after record).enrol e := by
  simp [after]

end Directory

/-! ### One more call -/

section Recorded

variable {record : List Enrolment} {service id : String} {i j : Instance} {n : Nat}

theorem Enrolment.enters_apart (e : Enrolment) (enters : e.Enters service id) : e ≠ .deregister service id := by
  rintro rfl
  exact enters

theorem enrolled_register : Enrolled (record ++ [.register service i]) service id ↔
    i.id = id ∨ Enrolled record service id := by
  simp [Enrolled, since_concat, Enrolment.Enters]

theorem enrolledAt_register : EnrolledAt (record ++ [.register service i]) service id n ↔
    (n = record.length ∧ i.id = id ∧ ¬Enrolled record service id) ∨ EnrolledAt record service id n := by
  simp [EnrolledAt, Enrolled, sinceAt_concat, Enrolment.Enters]

theorem EnrolledAt.of_register (since : EnrolledAt (record ++ [.register service i]) service id n)
    (known : Enrolled record service id) : EnrolledAt record service id n :=
  (enrolledAt_register.mp since).resolve_left fun ⟨_, _, unknown⟩ => unknown known

theorem latest_register : Latest (record ++ [.register service i]) service j ↔
    j = i ∨ i.id ≠ j.id ∧ Latest record service j := by
  simp [Latest, since_concat, Enrolment.Enters, eq_comm]

theorem enrolled_deregister {gone : String} : Enrolled (record ++ [.deregister service gone]) service id ↔
    gone ≠ id ∧ Enrolled record service id := by
  simp [Enrolled, since_concat, Enrolment.Enters]

theorem enrolledAt_deregister {gone : String} :
    EnrolledAt (record ++ [.deregister service gone]) service id n ↔
      gone ≠ id ∧ EnrolledAt record service id n := by
  simp [EnrolledAt, sinceAt_concat, Enrolment.Enters]

theorem latest_deregister {gone : String} : Latest (record ++ [.deregister service gone]) service j ↔
    gone ≠ j.id ∧ Latest record service j := by
  simp [Latest, since_concat, Enrolment.Enters]

section Elsewhere

variable {e : Enrolment} (elsewhere : e.service ≠ service)

include elsewhere

theorem Enrolment.not_enters : ¬e.Enters service id := by
  cases e with
  | register service' i => exact fun enters => elsewhere enters.1
  | deregister _ _ => exact not_false

theorem Enrolment.not_register : e ≠ .register service i := by
  rintro rfl
  exact elsewhere rfl

theorem Enrolment.not_deregister : e ≠ .deregister service id := by
  rintro rfl
  exact elsewhere rfl

theorem enrolled_elsewhere : Enrolled (record ++ [e]) service id ↔ Enrolled record service id := by
  simp [Enrolled, since_concat, e.not_enters elsewhere, e.not_deregister elsewhere]

theorem enrolledAt_elsewhere : EnrolledAt (record ++ [e]) service id n ↔ EnrolledAt record service id n := by
  simp [EnrolledAt, sinceAt_concat, e.not_enters elsewhere, e.not_deregister elsewhere]

theorem latest_elsewhere : Latest (record ++ [e]) service i ↔ Latest record service i := by
  simp [Latest, since_concat, e.not_enters elsewhere, e.not_register elsewhere, e.not_deregister elsewhere]

end Elsewhere

end Recorded

/-! ### The list of a service -/

theorem mem_placeInstance_iff {i j : Instance} {list : List Instance} (distinct : (list.map (·.id)).Nodup) :
    j ∈ placeInstance i list ↔ j = i ∨ i.id ≠ j.id ∧ j ∈ list := by
  induction list with
  | nil => simp [placeInstance]
  | cons first later ih =>
    obtain ⟨fresh, rest⟩ := List.nodup_cons.mp distinct
    by_cases same : first.id = i.id
    · have others : ∀ k ∈ later, i.id ≠ k.id := by
        intro k listed again
        exact fresh (List.mem_map.mpr ⟨k, listed, (same.trans again).symm⟩)
      rw [placeInstance, if_pos same, List.mem_cons, List.mem_cons]
      constructor
      · rintro (rfl | listed)
        · exact Or.inl rfl
        · exact Or.inr ⟨others j listed, Or.inr listed⟩
      · rintro (rfl | ⟨differs, rfl | listed⟩)
        · exact Or.inl rfl
        · exact absurd same.symm differs
        · exact Or.inr listed
    · rw [placeInstance, if_neg same, List.mem_cons, List.mem_cons, ih rest]
      by_cases here : j = first
      · subst here
        simp [Ne.symm same]
      · simp [here]

structure Tells (record : List Enrolment) (service : String) (list : List Instance) : Prop where
  distinct : (list.map (·.id)).Nodup
  enrolled : ∀ id, id ∈ list.map (·.id) ↔ Enrolled record service id
  latest : ∀ i, i ∈ list ↔ Latest record service i
  order : (list.map (·.id)).Pairwise fun a b =>
    ∀ m n, EnrolledAt record service a m → EnrolledAt record service b n → m < n

namespace Tells

variable {record : List Enrolment} {service : String} {list : List Instance}

theorem nil : Tells [] service [] where
  distinct := List.nodup_nil
  enrolled id := by simp [Enrolled, not_since_nil]
  latest i := by simp [Latest, not_since_nil]
  order := List.Pairwise.nil

theorem elsewhere (tells : Tells record service list) {e : Enrolment} (elsewhere : e.service ≠ service) :
    Tells (record ++ [e]) service list where
  distinct := tells.distinct
  enrolled id := by rw [enrolled_elsewhere elsewhere, tells.enrolled]
  latest i := by rw [latest_elsewhere elsewhere, tells.latest]
  order := by simpa only [enrolledAt_elsewhere elsewhere] using tells.order

theorem register (tells : Tells record service list) (i : Instance) :
    Tells (record ++ [.register service i]) service (placeInstance i list) where
  distinct := placeInstance_distinct tells.distinct
  enrolled id := by
    rw [enrolled_register, ← tells.enrolled, placeInstance_ids]
    split
    · next known =>
      constructor
      · exact Or.inr
      · rintro (rfl | listed) <;> assumption
    · simp [or_comm, eq_comm]
  latest j := by rw [latest_register, ← tells.latest, mem_placeInstance_iff tells.distinct]
  order := by
    -- Who is on the list came in before, whether or not this registration is theirs.
    have earlier : (list.map (·.id)).Pairwise fun a b => ∀ m n,
        EnrolledAt (record ++ [.register service i]) service a m →
        EnrolledAt (record ++ [.register service i]) service b n → m < n := by
      refine tells.order.imp_of_mem ?_
      intro a b hereA hereB before m n sinceA sinceB
      exact before m n (sinceA.of_register ((tells.enrolled a).mp hereA))
        (sinceB.of_register ((tells.enrolled b).mp hereB))
    rw [placeInstance_ids]
    split
    · exact earlier
    · next fresh =>
      refine List.pairwise_append.mpr ⟨earlier, List.pairwise_singleton _ _, ?_⟩
      intro a here b last m n sinceA sinceB
      obtain rfl := List.mem_singleton.mp last
      have unknown : ¬Enrolled record service i.id := fun known => fresh ((tells.enrolled _).mpr known)
      rcases enrolledAt_register.mp sinceB with ⟨rfl, _⟩ | since
      · exact (sinceA.of_register ((tells.enrolled a).mp here)).lt_length
      · exact absurd since.since unknown

theorem deregister (tells : Tells record service list) (gone : String) :
    Tells (record ++ [.deregister service gone]) service (list.filter (·.id ≠ gone)) := by
  have ids : (list.filter (·.id ≠ gone)).map (·.id) = (list.map (·.id)).filter (· ≠ gone) := by
    rw [List.filter_map]
    rfl
  refine ⟨?_, ?_, ?_, ?_⟩
  · rw [ids]
    exact tells.distinct.filter _
  · intro id
    rw [ids, enrolled_deregister, ← tells.enrolled, List.mem_filter, decide_eq_true_eq, and_comm, ne_comm]
  · intro i
    rw [latest_deregister, ← tells.latest, List.mem_filter, decide_eq_true_eq, and_comm, ne_comm]
  · rw [ids]
    refine (tells.order.filter _).imp ?_
    intro a b before m n sinceA sinceB
    exact before m n (enrolledAt_deregister.mp sinceA).2 (enrolledAt_deregister.mp sinceB).2

end Tells

namespace Directory

theorem deregister_iff (d : Directory) (service id : String) :
    (d.deregister service id).1 = true ↔ id ∈ (d.instances service).map (·.id) := by
  unfold deregister
  split <;> simp_all

/-- A call edits the list of one service. -/
theorem instances_enrol (d : Directory) (e : Enrolment) (service : String) :
    (d.enrol e).instances service =
      if e.service = service then e.edit (d.instances service) else d.instances service := by
  cases e with
  | register name i => exact instances_update (placeInstance i) name service d.services
  | deregister name id =>
    rw [enrol, deregister]
    split
    · exact instances_update (·.filter (·.id ≠ id)) name service d.services
    · next unlisted =>
      split
      · next here =>
        obtain rfl : name = service := here
        refine (List.filter_eq_self.mpr ?_).symm
        intro i listed
        refine decide_eq_true fun gone => unlisted ?_
        exact List.any_eq_true.mpr ⟨i, listed, decide_eq_true gone⟩
      · rfl

theorem after_tells (record : List Enrolment) (service : String) :
    Tells record service ((empty.after record).instances service) := by
  induction record using List.reverseRecOn with
  | nil => exact .nil
  | append_singleton record e ih =>
    rw [after_concat, instances_enrol]
    split
    · next here =>
      subst here
      cases e with
      | register service i => exact ih.register i
      | deregister service gone => exact ih.deregister gone
    · next elsewhere => exact ih.elsewhere elsewhere

/-- After any calls, a service lists no id twice, and just those that were registered with it and not removed
since, each as it was registered last, in the order in which they came in. A call leaves the lists of all other
services alone, and a removal tells whether the id was listed. -/
theorem listed_as_enrolled (record : List Enrolment) :
    let d := empty.after record
    (∀ service,
      let ids := (d.instances service).map (·.id)
      ids.Nodup ∧
      (∀ id, id ∈ ids ↔ Enrolled record service id) ∧
      (∀ i, i ∈ d.instances service ↔ Latest record service i) ∧
      (∀ id ∈ ids, ∃ n, EnrolledAt record service id n) ∧
      ids.Pairwise fun a b => ∀ m n, EnrolledAt record service a m → EnrolledAt record service b n → m < n) ∧
    (∀ e service, e.service ≠ service → (d.enrol e).instances service = d.instances service) ∧
    ∀ service id, (d.deregister service id).1 = true ↔ id ∈ (d.instances service).map (·.id) := by
  intro d
  refine ⟨?_, ?_, d.deregister_iff⟩
  · intro service ids
    have tells : Tells record service (d.instances service) := after_tells record service
    refine ⟨tells.distinct, tells.enrolled, tells.latest, ?_, tells.order⟩
    intro id listed
    exact Since.exists_at Enrolment.enters_apart ((tells.enrolled id).mp listed)
  · intro e service elsewhere
    rw [instances_enrol, if_neg elsewhere]

/-- The first is registered again where it stands, the second comes back after a removal. -/
example :
    let first : Instance := ⟨"n1", "10.0.0.1", 9001⟩
    let second : Instance := ⟨"n2", "10.0.0.2", 9001⟩
    let third : Instance := ⟨"n3", "10.0.0.3", 9001⟩
    (empty.after [.register "game" first, .register "game" second, .register "game" { first with port := 9100 },
      .deregister "game" "n2", .register "game" third, .deregister "chat" "n1", .register "game" second]).instances
        "game" = [{ first with port := 9100 }, third, second] := by
  decide

end Directory

end SessionGateway.Selection
