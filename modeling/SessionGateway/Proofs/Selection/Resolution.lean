import SessionGateway.Selection.Resolver
import SessionGateway.Proofs.Text.Distinct

/-! Choosing a node and resolving one are two ways through the same two tables. They agree because an id
stands at most once in each of them: whoever is chosen is found again under its id, at the same address. -/
namespace SessionGateway.Selection

/-! ### Live instances -/

theorem placeInstance_ids (i : Instance) (list : List Instance) :
    (placeInstance i list).map (·.id) =
      if i.id ∈ list.map (·.id) then list.map (·.id) else list.map (·.id) ++ [i.id] := by
  induction list with
  | nil => rfl
  | cons j later ih =>
    by_cases same : j.id = i.id
    · simp [placeInstance, same]
    · have further : i.id ∈ (j :: later).map (·.id) ↔ i.id ∈ later.map (·.id) := by
        rw [List.map_cons, List.mem_cons, or_iff_right (Ne.symm same)]
      rw [placeInstance, if_neg same, List.map_cons, ih, if_congr further rfl rfl]
      split <;> simp

theorem placeInstance_distinct {i : Instance} {list : List Instance}
    (distinct : (list.map (·.id)).Nodup) : ((placeInstance i list).map (·.id)).Nodup := by
  rw [placeInstance_ids]
  split
  · exact distinct
  · rename_i fresh
    exact List.nodup_append.mpr ⟨distinct, List.nodup_singleton _, by
      rintro id listed _ same rfl
      rw [List.mem_singleton.mp same] at listed
      exact fresh listed⟩

namespace Directory

theorem instances_cons (service name : String) (list : List Instance)
    (later : List (String × List Instance)) :
    instances ⟨(service, list) :: later⟩ name =
      if service = name then list else instances ⟨later⟩ name := by
  by_cases here : service = name <;> simp [instances, here]

theorem instances_update (f : List Instance → List Instance) (service name : String)
    (services : List (String × List Instance)) :
    instances ⟨update f service services⟩ name =
      if service = name then f (instances ⟨services⟩ name) else instances ⟨services⟩ name := by
  induction services with
  | nil => by_cases known : service = name <;> simp [instances, update, known]
  | cons first later ih =>
    rw [update]
    by_cases here : first.1 = service
    · subst here
      rw [if_pos rfl, instances_cons, instances_cons]
      split <;> rfl
    · rw [if_neg here, instances_cons, ih, instances_cons]
      by_cases found : first.1 = name
      · rw [if_pos found, if_neg (fun same => here (found.trans same.symm)), if_pos found]
      · rw [if_neg found, if_neg found]

section Preserved

variable {P : List Instance → Prop} {d : Directory} (holds : ∀ service, P (d.instances service))

include holds

theorem update_preserves {f : List Instance → List Instance} (keeps : ∀ list, P list → P (f list))
    (service : String) : ∀ name, P (instances ⟨update f service d.services⟩ name) := by
  intro name
  rw [instances_update]
  split
  · exact keeps _ (holds name)
  · exact holds name

theorem deregister_preserves {id : String} (keeps : ∀ list, P list → P (list.filter (·.id ≠ id)))
    (service : String) : ∀ name, P ((d.deregister service id).2.instances name) := by
  unfold deregister
  split
  · exact update_preserves holds keeps service
  · exact holds

end Preserved

def Distinct (d : Directory) : Prop := ∀ service, ((d.instances service).map (·.id)).Nodup

theorem empty_distinct : empty.Distinct := fun _ => List.nodup_nil

theorem Distinct.register {d : Directory} (distinct : d.Distinct) (service : String) (i : Instance) :
    (d.register service i).Distinct :=
  update_preserves (P := fun list => (list.map Instance.id).Nodup) distinct
    (fun _ => placeInstance_distinct) service

theorem Distinct.deregister {d : Directory} (distinct : d.Distinct) (service id : String) :
    (d.deregister service id).2.Distinct := by
  refine deregister_preserves (P := fun list => (list.map Instance.id).Nodup) distinct ?_ service
  intro list nodup
  exact nodup.sublist (List.filter_sublist.map _)

end Directory

/-! ### Configured nodes -/

theorem NodeTable.address?_of_mem (t : NodeTable) {node : String × String}
    (listed : node ∈ t.entries) : t.address? node.1 = some node.2 :=
  t.value?_eq_some_iff.mpr listed

/-! ### Choosing -/

theorem Rotation.choose_nil (source : Nat → Nat) (r : Rotation) (strategy : Strategy)
    (kind : Candidates) {α : Type} (player : Option Int64) :
    r.choose source strategy kind ([] : List α) player = (none, r) := rfl

theorem Rotation.choose_mem (source : Nat → Nat) (r : Rotation) (strategy : Strategy)
    (kind : Candidates) {α : Type} {among : List α} (candidates : among ≠ []) (player : Option Int64) :
    ∃ a ∈ among, (r.choose source strategy kind among player).1 = some a := by
  unfold choose select
  match among, candidates with
  | [a], _ => exact ⟨a, List.mem_singleton_self a, rfl⟩
  | a :: b :: rest, _ =>
    have within : (r.pick source strategy kind player).1 % (a :: b :: rest).length <
        (a :: b :: rest).length := Nat.mod_lt _ (Nat.succ_pos _)
    exact ⟨_, List.getElem_mem within, List.getElem?_eq_getElem within⟩

namespace Resolver

variable (source : Nat → Nat) (r : Resolver) (strategy : Strategy) (player : Option Int64)

theorem choose_of_unlisted (none_live : r.live = []) (none_configured : r.nodes.entries = []) :
    r.choose source strategy player = (none, r) := by
  unfold choose
  rw [none_live, none_configured, Rotation.choose_nil]

theorem choose_listed (listed : r.live ≠ [] ∨ r.nodes.entries ≠ []) :
    (∃ i ∈ r.live, (r.choose source strategy player).1 = some (i.id, i.address)) ∨
    r.live = [] ∧ ∃ node ∈ r.nodes.entries, (r.choose source strategy player).1 = some node := by
  unfold choose
  split
  · rename_i none_live
    have configured : r.nodes.entries ≠ [] := listed.resolve_left (absurd none_live)
    exact Or.inr ⟨none_live,
      r.rotation.choose_mem source strategy .configured configured player⟩
  · rename_i some_live
    obtain ⟨i, member, chosen⟩ : ∃ i ∈ r.live,
        (r.rotation.choose source strategy .live r.live player).1 = some i :=
      r.rotation.choose_mem source strategy .live some_live player
    exact Or.inl ⟨i, member, by simp [chosen]⟩

theorem choose_eq_none_iff :
    (r.choose source strategy player).1 = none ↔ r.live = [] ∧ r.nodes.entries = [] := by
  constructor
  · intro unchosen
    by_contra listed
    rcases choose_listed source r strategy player (by tauto) with ⟨i, _, chosen⟩ | ⟨_, node, _, chosen⟩
    · cases unchosen.symm.trans chosen
    · cases unchosen.symm.trans chosen
  · rintro ⟨none_live, none_configured⟩
    rw [choose_of_unlisted source r strategy player none_live none_configured]

theorem choose_eq_some {node address : String}
    (chosen : (r.choose source strategy player).1 = some (node, address)) :
    (∃ i ∈ r.live, i.id = node ∧ i.address = address) ∨
    r.live = [] ∧ (node, address) ∈ r.nodes.entries := by
  have listed : r.live ≠ [] ∨ r.nodes.entries ≠ [] := by
    by_contra unlisted
    have unchosen := (choose_eq_none_iff source r strategy player).mpr (by tauto)
    cases unchosen.symm.trans chosen
  rcases choose_listed source r strategy player listed with
    ⟨i, member, found⟩ | ⟨none_live, entry, member, found⟩
  · obtain ⟨rfl, rfl⟩ := Prod.mk.inj (Option.some.inj (found.symm.trans chosen))
    exact Or.inl ⟨i, member, rfl, rfl⟩
  · obtain rfl := Option.some.inj (found.symm.trans chosen)
    exact Or.inr ⟨none_live, member⟩

theorem address?_of_choose (distinct : (r.live.map (·.id)).Nodup) {node address : String}
    (chosen : (r.choose source strategy player).1 = some (node, address)) :
    r.address? node = some address := by
  rcases choose_eq_some source r strategy player chosen with ⟨i, member, rfl, rfl⟩ | ⟨none_live, member⟩
  · rw [address?, Text.find?_of_distinct distinct member]
  · rw [address?, none_live]
    exact r.nodes.address?_of_mem member

end Resolver

end SessionGateway.Selection
