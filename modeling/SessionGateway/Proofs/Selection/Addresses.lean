import SessionGateway.Proofs.Selection.Resolution
import SessionGateway.Proofs.Text.Addresses

/-! Addresses of whoever is listed. An instance has an address of the right form if it has a host, since its
port is a number by itself; the address of a configured node is right or wrong as it stands. -/
namespace SessionGateway.Selection

/-! ### Instances -/

theorem Instance.address_eq (i : Instance) : i.address = i.host ++ ":" ++ i.port.toNat.repr := by
  simp [Instance.address, toString]

theorem Instance.address_isAddress {i : Instance} (named : i.host ≠ "") : Text.IsAddress i.address := by
  refine ⟨i.host, i.port.toNat.repr, i.address_eq, named, ?_⟩
  rw [Nat.toList_repr]
  exact Text.toDigits_isNumeral (Nat.le_of_lt_succ i.port.toNat_lt)

theorem mem_placeInstance {i j : Instance} {list : List Instance} (listed : j ∈ placeInstance i list) :
    j = i ∨ j ∈ list := by
  induction list with
  | nil => exact Or.inl (List.mem_singleton.mp listed)
  | cons first later ih =>
    rw [placeInstance] at listed
    split at listed
    · rcases List.mem_cons.mp listed with same | listed
      · exact Or.inl same
      · exact Or.inr (List.mem_cons_of_mem _ listed)
    · rcases List.mem_cons.mp listed with rfl | listed
      · exact Or.inr List.mem_cons_self
      · exact (ih listed).imp_right (List.mem_cons_of_mem _)

namespace Directory

def Hosted (d : Directory) : Prop := ∀ service, ∀ i ∈ d.instances service, i.host ≠ ""

theorem empty_hosted : empty.Hosted := by
  intro service i listed
  cases listed

theorem Hosted.register {d : Directory} (hosted : d.Hosted) (service : String) {i : Instance}
    (named : i.host ≠ "") : (d.register service i).Hosted := by
  refine update_preserves (P := fun list => ∀ i ∈ list, i.host ≠ "") hosted ?_ service
  intro list all j listed
  rcases mem_placeInstance listed with rfl | listed
  · exact named
  · exact all j listed

theorem Hosted.deregister {d : Directory} (hosted : d.Hosted) (service id : String) :
    (d.deregister service id).2.Hosted := by
  refine deregister_preserves (P := fun list => ∀ i ∈ list, i.host ≠ "") hosted ?_ service
  intro list all j listed
  exact all j (List.mem_of_mem_filter listed)

theorem Hosted.registerAll {d : Directory} (hosted : d.Hosted) (service : String) {list : List Instance}
    (named : ∀ i ∈ list, i.host ≠ "") : (list.foldl (fun d i => d.register service i) d).Hosted := by
  induction list generalizing d with
  | nil => exact hosted
  | cons first later ih =>
    have placed := hosted.register service (named first List.mem_cons_self)
    exact ih placed fun i listed => named i (List.mem_cons_of_mem _ listed)

end Directory

/-! ### Whoever is listed -/

namespace Resolver

/-- Whoever is listed has an address of the right form. -/
structure WellAddressed (r : Resolver) : Prop where
  directory : ∀ d, r.directory = some d → d.Hosted
  nodes : ∀ node ∈ r.nodes.entries, Text.IsAddress node.2

namespace WellAddressed

variable {r : Resolver} (well : r.WellAddressed) {node address : String}

include well

theorem live {i : Instance} (listed : i ∈ r.live) : Text.IsAddress i.address := by
  apply Instance.address_isAddress
  unfold Resolver.live at listed
  split at listed
  · next d found => exact well.directory d found r.service i listed
  · cases listed

theorem of_address? (found : r.address? node = some address) : Text.IsAddress address := by
  unfold address? at found
  split at found
  · next i listed =>
    obtain rfl := Option.some.inj found
    exact well.live (List.mem_of_find?_eq_some listed)
  · exact well.nodes (node, address) (r.nodes.value?_eq_some_iff.mp found)

theorem of_choose {source : Nat → Nat} {strategy : Strategy} {player : Option Int64}
    (chosen : (r.choose source strategy player).1 = some (node, address)) : Text.IsAddress address := by
  rcases choose_eq_some source r strategy player chosen with ⟨i, listed, rfl, rfl⟩ | ⟨_, listed⟩
  · exact well.live listed
  · exact well.nodes (node, address) listed

end WellAddressed

end Resolver

end SessionGateway.Selection
