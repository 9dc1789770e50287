/-! Finite maps from names. The entries are kept in the order of the names, so the position of one
depends on which names there are and not on when they were added. -/
namespace SessionGateway.Text

structure ByName (α : Type) where
  entries : List (String × α)
  sorted : entries.Pairwise (·.1 < ·.1)
  deriving DecidableEq, Repr

namespace ByName

def empty : ByName α := ⟨[], .nil⟩

/-- Puts a thing where its name belongs; what had the name before is replaced. -/
def place (name : String) (a : α) : List (String × α) → List (String × α)
  | [] => [(name, a)]
  | (name', a') :: later =>
    if name = name' then (name, a) :: later
    else if name < name' then (name, a) :: (name', a') :: later
    else (name', a') :: place name a later

theorem mem_place {name : String} {a : α} {es : List (String × α)} {e : String × α}
    (h : e ∈ place name a es) : e = (name, a) ∨ e ∈ es := by
  induction es with
  | nil => simpa [place] using h
  | cons first later ih => grind [place]

theorem place_sorted (name : String) (a : α) (es : List (String × α))
    (h : es.Pairwise (·.1 < ·.1)) : (place name a es).Pairwise (·.1 < ·.1) := by
  induction es with
  | nil => simp [place]
  | cons first later ih =>
    obtain ⟨above, rest⟩ := List.pairwise_cons.1 h
    rw [place]
    split
    · next same => exact List.pairwise_cons.2 ⟨fun e he => same ▸ above e he, rest⟩
    · split
      · next less =>
        refine List.pairwise_cons.2 ⟨fun e he => ?_, h⟩
        rcases List.mem_cons.1 he with rfl | he
        · exact less
        · exact String.lt_trans less (above e he)
      · next differs notLess =>
        refine List.pairwise_cons.2 ⟨fun e he => ?_, ih rest⟩
        rcases mem_place he with rfl | he
        · exact Std.lt_of_le_of_ne (String.not_lt.1 notLess) (Ne.symm differs)
        · exact above e he

def insert (m : ByName α) (name : String) (a : α) : ByName α :=
  ⟨place name a m.entries, place_sorted name a m.entries m.sorted⟩

def ofList (entries : List (String × α)) : ByName α :=
  entries.foldl (fun m (name, a) => m.insert name a) empty

def value? (m : ByName α) (name : String) : Option α :=
  (m.entries.find? (·.1 = name)).map (·.2)

def contains (m : ByName α) (name : String) : Bool := (m.value? name).isSome

def erase (m : ByName α) (name : String) : ByName α :=
  ⟨m.entries.filter (·.1 ≠ name), m.sorted.filter _⟩

def size (m : ByName α) : Nat := m.entries.length

end ByName

end SessionGateway.Text
