import SessionGateway.Wire.MessageTable
import SessionGateway.Proofs.Text.Distinct

/-! Registered messages. A list of pairs can be registered if it is consistent, and what is registered then can
be looked up in both directions. Otherwise the first entry that offends against those before it is reported.
One list serves for what could as well be kept in two maps. -/
namespace SessionGateway.Wire.MessageTable

/-- No name and no id stands twice, and no id belongs to the heartbeat. -/
structure Consistent (entries : List (String × MessageId)) : Prop where
  names : (entries.map (·.1)).Nodup
  ids : (entries.map (·.2)).Nodup
  free : ∀ e ∈ entries, isReserved e.2 = false

variable {t t' : MessageTable} {entries later : List (String × MessageId)} {name : String} {id : MessageId}

/-! ### Looking up -/

theorem idOf?_eq_none_iff : t.idOf? name = none ↔ name ∉ t.entries.map (·.1) :=
  Text.map_find?_eq_none_iff

theorem nameOf?_eq_none_iff : t.nameOf? id = none ↔ id ∉ t.entries.map (·.2) :=
  Text.map_find?_eq_none_iff

theorem Consistent.idOf?_iff (c : Consistent t.entries) :
    t.idOf? name = some id ↔ (name, id) ∈ t.entries := by
  rw [idOf?, Text.map_find?_eq_some_iff_of_distinct c.names]
  constructor
  · rintro ⟨_, listed, rfl, rfl⟩
    exact listed
  · intro listed
    exact ⟨(name, id), listed, rfl, rfl⟩

theorem Consistent.nameOf?_iff (c : Consistent t.entries) :
    t.nameOf? id = some name ↔ (name, id) ∈ t.entries := by
  rw [nameOf?, Text.map_find?_eq_some_iff_of_distinct c.ids]
  constructor
  · rintro ⟨_, listed, rfl, rfl⟩
    exact listed
  · intro listed
    exact ⟨(name, id), listed, rfl, rfl⟩

/-! ### Registering -/

theorem nil_consistent : Consistent [] := ⟨List.nodup_nil, List.nodup_nil, by simp⟩

theorem Consistent.front (c : Consistent (entries ++ later)) : Consistent entries where
  names := by
    have names := c.names
    rw [List.map_append] at names
    exact (List.nodup_append.mp names).1
  ids := by
    have ids := c.ids
    rw [List.map_append] at ids
    exact (List.nodup_append.mp ids).1
  free e listed := c.free e (List.mem_append_left later listed)

theorem nodup_map_concat {α β : Type} (key : α → β) (list : List α) (a : α) :
    ((list ++ [a]).map key).Nodup ↔ key a ∉ list.map key ∧ (list.map key).Nodup := by
  rw [List.map_append, List.map_singleton, ← List.concat_eq_append, List.nodup_concat]

/-- One more entry is consistent with the others just if it can be registered after them. -/
theorem consistent_concat_iff : Consistent (t.entries ++ [(name, id)]) ↔
    Consistent t.entries ∧ isReserved id = false ∧ t.idOf? name = none ∧ t.nameOf? id = none := by
  rw [idOf?_eq_none_iff, nameOf?_eq_none_iff]
  constructor
  · intro c
    obtain ⟨newName, _⟩ := (nodup_map_concat _ _ _).mp c.names
    obtain ⟨newId, _⟩ := (nodup_map_concat _ _ _).mp c.ids
    exact ⟨c.front, c.free (name, id) (by simp), newName, newId⟩
  · rintro ⟨c, free, newName, newId⟩
    refine ⟨(nodup_map_concat _ _ _).mpr ⟨newName, c.names⟩,
      (nodup_map_concat _ _ _).mpr ⟨newId, c.ids⟩, ?_⟩
    intro e listed
    rcases List.mem_append.mp listed with listed | last
    · exact c.free e listed
    · rw [List.mem_singleton.mp last]
      exact free

theorem register_eq_ok_iff (c : Consistent t.entries) : t.register name id = .ok t' ↔
    Consistent (t.entries ++ [(name, id)]) ∧ t' = ⟨t.entries ++ [(name, id)]⟩ := by
  rw [consistent_concat_iff, register]
  cases reserved : isReserved id <;> cases named : t.idOf? name <;> cases held : t.nameOf? id <;>
    simp [c, eq_comm]

theorem registerAll_eq_ok_iff (c : Consistent t.entries) (position : Nat) :
    t.registerAll position later = .ok t' ↔
      Consistent (t.entries ++ later) ∧ t' = ⟨t.entries ++ later⟩ := by
  -- Whether an entry fits in depends on all before it, so the table grows with the induction.
  induction later generalizing t position with
  | nil =>
    rw [registerAll, List.append_nil]
    constructor
    · intro registered
      exact ⟨c, (Except.ok.inj registered).symm⟩
    · rintro ⟨_, rfl⟩
      rfl
  | cons first later ih =>
    obtain ⟨name, id⟩ := first
    rw [registerAll, List.append_cons]
    cases registered : t.register name id with
    | ok t₁ =>
      obtain ⟨c₁, rfl⟩ := (register_eq_ok_iff c).mp registered
      exact ih c₁ (position + 1)
    | error e =>
      constructor
      · intro refused
        cases refused
      · rintro ⟨c₁, _⟩
        have accepted := (register_eq_ok_iff c).mpr ⟨c₁.front, rfl⟩
        cases registered.symm.trans accepted

theorem ofList_eq_ok_iff : ofList entries = .ok t ↔ Consistent entries ∧ t = ⟨entries⟩ :=
  registerAll_eq_ok_iff nil_consistent 0

/-! ### The first offence -/

theorem isReserved_iff : isReserved id = true ↔ id = 0 ∨ id = 1 := by
  simp [isReserved, heartbeatRequestId, heartbeatResponseId]

/-- What is wrong with an entry that comes after others. Of several faults only the first is told. -/
inductive Offends (earlier : List (String × MessageId)) (name : String) (id : MessageId) :
    RegistrationError → Prop where
  | reserved (heartbeat : id = 0 ∨ id = 1) : Offends earlier name id (.reserved name id)
  | duplicateName (free : ¬(id = 0 ∨ id = 1)) (taken : name ∈ earlier.map (·.1)) :
    Offends earlier name id (.duplicateName name)
  | duplicateId {holder : String} (free : ¬(id = 0 ∨ id = 1)) (fresh : name ∉ earlier.map (·.1))
    (held : (holder, id) ∈ earlier) : Offends earlier name id (.duplicateId id holder)

variable {e : RegistrationError}

theorem register_eq_error_iff (c : Consistent t.entries) :
    t.register name id = .error e ↔ Offends t.entries name id e := by
  have named : (t.idOf? name).isSome = true ↔ name ∈ t.entries.map (·.1) := by
    rw [Option.isSome_iff_ne_none, ne_eq, idOf?_eq_none_iff, not_not]
  unfold register
  constructor
  · intro refused
    split at refused
    · rename_i reserved
      cases refused
      exact .reserved (isReserved_iff.mp reserved)
    rename_i free
    rw [isReserved_iff] at free
    split at refused
    · rename_i taken
      cases refused
      exact .duplicateName free (named.mp taken)
    rename_i fresh
    split at refused
    · rename_i holder held
      cases refused
      exact .duplicateId free (mt named.mpr fresh) (c.nameOf?_iff.mp held)
    · cases refused
  · rintro (heartbeat | ⟨free, taken⟩ | ⟨free, fresh, held⟩)
    · rw [if_pos (isReserved_iff.mpr heartbeat)]
    · rw [if_neg (mt isReserved_iff.mp free), if_pos (named.mpr taken)]
    · rw [if_neg (mt isReserved_iff.mp free), if_neg (mt named.mp fresh), c.nameOf?_iff.mpr held]

theorem registerAll_eq_error_iff (c : Consistent t.entries) (position reported : Nat) :
    t.registerAll position later = .error (reported, e) ↔
      ∃ k name id, reported = position + k ∧ later[k]? = some (name, id) ∧
        Consistent (t.entries ++ later.take k) ∧ Offends (t.entries ++ later.take k) name id e := by
  induction later generalizing t position with
  | nil => simp [registerAll]
  | cons first later ih =>
    obtain ⟨name, id⟩ := first
    rw [registerAll]
    -- The first entry offends, or it is one of those that come before the offence.
    cases registered : t.register name id with
    | ok t₁ =>
      obtain ⟨c₁, rfl⟩ := (register_eq_ok_iff c).mp registered
      refine (ih c₁ (position + 1)).trans ?_
      constructor
      · rintro ⟨k, name', id', rfl, listed, front, offends⟩
        rw [List.append_assoc, List.singleton_append] at front offends
        exact ⟨k + 1, name', id', by omega, listed, front, offends⟩
      · rintro ⟨k | k, name', id', rfl, listed, front, offends⟩
        · cases listed
          rw [List.take_zero, List.append_nil] at offends
          cases registered.symm.trans ((register_eq_error_iff c).mpr offends)
        · rw [List.take_succ_cons, List.append_cons] at front offends
          exact ⟨k, name', id', by omega, listed, front, offends⟩
    | error e' =>
      have offends' := (register_eq_error_iff c).mp registered
      constructor
      · intro refused
        cases refused
        exact ⟨0, name, id, rfl, rfl, by simpa using c, by simpa using offends'⟩
      · rintro ⟨k | k, name', id', rfl, listed, front, offends⟩
        · cases listed
          rw [List.take_zero, List.append_nil] at offends
          cases registered.symm.trans ((register_eq_error_iff c).mpr offends)
          rfl
        · rw [List.take_succ_cons, List.append_cons] at front
          cases registered.symm.trans ((register_eq_ok_iff c).mpr ⟨front.front, rfl⟩)

theorem ofList_eq_error_iff {position : Nat} : ofList entries = .error (position, e) ↔
    ∃ name id, entries[position]? = some (name, id) ∧ Consistent (entries.take position) ∧
      Offends (entries.take position) name id e := by
  refine (registerAll_eq_error_iff nil_consistent 0 position).trans ?_
  simp

/-! ### Two maps -/

/-- Registrations kept in two maps, one for each direction. -/
structure Maps where
  byName : Std.HashMap String MessageId
  byId : Std.HashMap MessageId String

namespace Maps

def register (m : Maps) (name : String) (id : MessageId) : Except RegistrationError Maps :=
  if isReserved id then .error (.reserved name id)
  else if m.byName.contains name then .error (.duplicateName name)
  else match m.byId[id]? with
    | some holder => .error (.duplicateId id holder)
    | none => .ok ⟨m.byName.insert name id, m.byId.insert id name⟩

def registerAll (m : Maps) (position : Nat) :
    List (String × MessageId) → Except (Nat × RegistrationError) Maps
  | [] => .ok m
  | (name, id) :: later =>
    match m.register name id with
    | .ok m => m.registerAll (position + 1) later
    | .error e => .error (position, e)

def ofList (entries : List (String × MessageId)) : Except (Nat × RegistrationError) Maps :=
  registerAll ⟨∅, ∅⟩ 0 entries

structure Mirrors (m : Maps) (t : MessageTable) : Prop where
  idOf : ∀ name, m.byName[name]? = t.idOf? name
  nameOf : ∀ id, m.byId[id]? = t.nameOf? id
  names : m.byName.size = t.size
  ids : m.byId.size = t.size

/-- The same refusal, or what is registered mirrors the table. -/
inductive Alike {ε : Type} : Except ε Maps → Except ε MessageTable → Prop where
  | refused (e : ε) : Alike (.error e) (.error e)
  | registered {m : Maps} {t : MessageTable} (mirrors : m.Mirrors t) : Alike (.ok m) (.ok t)

variable {m : Maps}

theorem empty_mirrors : Mirrors ⟨∅, ∅⟩ empty where
  idOf _ := Std.HashMap.getElem?_empty
  nameOf _ := Std.HashMap.getElem?_empty
  names := rfl
  ids := rfl

theorem Mirrors.insert (mirrors : m.Mirrors t) (newName : t.idOf? name = none) (newId : t.nameOf? id = none) :
    Mirrors ⟨m.byName.insert name id, m.byId.insert id name⟩ ⟨t.entries ++ [(name, id)]⟩ where
  idOf asked := by
    rw [Std.HashMap.getElem?_insert, idOf?, List.find?_append, mirrors.idOf]
    by_cases same : name = asked
    · subst same
      have none : t.entries.find? (·.1 = name) = none := Option.map_eq_none_iff.mp newName
      simp [none]
    · simp [same, idOf?]
  nameOf asked := by
    rw [Std.HashMap.getElem?_insert, nameOf?, List.find?_append, mirrors.nameOf]
    by_cases same : id = asked
    · subst same
      have none : t.entries.find? (·.2 = id) = none := Option.map_eq_none_iff.mp newId
      simp [none]
    · simp [same, nameOf?]
  names := by
    have fresh : name ∉ m.byName := by
      rw [Std.HashMap.mem_iff_isSome_getElem?, mirrors.idOf, newName]
      exact Bool.false_ne_true
    rw [Std.HashMap.size_insert, if_neg fresh, mirrors.names, size, size, List.length_append]
    rfl
  ids := by
    have fresh : id ∉ m.byId := by
      rw [Std.HashMap.mem_iff_isSome_getElem?, mirrors.nameOf, newId]
      exact Bool.false_ne_true
    rw [Std.HashMap.size_insert, if_neg fresh, mirrors.ids, size, size, List.length_append]
    rfl

theorem Mirrors.register (mirrors : m.Mirrors t) (name : String) (id : MessageId) :
    Alike (m.register name id) (t.register name id) := by
  have known : m.byName.contains name = (t.idOf? name).isSome := by
    rw [Std.HashMap.contains_eq_isSome_getElem?, mirrors.idOf]
  unfold Maps.register MessageTable.register
  rw [known, mirrors.nameOf]
  by_cases reserved : isReserved id = true
  · rw [if_pos reserved, if_pos reserved]
    exact .refused _
  rw [if_neg reserved, if_neg reserved]
  by_cases taken : (t.idOf? name).isSome = true
  · rw [if_pos taken, if_pos taken]
    exact .refused _
  rw [if_neg taken, if_neg taken]
  cases held : t.nameOf? id with
  | some holder => exact .refused _
  | none => exact .registered (mirrors.insert (by simpa using taken) held)

theorem Mirrors.registerAll (mirrors : m.Mirrors t) (position : Nat) (entries : List (String × MessageId)) :
    Alike (m.registerAll position entries) (t.registerAll position entries) := by
  induction entries generalizing m t position with
  | nil => exact .registered mirrors
  | cons first later ih =>
    obtain ⟨name, id⟩ := first
    have alike := mirrors.register name id
    rw [Maps.registerAll, MessageTable.registerAll]
    generalize m.register name id = maps, t.register name id = table at alike
    cases alike with
    | refused e => exact .refused _
    | registered mirrors => exact ih mirrors (position + 1)

end Maps

/-! ### Both ways -/

theorem Consistent.perm (c : Consistent entries) (reordered : entries.Perm later) : Consistent later where
  names := (reordered.map _).nodup_iff.mp c.names
  ids := (reordered.map _).nodup_iff.mp c.ids
  free e listed := c.free e (reordered.mem_iff.mpr listed)

/-- Registration succeeds just if no id belongs to the heartbeat, no name stands twice and no id stands twice;
else the first entry that offends against those before it is reported. A name then has an id just if the id has
the name and just if the two were registered together, every registration counts, and the order of the
registrations makes no difference to what is looked up. Two maps that are filled side by side refuse the same
and tell the same. -/
theorem registered_both_ways (entries : List (String × MessageId)) :
    ((∃ t, ofList entries = .ok t) ↔ (∀ e ∈ entries, e.2 ≠ 0 ∧ e.2 ≠ 1) ∧
      (entries.map (·.1)).Nodup ∧ (entries.map (·.2)).Nodup) ∧
    (∀ position e, ofList entries = .error (position, e) ↔
      ∃ name id, entries[position]? = some (name, id) ∧ (∃ t, ofList (entries.take position) = .ok t) ∧
        Offends (entries.take position) name id e) ∧
    (∀ t, ofList entries = .ok t →
      (∀ name id, (t.idOf? name = some id ↔ t.nameOf? id = some name) ∧
        (t.idOf? name = some id ↔ (name, id) ∈ entries)) ∧
      t.size = entries.length ∧
      ∀ reordered, entries.Perm reordered → ∃ t', ofList reordered = .ok t' ∧
        (∀ name, t'.idOf? name = t.idOf? name) ∧ (∀ id, t'.nameOf? id = t.nameOf? id) ∧
        t'.size = t.size) ∧
    Maps.Alike (Maps.ofList entries) (ofList entries) := by
  have accepted (entries : List (String × MessageId)) :
      (∃ t, ofList entries = .ok t) ↔ Consistent entries := by
    simp only [ofList_eq_ok_iff, exists_and_left, exists_eq, and_true]
  refine ⟨?_, ?_, ?_, Maps.empty_mirrors.registerAll 0 entries⟩
  · rw [accepted]
    have free (id : MessageId) : isReserved id = false ↔ id ≠ 0 ∧ id ≠ 1 := by
      rw [← Bool.not_eq_true, isReserved_iff, not_or]
    constructor
    · intro c
      exact ⟨fun e listed => (free e.2).mp (c.free e listed), c.names, c.ids⟩
    · rintro ⟨unreserved, names, ids⟩
      exact ⟨names, ids, fun e listed => (free e.2).mpr (unreserved e listed)⟩
  · intro position e
    simp only [accepted, ofList_eq_error_iff]
  · intro t registered
    obtain ⟨c, rfl⟩ := ofList_eq_ok_iff.mp registered
    refine ⟨fun name id => ⟨c.idOf?_iff.trans c.nameOf?_iff.symm, c.idOf?_iff⟩, rfl, ?_⟩
    intro reordered perm
    have c' := c.perm perm
    refine ⟨⟨reordered⟩, ofList_eq_ok_iff.mpr ⟨c', rfl⟩, ?_, ?_, perm.length_eq.symm⟩
    · intro name
      apply Option.ext
      intro id
      exact c'.idOf?_iff.trans (perm.mem_iff.symm.trans c.idOf?_iff.symm)
    · intro id
      apply Option.ext
      intro name
      exact c'.nameOf?_iff.trans (perm.mem_iff.symm.trans c.nameOf?_iff.symm)

/-- An id of the heartbeat is told before a name that is taken. -/
example : ofList [("move", 12001), ("move", 1)] = .error (1, .reserved "move" 1) := by decide

end SessionGateway.Wire.MessageTable
