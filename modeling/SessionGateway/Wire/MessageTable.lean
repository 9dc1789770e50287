import SessionGateway.Wire.Packet

/-! The business messages a gateway knows by name. Names and ids are registered in pairs, each name
once and each id once, and the ids of the heartbeat are not to be had. -/
namespace SessionGateway.Wire

inductive RegistrationError where
  | reserved (name : String) (id : MessageId)
  | duplicateName (name : String)
  | duplicateId (id : MessageId) (holder : String)
  deriving DecidableEq, Repr

def RegistrationError.message : RegistrationError → String
  | reserved name id => s!"message '{name}' uses reserved id {id}"
  | duplicateName name => s!"message name '{name}' registered twice"
  | duplicateId id holder => s!"message id {id} already registered as '{holder}'"

structure MessageTable where
  /-- In order of registration. -/
  entries : List (String × MessageId)
  deriving DecidableEq, Repr

namespace MessageTable

def empty : MessageTable := ⟨[]⟩

def idOf? (t : MessageTable) (name : String) : Option MessageId :=
  (t.entries.find? (·.1 = name)).map (·.2)

def nameOf? (t : MessageTable) (id : MessageId) : Option String :=
  (t.entries.find? (·.2 = id)).map (·.1)

def size (t : MessageTable) : Nat := t.entries.length

def isEmpty (t : MessageTable) : Bool := t.entries.isEmpty

def register (t : MessageTable) (name : String) (id : MessageId) :
    Except RegistrationError MessageTable :=
  if isReserved id then .error (.reserved name id)
  else if (t.idOf? name).isSome then .error (.duplicateName name)
  else match t.nameOf? id with
    | some holder => .error (.duplicateId id holder)
    | none => .ok ⟨t.entries ++ [(name, id)]⟩

/-- Registers in order. The first offence is reported with its position. -/
def registerAll (t : MessageTable) (position : Nat) :
    List (String × MessageId) → Except (Nat × RegistrationError) MessageTable
  | [] => .ok t
  | (name, id) :: later =>
    match t.register name id with
    | .ok t => t.registerAll (position + 1) later
    | .error e => .error (position, e)

def ofList (entries : List (String × MessageId)) : Except (Nat × RegistrationError) MessageTable :=
  empty.registerAll 0 entries

def loginName : String := "login"

def defaultLoginId : MessageId := 11000

/-- The table of a gateway that configures no messages. -/
def standard : MessageTable := ⟨[(loginName, defaultLoginId)]⟩

def loginId (t : MessageTable) : MessageId := (t.idOf? loginName).getD defaultLoginId

end MessageTable

end SessionGateway.Wire
