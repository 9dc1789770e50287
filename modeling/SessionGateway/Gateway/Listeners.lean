/-! Listening. A gateway listens once per acceptor. The first listener may leave its port to the system
and the others take the port that it got. The addresses are published when all listeners stand. -/
namespace SessionGateway.Gateway

structure Endpoint where
  host : String
  port : Nat
  deriving DecidableEq, Repr

inductive ServerError where
  | network (reason : String)
  | configuration (reason : String)
  | internal (reason : String)
  deriving DecidableEq, Repr

def ServerError.message : ServerError → String
  | network reason => s!"Network error: {reason}"
  | configuration reason => s!"Configuration error: {reason}"
  | internal reason => s!"Internal error: {reason}"

structure Listeners where
  /-- Open listeners that no one accepts from yet. -/
  waiting : List Endpoint
  published : List Endpoint
  deriving DecidableEq, Repr

namespace Listeners

def initial : Listeners := ⟨[], []⟩

/-- Opens `n` further listeners one by one. `attempt` is how the system answers each, by its number and
the endpoint asked for. -/
def bindMore (attempt : Nat → Endpoint → Except ServerError Endpoint) (l : Listeners) (done : List Endpoint)
    (wanted : Endpoint) : Nat → Except ServerError (List Endpoint) × Listeners
  | 0 => (.ok done, { l with published := done })
  | n + 1 =>
    match attempt done.length wanted with
    | .error e => (.error e, l)
    | .ok bound =>
      bindMore attempt { l with waiting := l.waiting ++ [bound] } (done ++ [bound]) bound n

/-- Listens, unless that was done before. The answer is the published addresses. -/
def bind (attempt : Nat → Endpoint → Except ServerError Endpoint) (wanted : Endpoint) (acceptors : Nat)
    (l : Listeners) : Except ServerError (List Endpoint) × Listeners :=
  if l.published.isEmpty then bindMore attempt l [] wanted acceptors else (.ok l.published, l)

/-- Listens and takes the listeners over to accept from them. That can be done once. -/
def start (attempt : Nat → Endpoint → Except ServerError Endpoint) (wanted : Endpoint) (acceptors : Nat)
    (l : Listeners) : Except ServerError (List Endpoint) × Listeners :=
  match l.bind attempt wanted acceptors with
  | (.error e, l) => (.error e, l)
  | (.ok _, l) =>
    if l.waiting.isEmpty then (.error (.internal "gateway already started"), l)
    else (.ok l.waiting, { l with waiting := [] })

end Listeners

/-- One acceptor, or as many as asked for, or one to a core where several may share the port. -/
def acceptorCount (reusePort : Bool) (acceptors : Option Nat) (cores : Nat) : Nat :=
  if !reusePort then 1
  else match acceptors with
    | some n => if 0 < n then n else cores
    | none => cores

end SessionGateway.Gateway
