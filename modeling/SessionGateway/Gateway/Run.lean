import SessionGateway.Gateway.Connections

/-! A gateway as a machine. Every event is carried through to the end before the next one: frames are
handled, what they queue is written, connections of closed sessions are ended, and links that ended are
out of the table. -/
namespace SessionGateway.Gateway

open Wire Selection

inductive Event where
  | clientConnects (peer : Option Text.SocketAddress)
  | clientSends (session : Handle) (bytes : Octets)
  | clientCloses (session : Handle)
  | nodeSends (link : Nat) (bytes : Octets)
  | nodeCloses (link : Nat)
  | advance (milliseconds : Nat)
  /-- The clocks that sessions read are as given, ahead or back. -/
  | clockReads (clock : SessionClock)
  | networkIs (network : Network)
  /-- Someone inside asks something of a session. -/
  | ask (session : Handle) (call : SessionCall)
  | closeSessions
  | register (service : String) (i : Instance)
  | deregister (service id : String)
  | addNode (id address : String)
  | removeNode (id : String)
  | endLinkTo (address : String)
  | shutdown

namespace State

def mapDirectory (s : State) (f : Directory → Directory) : State :=
  { s with resolver := { s.resolver with directory := s.resolver.directory.map f } }

def mapNodes (s : State) (f : NodeTable → NodeTable) : State :=
  { s with resolver := { s.resolver with nodes := f s.resolver.nodes } }

def react (g : Setup) (s : State) : Event → State
  | .clientConnects peer => (s.accept g peer).2
  | .clientSends h bytes => s.clientOctets g h bytes
  | .clientCloses h => s.clientEnd h
  | .nodeSends id bytes => s.nodeOctets g id bytes
  | .nodeCloses id => s.nodeEnd id
  | .advance milliseconds => s.advance g milliseconds
  | .clockReads clock => { s with clock }
  | .networkIs network => { s with network }
  | .ask h call => s.updateSession h (·.perform s.clock call)
  | .closeSessions => s.closeSessions
  | .register service i => s.mapDirectory (·.register service i)
  | .deregister service id => s.mapDirectory fun d => (d.deregister service id).2
  | .addNode id address => s.mapNodes (·.insert id address)
  | .removeNode id => s.mapNodes (·.erase id)
  | .endLinkTo address => (s.endLinkTo address).2
  | .shutdown => s.shutdown

def step (g : Setup) (s : State) (e : Event) : State := ((s.react g e).flush g).settle

def run (g : Setup) (s : State) (events : List Event) : State := events.foldl (step g) s

theorem run_cons (g : Setup) (s : State) (e : Event) (events : List Event) :
    s.run g (e :: events) = (s.step g e).run g events := rfl

theorem run_append (g : Setup) (s : State) (before after : List Event) :
    s.run g (before ++ after) = (s.run g before).run g after := List.foldl_append

end State

/-! ### In words -/

def strategyTitle : Strategy → String
  | .roundRobin => "RoundRobin"
  | .random => "Random"
  | .consistentHash => "ConsistentHash"
  | .designated => "Designated"

namespace State

def linksText (s : State) : String :=
  s!"BackendManager \x7b channels: {s.pool.slots.length}, pending: {s.pending.size} \x7d"

def resolverText (s : State) : String :=
  s!"NodeRouter \x7b service_name: {Text.quote s.resolver.service}, " ++
    s!"has_directory: {s.resolver.directory.isSome}, static_nodes: {s.resolver.nodes.size} \x7d"

def serverText (s : State) (listening : Text.SocketAddress) : String :=
  s!"GatewayServer \x7b listen_addr: {listening.text}, sessions: {s.sessionCount}, " ++
    s!"backend: {s.linksText} \x7d"

end State

def Setup.handlerText (g : Setup) : String :=
  s!"FrontendHandler \x7b login_msg_id: {g.loginId}, login_strategy: {strategyTitle g.strategy} \x7d"

end SessionGateway.Gateway
