import SessionGateway.Admission.TokenBucket
import SessionGateway.Selection.Resolver
import SessionGateway.Selection.Strategy
import SessionGateway.Wire.Framing
import SessionGateway.Wire.MessageTable

/-! What can be set, in sections as it is written down, with the value of whatever is left unset. -/
namespace SessionGateway.Configuration

open Wire Selection

structure Server where
  listenAddress : String := "0.0.0.0:7000"
  /-- The longest frame to be accepted. -/
  frameLimit : Nat := defaultLimit
  reusePort : Bool := false
  ioThreads : Option Nat := none
  acceptors : Option Nat := none
  /-- Frames kept for a client before new ones are dropped. -/
  outboundQueue : Nat := 1024
  deriving DecidableEq, Repr

/-- Periods in seconds. A period of zero for silence in both directions turns that timer off. -/
structure HeartbeatPeriods where
  readerIdle : Nat := 60
  writerIdle : Nat := 30
  allIdle : Nat := 0
  maxMissed : UInt32 := 3
  deriving DecidableEq, Repr

structure Backend where
  /-- Milliseconds. -/
  connectTimeout : Nat := 5000
  writeQueue : Nat := 4096
  deriving DecidableEq, Repr

structure Routing where
  strategy : Strategy := .roundRobin
  service : String := "game-node"
  nodes : NodeTable := .empty
  instances : List Instance := []
  deriving DecidableEq, Repr

structure RateLimit where
  capacity : UInt32 := 50
  refill : UInt32 := 50
  deriving DecidableEq, Repr

structure Logging where
  level : String := "info"
  asJson : Bool := false
  deriving DecidableEq, Repr

structure Settings where
  server : Server := {}
  heartbeat : HeartbeatPeriods := {}
  backend : Backend := {}
  routing : Routing := {}
  rateLimit : RateLimit := {}
  /-- Ids of business messages. -/
  messages : Text.ByName MessageId := .ofList MessageTable.standard.entries
  logging : Logging := {}
  deriving DecidableEq, Repr

end SessionGateway.Configuration
