import EvpnMetadata.Binary64.Shortest
import EvpnMetadata.Fault
import EvpnMetadata.KeyValue.EventQueue
import EvpnMetadata.KeyValue.SwitchTable
import EvpnMetadata.Switch.Naming
import EvpnMetadata.Text.Digits
import EvpnMetadata.TimeSpan

/-! # Settings

Where the switch table, the topology tables and the event queue are found, and how long the queue is
waited for.
-/

namespace EvpnMetadata

namespace Settings

/-- The address of a numbered database. -/
def databaseUri (host : String) (port : UInt16) (number : UInt32) : String :=
  "redis://" ++ host ++ ":" ++ Text.Decimal.write port.toNat ++ "/"
    ++ Text.Decimal.write number.toNat

structure StoreSection where
  host : String := "127.0.0.1"
  port : UInt16 := 6379
  databaseNumber : UInt32 := 0
  table : String := "LOGICAL_SWITCH"
  stem : String := ({} : Switch.Naming).stem
  deriving DecidableEq, Repr, Inhabited

structure TopologySection where
  host : String := "127.0.0.1"
  port : UInt16 := 6379
  databaseNumber : UInt32 := 4
  deriving DecidableEq, Repr, Inhabited

structure EventSection where
  queueKey : String := ({} : KeyValue.EventQueue).key
  pollSeconds : Binary64 := .ofNat 1
  deriving DecidableEq, Repr

structure LogSection where
  level : String := "info"
  deriving DecidableEq, Repr, Inhabited

def StoreSection.uri (store : StoreSection) : String :=
  databaseUri store.host store.port store.databaseNumber

def StoreSection.naming (store : StoreSection) : Switch.Naming := ⟨store.stem⟩

def StoreSection.switches (store : StoreSection) : KeyValue.SwitchTable := ⟨store.table⟩

def TopologySection.uri (topology : TopologySection) : String :=
  databaseUri topology.host topology.port topology.databaseNumber

def EventSection.queue (events : EventSection) : KeyValue.EventQueue := ⟨events.queueKey⟩

end Settings

open Settings in
structure Settings where
  store : StoreSection := {}
  topology : TopologySection := {}
  events : EventSection := {}
  log : LogSection := {}
  deriving DecidableEq, Repr

namespace Settings

def defaultPoll : TimeSpan := ⟨1, 0⟩

/-- How long one wait for an event lasts. -/
def poll (settings : Settings) : TimeSpan :=
  (settings.events.pollSeconds.timeSpan?).getD defaultPoll

/-- The longest wait for an event, in seconds. -/
def longestPoll : Nat := 3600

/-- A wait of more than nothing and at most the longest. -/
def isPollLength (x : Binary64) : Bool :=
  x.isFinite && !x.negative && !x.isZero
    && Binary64.numerator x.magnitude ≤ longestPoll * Binary64.denominator x.magnitude

/-- Judges ports, the table name, the queue key and the wait, in this order. -/
def check (settings : Settings) : Except Fault Unit :=
  if settings.store.port = 0 ∨ settings.topology.port = 0 then
    throw (.badConfiguration "redis_port must be > 0")
  else if settings.store.table.isEmpty then
    throw (.badConfiguration "metadata_store.table_name must not be empty")
  else if settings.events.queueKey.isEmpty then
    throw (.badConfiguration "events.queue_key must not be empty")
  else if isPollLength settings.events.pollSeconds then
    return ()
  else
    throw (.badConfiguration ("events.poll_timeout_secs must be in (0, "
      ++ Text.Decimal.write longestPoll ++ "], got " ++ settings.events.pollSeconds.text))

end Settings

end EvpnMetadata
