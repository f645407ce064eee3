import EvpnMetadata.Deployment
import EvpnMetadata.KeyValue.TopologyTables
import EvpnMetadata.Settings

/-! # Connections

A deployment on a server: the switch table in one numbered database, the topology tables and the
event queue in another.  It is connected to in that order, so an unusable address of the store is
reported first.
-/

namespace EvpnMetadata.KeyValue

open Settings

/-- A deployment on the databases that the settings name. -/
def deployment (store : StoreSection) (topology : TopologySection) : Deployment Server where
  topology := TopologyTables.source.comap fun server => server.get topology.databaseNumber.toNat
  store := store.switches.backend.onPart
    (fun server => server.get store.databaseNumber.toNat)
    (fun server database => server.set store.databaseNumber.toNat database)

/-- Whether a server answers at a host and a port. -/
abbrev Reach := String → UInt16 → Bool

def connectStore (reach : Reach) (store : StoreSection) : Except Fault Unit :=
  if reach store.host store.port then .ok ()
  else .error (.transactionFailed store.uri refusal)

def connectTopology (reach : Reach) (topology : TopologySection) : Except Fault Unit :=
  if reach topology.host topology.port then .ok ()
  else .error (.queryFailed "connect" refusal)

def connect (reach : Reach) (store : StoreSection) (topology : TopologySection) :
    Except Fault (Deployment Server) := do
  connectStore reach store
  connectTopology reach topology
  return deployment store topology

end EvpnMetadata.KeyValue
