import EvpnMetadata.Lifecycle.Bus
import EvpnMetadata.Reconcile.Resolution
import EvpnMetadata.Switch.Publication
import EvpnMetadata.Vpn.Admission

/-! # Hooks

What the reconciler does on each lifecycle event.  No association is remembered between events:
every hook asks the topology again, so an event that is delivered twice converges to the same
metadata.
-/

namespace EvpnMetadata.Reconcile

open Vpn EvpnMetadata.Topology Switch Lifecycle

variable (naming : Naming)

/-- Publishes what was resolved for a network, or withdraws what it carries. -/
def settle (networkId : String) : Option Bgpvpn → Attempt Unit
  | some bgpvpn => do discard (publish naming networkId bgpvpn)
  | none => do discard (withdraw naming networkId)

def converge (networkId : String) (departing : Departing) : Attempt Unit := do
  settle naming networkId (← effective networkId departing)

/-- Converges a network unless it has a direct association. -/
def convergeThroughRouters (networkId : String) (departing : Departing) : Attempt Unit := do
  let direct ← directBgpvpns networkId departing
  if direct.isEmpty then
    settle naming networkId (← routerDerived networkId departing)

/-- Publishes a BGPVPN reached through a router unless the network has a direct association. -/
def publishThroughRouter (networkId : String) (bgpvpn : Bgpvpn) : Attempt Unit := do
  let direct ← directBgpvpns networkId .nothing
  if direct.isEmpty then
    discard (publish naming networkId bgpvpn)

def beforeBgpvpnCreate (bgpvpn : Bgpvpn) : Attempt Unit :=
  Attempt.ofExcept (discard bgpvpn.accept)

def beforeBgpvpnUpdate (old new : Bgpvpn) : Attempt Unit :=
  Attempt.ofExcept (Revision.mk old new).accept

/-- Publishes a changed BGPVPN wherever it reaches, unless the change is cosmetic. -/
def afterBgpvpnUpdate (old new : Bgpvpn) : Attempt Unit := do
  unless (Revision.mk old new).isCosmetic do
    new.networks.forM fun networkId => do discard (publish naming networkId new)
    new.routers.forM fun routerId => do
      let networks ← connectedNetworks routerId
      networks.forM fun networkId => do
        unless new.hasNetwork networkId do
          publishThroughRouter naming networkId new

/-- Appends the items that are not yet in a list. -/
def appendNew (items more : List String) : List String :=
  more.foldl (fun acc item => if acc.contains item then acc else acc ++ [item]) items

/-- The networks that a BGPVPN reaches: the listed ones, then those of its routers. -/
def reachedNetworks (bgpvpn : Bgpvpn) : Attempt (List String) :=
  bgpvpn.routers.foldlM (fun networks routerId => do
    return appendNew networks (← connectedNetworks routerId)) bgpvpn.networks

/-- Converges every network that a leaving BGPVPN reaches. -/
def beforeBgpvpnDelete (bgpvpn : Bgpvpn) : Attempt Unit := do
  let networks ← reachedNetworks bgpvpn
  networks.forM fun networkId => converge naming networkId (.bgpvpn bgpvpn.id)

def afterNetworkAssociation (association : NetworkAssociation) : Attempt Unit := do
  let bgpvpn ← resolveBgpvpn association.bgpvpnId
  discard (publish naming association.networkId bgpvpn)

def beforeNetworkDissociation (association : NetworkAssociation) : Attempt Unit :=
  converge naming association.networkId
    (.networkAssociation association.bgpvpnId association.networkId)

def beforeRouterAssociation (association : RouterAssociation) : Attempt Unit := do
  let bgpvpn ← resolveBgpvpn association.bgpvpnId
  Attempt.ofExcept bgpvpn.requireL3

/-- Publishes a BGPVPN on every network of an associated router. -/
def afterRouterAssociation (association : RouterAssociation) : Attempt Unit := do
  let bgpvpn ← resolveBgpvpn association.bgpvpnId
  Attempt.ofExcept bgpvpn.requireL3
  match ← Attempt.router association.routerId with
  | none =>
    Attempt.log .warn ("Router " ++ association.routerId ++ " not found, nothing to update")
  | some _ =>
    let networks ← connectedNetworks association.routerId
    networks.forM fun networkId => publishThroughRouter naming networkId bgpvpn

def beforeRouterDissociation (association : RouterAssociation) : Attempt Unit := do
  let networks ← connectedNetworks association.routerId
  networks.forM fun networkId =>
    convergeThroughRouters naming networkId
      (.routerAssociation association.bgpvpnId association.routerId)

/-- Extends the BGPVPN of a router to a newly attached network. -/
def afterInterfaceCreated (routerId : String) (port : Port) : Attempt Unit := do
  match ← routerBgpvpn routerId .nothing with
  | none => return ()
  | some bgpvpn => publishThroughRouter naming port.networkId bgpvpn

def afterInterfaceDeleted (routerId subnetId : String) : Attempt Unit := do
  match ← Attempt.subnet subnetId with
  | none =>
    Attempt.log .warn ("Subnet " ++ subnetId ++ " not found, cannot resolve detached network")
  | some subnet => converge naming subnet.networkId (.routerInterface routerId subnetId)

/-- The hook of an event; the events that need none are done at once. -/
def handle : Event → Attempt Unit
  | .bgpvpnCreate .precommit bgpvpn => beforeBgpvpnCreate bgpvpn
  | .bgpvpnUpdate .precommit old new => beforeBgpvpnUpdate old new
  | .bgpvpnUpdate .postcommit old new => afterBgpvpnUpdate naming old new
  | .bgpvpnDelete .precommit bgpvpn => beforeBgpvpnDelete naming bgpvpn
  | .networkAssociationCreate .postcommit association => afterNetworkAssociation naming association
  | .networkAssociationDelete .precommit association =>
    beforeNetworkDissociation naming association
  | .routerAssociationCreate .precommit association => beforeRouterAssociation association
  | .routerAssociationCreate .postcommit association => afterRouterAssociation naming association
  | .routerAssociationUpdate .postcommit _ association => afterRouterAssociation naming association
  | .routerAssociationDelete .precommit association => beforeRouterDissociation naming association
  | .routerInterfaceCreated routerId port => afterInterfaceCreated naming routerId port
  | .routerInterfaceDeleted routerId subnetId => afterInterfaceDeleted naming routerId subnetId
  | _ => return ()

/-- The reconciler as a handler on the bus. -/
def handler : Handler Procedure where
  name := "bgpvpn-ovn"
  handle event := (handle naming event).run

end EvpnMetadata.Reconcile
