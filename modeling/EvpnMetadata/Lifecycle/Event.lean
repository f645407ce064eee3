import EvpnMetadata.Vpn.Association
import EvpnMetadata.Vpn.Bgpvpn
import EvpnMetadata.Vpn.Network

/-! # Lifecycle events

What happens to BGPVPNs, to their associations and to router interfaces.  A change of a resource is
announced before and after it is committed; an interface change is announced after it only.
-/

namespace EvpnMetadata.Lifecycle

open Vpn

/-- A failure before the commit aborts the change; one after it does not. -/
inductive Phase where
  | precommit
  | postcommit
  deriving DecidableEq, Repr

def Phase.name : Phase → String
  | .precommit => "precommit"
  | .postcommit => "postcommit"

def Phase.ofName? : String → Option Phase
  | "precommit" => some .precommit
  | "postcommit" => some .postcommit
  | _ => none

inductive Event where
  | bgpvpnCreate (phase : Phase) (bgpvpn : Bgpvpn)
  | bgpvpnUpdate (phase : Phase) (old new : Bgpvpn)
  | bgpvpnDelete (phase : Phase) (bgpvpn : Bgpvpn)
  | networkAssociationCreate (phase : Phase) (association : NetworkAssociation)
  | networkAssociationDelete (phase : Phase) (association : NetworkAssociation)
  | routerAssociationCreate (phase : Phase) (association : RouterAssociation)
  | routerAssociationUpdate (phase : Phase) (old new : RouterAssociation)
  | routerAssociationDelete (phase : Phase) (association : RouterAssociation)
  | portAssociationCreate (phase : Phase) (association : PortAssociation)
  | portAssociationUpdate (phase : Phase) (old new : PortAssociation)
  | portAssociationDelete (phase : Phase) (association : PortAssociation)
  | routerInterfaceCreated (routerId : String) (port : Port)
  | routerInterfaceDeleted (routerId subnetId : String)
  deriving DecidableEq, Repr

namespace Event

def kind : Event → String
  | bgpvpnCreate .. => "bgpvpn_create"
  | bgpvpnUpdate .. => "bgpvpn_update"
  | bgpvpnDelete .. => "bgpvpn_delete"
  | networkAssociationCreate .. => "network_association_create"
  | networkAssociationDelete .. => "network_association_delete"
  | routerAssociationCreate .. => "router_association_create"
  | routerAssociationUpdate .. => "router_association_update"
  | routerAssociationDelete .. => "router_association_delete"
  | portAssociationCreate .. => "port_association_create"
  | portAssociationUpdate .. => "port_association_update"
  | portAssociationDelete .. => "port_association_delete"
  | routerInterfaceCreated .. => "router_interface_created"
  | routerInterfaceDeleted .. => "router_interface_deleted"

/-- An interface change counts as committed. -/
def phase : Event → Phase
  | bgpvpnCreate phase _ | bgpvpnUpdate phase _ _ | bgpvpnDelete phase _
  | networkAssociationCreate phase _ | networkAssociationDelete phase _
  | routerAssociationCreate phase _ | routerAssociationUpdate phase _ _
  | routerAssociationDelete phase _ | portAssociationCreate phase _
  | portAssociationUpdate phase _ _ | portAssociationDelete phase _ => phase
  | routerInterfaceCreated .. | routerInterfaceDeleted .. => .postcommit

end Event

end EvpnMetadata.Lifecycle
