import EvpnMetadata.Json.Number
import EvpnMetadata.Json.Writer
import EvpnMetadata.Lifecycle.Event

/-! # Events on the wire

An event is an object whose member `event` names its kind, or an array that starts with the kind.
The whole text of an event has to be readable: its nesting and its numerals are bounded, and its
literals spell texts, even where a field is ignored.
-/

namespace EvpnMetadata.Lifecycle

open Vpn

/-- The deepest nesting that an event may have. -/
def deepestNesting : Nat := 127

/-- A phase that is written as an object carries null or an empty object. -/
def Phase.ofJson? (value : Json) : Option Phase :=
  (value.unitName? fun inner =>
    match inner with
    | .null => true
    | .object [] => true
    | _ => false).bind ofName?

def Phase.toJson (phase : Phase) : Json := .text phase.name

namespace Event

/-- The fields of an event, without its kind. -/
def members : Event → List (String × Json)
  | bgpvpnCreate phase bgpvpn => [("phase", phase.toJson), ("bgpvpn", bgpvpn.toJson)]
  | bgpvpnUpdate phase old new =>
    [("phase", phase.toJson), ("old", old.toJson), ("new", new.toJson)]
  | bgpvpnDelete phase bgpvpn => [("phase", phase.toJson), ("bgpvpn", bgpvpn.toJson)]
  | networkAssociationCreate phase association =>
    [("phase", phase.toJson), ("association", association.toJson)]
  | networkAssociationDelete phase association =>
    [("phase", phase.toJson), ("association", association.toJson)]
  | routerAssociationCreate phase association =>
    [("phase", phase.toJson), ("association", association.toJson)]
  | routerAssociationUpdate phase old new =>
    [("phase", phase.toJson), ("old", old.toJson), ("new", new.toJson)]
  | routerAssociationDelete phase association =>
    [("phase", phase.toJson), ("association", association.toJson)]
  | portAssociationCreate phase association =>
    [("phase", phase.toJson), ("association", association.toJson)]
  | portAssociationUpdate phase old new =>
    [("phase", phase.toJson), ("old", old.toJson), ("new", new.toJson)]
  | portAssociationDelete phase association =>
    [("phase", phase.toJson), ("association", association.toJson)]
  | routerInterfaceCreated routerId port => [("router_id", .text routerId), ("port", port.toJson)]
  | routerInterfaceDeleted routerId subnetId =>
    [("router_id", .text routerId), ("subnet_id", .text subnetId)]

def toJson (event : Event) : Json := .record (("event", .text event.kind) :: event.members)

def encode (event : Event) : String := event.toJson.render

/-- Reads the fields of an event that has one subject. -/
def ofSubject? (make : Phase → α → Event) (name : String) (read : Json → Option α) (body : Json) :
    Option Event := do
  match ← body.fields? ["phase", name] with
  | [phase, subject] =>
    return make (← Json.required Phase.ofJson? phase) (← Json.required read subject)
  | _ => none

/-- Reads the fields of an event that has an old and a new subject. -/
def ofChange? (make : Phase → α → α → Event) (read : Json → Option α) (body : Json) :
    Option Event := do
  match ← body.fields? ["phase", "old", "new"] with
  | [phase, old, new] =>
    return make (← Json.required Phase.ofJson? phase) (← Json.required read old)
      (← Json.required read new)
  | _ => none

/-- Reads the fields of an event on an interface of a router. -/
def ofInterface? (make : String → α → Event) (name : String) (read : Json → Option α)
    (body : Json) : Option Event := do
  match ← body.fields? ["router_id", name] with
  | [routerId, subject] =>
    return make (← Json.required Json.text? routerId) (← Json.required read subject)
  | _ => none

/-- Reads the fields of an event of a kind. -/
def ofKind? (kind : String) (body : Json) : Option Event :=
  match kind with
  | "bgpvpn_create" => ofSubject? bgpvpnCreate "bgpvpn" Bgpvpn.ofJson? body
  | "bgpvpn_update" => ofChange? bgpvpnUpdate Bgpvpn.ofJson? body
  | "bgpvpn_delete" => ofSubject? bgpvpnDelete "bgpvpn" Bgpvpn.ofJson? body
  | "network_association_create" =>
    ofSubject? networkAssociationCreate "association" NetworkAssociation.ofJson? body
  | "network_association_delete" =>
    ofSubject? networkAssociationDelete "association" NetworkAssociation.ofJson? body
  | "router_association_create" =>
    ofSubject? routerAssociationCreate "association" RouterAssociation.ofJson? body
  | "router_association_update" => ofChange? routerAssociationUpdate RouterAssociation.ofJson? body
  | "router_association_delete" =>
    ofSubject? routerAssociationDelete "association" RouterAssociation.ofJson? body
  | "port_association_create" =>
    ofSubject? portAssociationCreate "association" PortAssociation.ofJson? body
  | "port_association_update" => ofChange? portAssociationUpdate PortAssociation.ofJson? body
  | "port_association_delete" =>
    ofSubject? portAssociationDelete "association" PortAssociation.ofJson? body
  | "router_interface_created" => ofInterface? routerInterfaceCreated "port" Port.ofJson? body
  | "router_interface_deleted" =>
    ofInterface? routerInterfaceDeleted "subnet_id" Json.text? body
  | _ => none

def ofJson? (value : Json) : Option Event := do
  guard (value.depth ≤ deepestNesting && value.isReadable Numeral.isInRange)
  match value with
  | .object members =>
    let kind ← Json.required Json.text? (← Json.memberOf? members "event")
    ofKind? kind (.object (members.filter fun member => member.1 ≠ some "event"))
  | .array (kind :: rest) => ofKind? (← kind.text?) (.array rest)
  | _ => none

def decode? (text : String) : Option Event := (Json.read? text).bind ofJson?

end Event

end EvpnMetadata.Lifecycle
