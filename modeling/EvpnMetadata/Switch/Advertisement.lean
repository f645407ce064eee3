import EvpnMetadata.Json.Record
import EvpnMetadata.Json.Writer
import EvpnMetadata.Switch.Bag
import EvpnMetadata.Text.Digits
import EvpnMetadata.Vpn.Bgpvpn

/-! # Advertisements

The agent on a chassis advertises a network as the EVPN attributes of its switch say.  A BGPVPN is
written into a bag under eight keys, which nothing else uses, and read back from there.
-/

namespace EvpnMetadata.Switch

open Vpn

/-- The keys of a bag that belong to EVPN, in the order in which they are removed. -/
def evpnKeys : List String :=
  ["type", "vni", "bgp_as", "route_targets", "import_targets", "export_targets",
   "route_distinguishers", "local_pref"]

/-- What a switch advertises, as read from its bag. -/
structure Advertisement where
  vpnType : VpnType
  vni : UInt32
  asNumber : Option String
  routeTargets : List String
  importTargets : List String
  exportTargets : List String
  routeDistinguishers : List String
  localPref : Option UInt32
  deriving DecidableEq, Repr

/-- The part of a text before its first colon, if it has one. -/
def beforeColon? (text : String) : Option String :=
  if text.toList.contains ':' then some (String.ofList (text.toList.takeWhile (· ≠ ':'))) else none

/-- The autonomous system of a BGPVPN is the one of its first route target. -/
def asNumberOf (routeTargets : List String) : Option String := routeTargets.head?.bind beforeColon?

def writeTexts (items : List String) : String := (Json.texts items).render

/-- Sets a key unless there is nothing to set. -/
def Bag.insertSome (bag : Bag) (key : String) : Option String → Bag
  | none => bag
  | some value => bag.insert key value

def Bag.insertTexts (bag : Bag) (key : String) (items : List String) : Bag :=
  if items.isEmpty then bag else bag.insert key (writeTexts items)

/-- The EVPN attributes of a BGPVPN, which has to carry a VNI. -/
def Bag.ofBgpvpn (bgpvpn : Bgpvpn) : Except Fault Bag :=
  match bgpvpn.vni with
  | none => .error (.missingAttribute driverName "vni")
  | some vni =>
    let bag : Bag := FiniteMap.empty
    let bag := bag.insert "type" bgpvpn.vpnType
    let bag := bag.insert "vni" (Text.Decimal.write vni.toNat)
    let bag := Bag.insertSome bag "bgp_as" (asNumberOf bgpvpn.routeTargets)
    let bag := Bag.insertTexts bag "route_targets" bgpvpn.routeTargets
    let bag := Bag.insertTexts bag "import_targets" bgpvpn.importTargets
    let bag := Bag.insertTexts bag "export_targets" bgpvpn.exportTargets
    let bag := Bag.insertTexts bag "route_distinguishers" bgpvpn.routeDistinguishers
    let localPref := bgpvpn.localPref.map fun pref => Text.Decimal.write pref.toNat
    .ok (Bag.insertSome bag "local_pref" localPref)

/-- The EVPN attributes of a bag, without the other writers' keys. -/
def Bag.evpnPart (bag : Bag) : Bag := bag.filter fun key _ => evpnKeys.contains key

/-- A bag is configured when it holds a VNI, whatever else it holds. -/
def Bag.isConfigured (bag : Bag) : Bool := bag.contains "vni"

def Bag.texts (bag : Bag) (key : String) : Except Fault (List String) :=
  match bag.get? key with
  | none => .ok []
  | some raw =>
    match Json.readTexts? raw with
    | some items => .ok items
    | none => .error (.malformedMetadata key Json.refusal)

/-- A bag without a type is of layer three. -/
def Bag.vpnType (bag : Bag) : Except Fault VpnType :=
  match bag.get? "type" with
  | none => .ok .l3
  | some raw =>
    match VpnType.ofText? raw with
    | some vpnType => .ok vpnType
    | none => .error (.malformedMetadata "type" ("unknown type '" ++ raw ++ "'"))

def Bag.localPref (bag : Bag) : Except Fault (Option UInt32) :=
  match bag.get? "local_pref" with
  | none => .ok none
  | some raw =>
    match Text.Decimal.readUInt32 raw with
    | .ok pref => .ok (some pref)
    | .error fault => .error (.malformedMetadata "local_pref" fault.message)

/-- A VNI that is no number reads as zero. -/
def readVni (raw : String) : UInt32 :=
  match Text.Decimal.readUInt32 raw with
  | .ok vni => vni
  | .error _ => 0

/-- Reads what a bag advertises: nothing without a VNI, and a fault at the first malformed key. -/
def Advertisement.ofBag (bag : Bag) : Except Fault (Option Advertisement) :=
  match bag.get? "vni" with
  | none => .ok none
  | some raw => do
    let vpnType ← Bag.vpnType bag
    let localPref ← Bag.localPref bag
    let routeTargets ← Bag.texts bag "route_targets"
    let importTargets ← Bag.texts bag "import_targets"
    let exportTargets ← Bag.texts bag "export_targets"
    let routeDistinguishers ← Bag.texts bag "route_distinguishers"
    return some {
      vpnType, vni := readVni raw, asNumber := bag.get? "bgp_as", routeTargets, importTargets,
      exportTargets, routeDistinguishers, localPref }

end EvpnMetadata.Switch
