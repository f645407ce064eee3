import EvpnMetadata.Text.Digits
import EvpnMetadata.Vpn.Revision

/-! # Admission

What a BGPVPN has to carry before it may be created or updated, and before a router may be
associated with it.  The type is judged before the VNI, and the VNI before any change of either.
-/

namespace EvpnMetadata.Vpn

/-- The type of a BGPVPN whose VNI lies in the range of 24 bits, zero excluded. -/
def Bgpvpn.accept (bgpvpn : Bgpvpn) : Except Fault VpnType := do
  let vpnType ← bgpvpn.type
  match bgpvpn.vni with
  | none => throw (.missingAttribute driverName "vni")
  | some vni =>
    if vni = 0 then throw (.missingAttribute driverName "vni")
    else if largestVni < vni then
      throw (.invalidAttribute "vni" (Text.Decimal.write vni.toNat ++ " is outside 1..="
        ++ Text.Decimal.write largestVni.toNat))
    else return vpnType

/-- Only a layer-three BGPVPN may be reached through routers. -/
def Bgpvpn.requireL3 (bgpvpn : Bgpvpn) : Except Fault Unit := do
  match ← bgpvpn.type with
  | .l3 => return ()
  | .l2 => throw (.invalidAssociation "router" bgpvpn.id bgpvpn.vpnType)

/-- The wording of a VNI that may be unset. -/
def vniText : Option UInt32 → String
  | none => "None"
  | some vni => "Some(" ++ Text.Decimal.write vni.toNat ++ ")"

/-- The type and a set VNI are fixed for the life of a BGPVPN. -/
def Revision.accept (revision : Revision) : Except Fault Unit := do
  let newType ← revision.new.accept
  if let .ok oldType := revision.old.type then
    if oldType ≠ newType then
      throw (.invalidAttribute "type"
        ("cannot change from " ++ oldType.name ++ " to " ++ newType.name))
  if let some oldVni := revision.old.vni then
    if revision.new.vni ≠ some oldVni then
      throw (.invalidAttribute "vni" ("cannot change from " ++ Text.Decimal.write oldVni.toNat
        ++ " to " ++ vniText revision.new.vni))

end EvpnMetadata.Vpn
