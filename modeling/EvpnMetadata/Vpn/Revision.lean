import EvpnMetadata.FiniteMap
import EvpnMetadata.Vpn.Bgpvpn

/-! # Revisions

A revision is an old and a new record of one BGPVPN.  Its fields are compared by their written
names, and a revision is cosmetic when only descriptive fields differ.
-/

namespace EvpnMetadata.Vpn

structure Revision where
  old : Bgpvpn
  new : Bgpvpn
  deriving DecidableEq, Repr

/-- The fields that are set, by name. -/
def Bgpvpn.fieldMap (bgpvpn : Bgpvpn) : FiniteMap Bgpvpn.Field := .ofList bgpvpn.setFields

namespace Revision

/-- Fields set in the new record only. -/
def added (revision : Revision) : List String :=
  (revision.new.fieldMap.filter fun key _ => !revision.old.fieldMap.contains key).keys

/-- Fields set in the old record only. -/
def removed (revision : Revision) : List String :=
  (revision.old.fieldMap.filter fun key _ => !revision.new.fieldMap.contains key).keys

/-- Fields set in both records, to different values. -/
def changed (revision : Revision) : List String :=
  (revision.new.fieldMap.filter fun key value =>
    match revision.old.fieldMap.get? key with
    | some before => decide (before ≠ value)
    | none => false).keys

/-- Every field on which the records differ, in name order. -/
def moving (revision : Revision) : List String :=
  (FiniteMap.ofKeys (revision.added ++ revision.removed ++ revision.changed)).keys

/-- Fields that describe a BGPVPN without reaching the switches. -/
def descriptive : List String := ["name", "project_id", "tenant_id"]

def significant (revision : Revision) : List String :=
  revision.moving.filter fun key => !descriptive.contains key

def isCosmetic (revision : Revision) : Bool := revision.significant.isEmpty

end Revision

end EvpnMetadata.Vpn
