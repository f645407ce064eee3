import EvpnMetadata.Text.Leading

/-! # Names of switches

A logical switch is named after the network that it backs, behind a fixed stem.
-/

namespace EvpnMetadata.Switch

structure Naming where
  stem : String := "neutron-"
  deriving DecidableEq, Repr, Inhabited

namespace Naming

def logicalName (naming : Naming) (networkId : String) : String := naming.stem ++ networkId

/-- The network of a switch, if its name starts with the stem. -/
def networkId? (naming : Naming) (logicalName : String) : Option String :=
  Text.after? naming.stem logicalName

theorem networkId?_eq_some_iff (naming : Naming) (name networkId : String) :
    naming.networkId? name = some networkId ↔ name = naming.logicalName networkId :=
  Text.after?_eq_some_iff naming.stem name networkId

/-- Different networks have different switches. -/
theorem logicalName_inj (naming : Naming) {first second : String} :
    naming.logicalName first = naming.logicalName second ↔ first = second := by
  constructor
  · intro same
    have known := (naming.networkId?_eq_some_iff _ first).mpr rfl
    rw [same, (naming.networkId?_eq_some_iff _ second).mpr rfl] at known
    exact (Option.some.inj known).symm
  · intro same
    rw [same]

end Naming

end EvpnMetadata.Switch
