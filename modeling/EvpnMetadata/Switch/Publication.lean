import EvpnMetadata.Procedure
import EvpnMetadata.Switch.Advertisement
import EvpnMetadata.Switch.Naming

/-! # Publication

Reading and writing the EVPN attributes of switches.  A publication replaces all EVPN keys of one
switch in one transaction and leaves the other writers' keys alone.
-/

namespace EvpnMetadata.Switch

open Vpn

/-- One transaction on a row; a failure is logged and passed on. -/
def commit (row : Row) (changes : List Change) : Attempt Unit :=
  tryCatch (Attempt.transact row changes) fun fault => do
    Attempt.log .error "external_ids transaction failed"
    throw fault

/-- Sets every key of a bag; nothing is attempted for an empty one. -/
def write (row : Row) (bag : Bag) : Attempt Unit :=
  if bag.isEmpty then return () else commit row (Bag.sets bag)

/-- Removes keys; nothing is attempted without any. -/
def clear (row : Row) (keys : List String) : Attempt Unit :=
  if keys.isEmpty then return () else commit row (keys.map .remove)

/-- The changes that set a bag and remove every EVPN key outside it. -/
def replacement (bag : Bag) : List Change :=
  Bag.sets bag ++ (evpnKeys.filter fun key => !bag.contains key).map .remove

def replace (row : Row) (bag : Bag) : Attempt Unit := commit row (replacement bag)

/-- The bag of a switch as it is now. -/
def read (row : Row) : Attempt Bag := do
  match ← Attempt.lookup row.name with
  | some current => return current.bag
  | none => throw (.targetMissing row.name)

variable (naming : Naming)

/-- Publishes a BGPVPN on the switch of a network, and says whether there is such a switch. -/
def publish (networkId : String) (bgpvpn : Bgpvpn) : Attempt Bool := do
  match ← Attempt.lookup (naming.logicalName networkId) with
  | none =>
    Attempt.log .warn "Cannot update EVPN config: logical switch not found"
    return false
  | some row =>
    let bag ← Attempt.ofExcept (Bag.ofBgpvpn bgpvpn)
    replace row bag
    return true

/-- Removes all EVPN keys from the switch of a network, and says whether there is such a switch. -/
def withdraw (networkId : String) : Attempt Bool := do
  match ← Attempt.lookup (naming.logicalName networkId) with
  | none =>
    Attempt.log .warn "Cannot clear EVPN config: logical switch not found"
    return false
  | some row =>
    clear row evpnKeys
    return true

/-- What the switch of a network advertises. -/
def advertisement (networkId : String) : Attempt (Option Advertisement) := do
  match ← Attempt.lookup (naming.logicalName networkId) with
  | none => return none
  | some row => Attempt.ofExcept (Advertisement.ofBag row.bag)

/-- The networks whose switches carry a VNI. -/
def configuredNetworks : Attempt (List String) := do
  let rows ← Attempt.rows
  return (rows.filter fun row => Bag.isConfigured row.bag).filterMap fun row =>
    naming.networkId? row.name

end EvpnMetadata.Switch
