import EvpnMetadata.Switch.Advertisement
import EvpnMetadata.Switch.Memory
import EvpnMetadata.Switch.Naming
import EvpnMetadata.Text.Quoted

/-! # Verification

Checks of what the switches in memory carry, apart from every operation that publishes it.
-/

namespace EvpnMetadata.Switch

open Vpn

/-- Why a check does not hold. -/
inductive Mismatch where
  | noSwitch (name : String)
  | noKey (name key : String)
  | value (name key expected actual : String)
  | evpn (name : String) (expected actual : Bag)
  | fault (cause : Fault)
  deriving DecidableEq, Repr

def Mismatch.message : Mismatch → String
  | noSwitch name => "Logical switch '" ++ name ++ "' not found"
  | noKey name key => "Expected key '" ++ key ++ "' not found on '" ++ name ++ "'"
  | value name key expected actual =>
    "Value mismatch for " ++ name ++ ":" ++ key ++ ": expected '" ++ expected ++ "', got '"
      ++ actual ++ "'"
  | evpn name expected actual =>
    "EVPN metadata mismatch on '" ++ name ++ "': expected " ++ Text.Quoted.map expected
      ++ ", got " ++ Text.Quoted.map actual
  | fault cause => "Driver error: " ++ cause.message

namespace Memory

variable (naming : Naming) (memory : Memory) (networkId : String)

/-- The whole bag of the switch of a network. -/
def networkBag : Except Mismatch Bag :=
  let name := naming.logicalName networkId
  match memory.bag? name with
  | some bag => .ok bag
  | none => .error (.noSwitch name)

/-- What the switch of a network carries for EVPN. -/
def networkEvpn : Except Mismatch Bag := (networkBag naming memory networkId).map Bag.evpnPart

def verifyKey (key expected : String) : Except Mismatch Unit := do
  let name := naming.logicalName networkId
  match (← networkBag naming memory networkId).get? key with
  | none => throw (.noKey name key)
  | some actual => if actual = expected then return () else throw (.value name key expected actual)

/-- The switch carries exactly the expected EVPN keys. -/
def verifyEvpn (expected : Bag) : Except Mismatch Unit := do
  let actual ← networkEvpn naming memory networkId
  if actual = expected then return ()
  else throw (.evpn (naming.logicalName networkId) expected actual)

/-- The switch carries exactly what a BGPVPN publishes. -/
def verifyCarries (bgpvpn : Bgpvpn) : Except Mismatch Unit :=
  match Bag.ofBgpvpn bgpvpn with
  | .error fault => .error (.fault fault)
  | .ok expected => verifyEvpn naming memory networkId expected

/-- The switch carries no EVPN key. -/
def verifyNoEvpn : Except Mismatch Unit := verifyEvpn naming memory networkId .empty

end Memory

end EvpnMetadata.Switch
