/-! # Faults

The causes for which an operation on BGPVPN metadata fails, and their wording.
-/

namespace EvpnMetadata

inductive Fault where
  | unsupportedType (driver vpnType : String)
  | missingAttribute (driver name : String)
  | invalidAttribute (name reason : String)
  | invalidAssociation (association bgpvpnId vpnType : String)
  | targetMissing (name : String)
  | transactionFailed (name reason : String)
  | malformedMetadata (key reason : String)
  | unknownBgpvpn (id : String)
  | queryFailed (operation reason : String)
  | badConfiguration (reason : String)
  | unreadable (reason : String)
  deriving DecidableEq, Repr

namespace Fault

def message : Fault → String
  | unsupportedType driver vpnType =>
    "BGPVPN type '" ++ vpnType ++ "' not supported by driver '" ++ driver ++ "'"
  | missingAttribute driver name =>
    "Driver '" ++ driver ++ "' requires attribute '" ++ name ++ "' to be specified"
  | invalidAttribute name reason =>
    "Invalid value for attribute '" ++ name ++ "': " ++ reason
  | invalidAssociation association bgpvpnId vpnType =>
    association ++ " associations require an L3 BGPVPN (BGPVPN " ++ bgpvpnId ++ " is '"
      ++ vpnType ++ "')"
  | targetMissing name => "Metadata object '" ++ name ++ "' not found"
  | transactionFailed name reason => "Metadata transaction on '" ++ name ++ "' failed: " ++ reason
  | malformedMetadata key reason =>
    "Malformed metadata value for key '" ++ key ++ "': " ++ reason
  | unknownBgpvpn id => "BGPVPN '" ++ id ++ "' not found"
  | queryFailed operation reason => "Topology query failed: " ++ operation ++ ": " ++ reason
  | badConfiguration reason => "Configuration error: " ++ reason
  | unreadable reason => "IO error: " ++ reason

/-- The request itself is at fault, and repeating it cannot help. -/
def isValidation : Fault → Bool
  | unsupportedType .. | missingAttribute .. | invalidAttribute .. | invalidAssociation .. => true
  | _ => false

/-- The surroundings are at fault, and the same request may succeed later. -/
def isRetryable : Fault → Bool
  | transactionFailed .. | queryFailed .. => true
  | _ => false

end Fault

end EvpnMetadata
