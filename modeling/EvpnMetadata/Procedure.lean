import EvpnMetadata.Switch.Backend
import EvpnMetadata.Topology.Query

/-! # Procedures

What a handler does is a tree of atomic steps: questions to the topology, reads and transactions of
the switch store, and log lines.  The steps of several procedures may be interleaved; a procedure
that runs alone is played against one deployment.
-/

namespace EvpnMetadata

open Vpn EvpnMetadata.Topology Switch

inductive LogLevel where
  | info
  | warn
  | error
  deriving DecidableEq, Repr

structure LogLine where
  level : LogLevel
  text : String
  deriving DecidableEq, Repr

inductive Procedure (α : Type) where
  | done (result : α)
  | router (id : String) (next : Except Fault (Option Router) → Procedure α)
  | subnet (id : String) (next : Except Fault (Option Subnet) → Procedure α)
  | bgpvpn (id : String) (next : Except Fault (Option Bgpvpn) → Procedure α)
  | ports (filter : PortFilter) (next : Except Fault (List Port) → Procedure α)
  | bgpvpns (filter : BgpvpnFilter) (next : Except Fault (List Bgpvpn) → Procedure α)
  | lookup (name : String) (next : Except Fault (Option Row) → Procedure α)
  | rows (next : Except Fault (List Row) → Procedure α)
  | transact (row : Row) (changes : List Change) (next : Except Fault Unit → Procedure α)
  | log (line : LogLine) (next : Procedure α)

namespace Procedure

/-- Continues a procedure with its result. -/
def bind : Procedure α → (α → Procedure β) → Procedure β
  | done a, f => f a
  | router id next, f => router id fun answer => (next answer).bind f
  | subnet id next, f => subnet id fun answer => (next answer).bind f
  | bgpvpn id next, f => bgpvpn id fun answer => (next answer).bind f
  | ports filter next, f => ports filter fun answer => (next answer).bind f
  | bgpvpns filter next, f => bgpvpns filter fun answer => (next answer).bind f
  | lookup name next, f => lookup name fun answer => (next answer).bind f
  | rows next, f => rows fun answer => (next answer).bind f
  | transact row changes next, f => transact row changes fun answer => (next answer).bind f
  | log line next, f => log line (next.bind f)

instance : Monad Procedure where
  pure := done
  bind := bind

end Procedure

/-- A procedure that may end in a fault. -/
abbrev Attempt (α : Type) := ExceptT Fault Procedure α

namespace Attempt

def run (attempt : Attempt α) : Procedure (Except Fault α) := ExceptT.run attempt

def ofExcept (result : Except Fault α) : Attempt α := ExceptT.mk (.done result)

def router (id : String) : Attempt (Option Router) := ExceptT.mk (.router id .done)
def subnet (id : String) : Attempt (Option Subnet) := ExceptT.mk (.subnet id .done)
def bgpvpn (id : String) : Attempt (Option Bgpvpn) := ExceptT.mk (.bgpvpn id .done)
def ports (filter : PortFilter) : Attempt (List Port) := ExceptT.mk (.ports filter .done)
def bgpvpns (filter : BgpvpnFilter) : Attempt (List Bgpvpn) := ExceptT.mk (.bgpvpns filter .done)
def lookup (name : String) : Attempt (Option Row) := ExceptT.mk (.lookup name .done)
def rows : Attempt (List Row) := ExceptT.mk (.rows .done)

def transact (row : Row) (changes : List Change) : Attempt Unit :=
  ExceptT.mk (.transact row changes .done)

def log (level : LogLevel) (text : String) : Attempt Unit :=
  ExceptT.mk (.log { level, text } (.done (.ok ())))

end Attempt

end EvpnMetadata
