import EvpnMetadata.Fault
import EvpnMetadata.Switch.Bag

/-! # Switch backends

A backend keeps logical switches as rows.  A row read earlier names the incarnation it was read
from, so a transaction prepared on a row that was removed since does not touch its successor.
-/

namespace EvpnMetadata.Switch

/-- A logical switch as it was when it was read. -/
structure Row where
  uuid : String
  name : String
  bag : Bag
  deriving DecidableEq, Repr

/-- A transaction as it is attempted, whether it commits or not. -/
structure Transaction where
  name : String
  changes : List Change
  deriving DecidableEq, Repr

/-- The operations of a store held in a state.  Rows are listed in name order. -/
structure Backend (σ : Type) where
  lookup : σ → String → Except Fault (Option Row)
  rows : σ → Except Fault (List Row)
  transact : σ → Row → List Change → Except Fault Unit × σ

/-- The fault of a transaction on a row that is gone or was made anew. -/
def rowGone (name : String) : Fault := .transactionFailed name "row no longer exists"

/-- A backend on a part of a larger state. -/
def Backend.onPart (backend : Backend τ) (part : σ → τ) (replace : σ → τ → σ) : Backend σ where
  lookup state := backend.lookup (part state)
  rows state := backend.rows (part state)
  transact state row changes :=
    let (result, after) := backend.transact (part state) row changes
    (result, replace state after)

end EvpnMetadata.Switch
