import EvpnMetadata.Proofs.Reconcile.Following

/-! # Resolution from listings

What a network has to carry, and which networks a router connects, are resolved from the listed
ports and BGPVPNs alone.  So two topologies with the same listings resolve alike, whatever else they
say.
-/

namespace EvpnMetadata

open Vpn EvpnMetadata.Topology

namespace Attempt

/-- An attempt that goes the same way on two topologies. -/
def Alike (first second : Source Unit) (x : Attempt α) : Prop :=
  x.play first.alone () = x.play second.alone ()

variable {first second : Source Unit}

theorem alike_pure (a : α) : Alike first second (pure a : Attempt α) := rfl

theorem alike_log (level : LogLevel) (text : String) : Alike first second (log level text) := rfl

theorem Alike.bind {x : Attempt α} {f : α → Attempt β} (hx : x.Alike first second)
    (hf : ∀ a, (f a).Alike first second) : (x >>= f).Alike first second := by
  rw [Alike, play_bind, play_bind, ← (hx : _ = _)]
  cases (x.play first.alone ()).result with
  | ok a => exact congrArg (Outcome.after _) (hf a)
  | error fault => rfl

theorem Alike.mapM {f : α → Attempt β} (hf : ∀ a, (f a).Alike first second) (items : List α) :
    (items.mapM f).Alike first second := by
  induction items with
  | nil => exact alike_pure []
  | cons item rest ih =>
    rw [List.mapM_cons]
    exact (hf item).bind fun _ => ih.bind fun _ => alike_pure _

theorem alike_ports (same : first.ports = second.ports) (filter : PortFilter) :
    Alike first second (ports filter) := by
  change Outcome.mk (first.ports () filter) () [] = Outcome.mk (second.ports () filter) () []
  rw [same]

theorem alike_bgpvpns (same : first.bgpvpns = second.bgpvpns) (filter : BgpvpnFilter) :
    Alike first second (bgpvpns filter) := by
  change Outcome.mk (first.bgpvpns () filter) () [] = Outcome.mk (second.bgpvpns () filter) () []
  rw [same]

/-- An inquiry that goes the same way ends alike, whatever switches stand beside the topologies. -/
theorem Alike.play_eq {x : Attempt α} {here : Deployment σ} {there : Deployment τ} {state : σ}
    {other : τ} (alike : x.Alike (here.topology.frozen state) (there.topology.frozen other))
    (inquiry : x.IsInquiry) :
    (x.play here state).result = (x.play there other).result ∧
      (x.play here state).marks = (x.play there other).marks := by
  rw [Attempt.play, Attempt.play, inquiry.play_eq here state, inquiry.play_eq there other]
  exact ⟨congrArg Outcome.result alike, congrArg Outcome.marks alike⟩

end Attempt

namespace Reconcile

variable {first second : Source Unit}

theorem alike_routerBgpvpn (same : first.bgpvpns = second.bgpvpns) (routerId : String)
    (departing : Departing) : (routerBgpvpn routerId departing).Alike first second := by
  refine (Attempt.alike_bgpvpns same _).bind fun listed => ?_
  split
  · exact Attempt.alike_pure _
  · exact Attempt.alike_pure _
  · exact (Attempt.alike_log _ _).bind fun _ => Attempt.alike_pure _

theorem alike_routerDerived (samePorts : first.ports = second.ports)
    (sameBgpvpns : first.bgpvpns = second.bgpvpns) (networkId : String) (departing : Departing) :
    (routerDerived networkId departing).Alike first second := by
  refine ((Attempt.alike_ports samePorts _).bind fun _ => Attempt.alike_pure _).bind
    fun routers => ?_
  refine (Attempt.Alike.mapM (alike_routerBgpvpn sameBgpvpns · departing) routers).bind
    fun reached => ?_
  split
  · exact Attempt.alike_pure _
  · exact Attempt.alike_pure _
  · exact (Attempt.alike_log _ _).bind fun _ => Attempt.alike_pure _

/-- What a network has to carry is resolved from the listed ports and BGPVPNs alone. -/
theorem alike_effective (samePorts : first.ports = second.ports)
    (sameBgpvpns : first.bgpvpns = second.bgpvpns) (networkId : String) (departing : Departing) :
    (effective networkId departing).Alike first second := by
  refine ((Attempt.alike_bgpvpns sameBgpvpns _).bind fun _ => Attempt.alike_pure _).bind
    fun direct => ?_
  cases direct with
  | nil => exact alike_routerDerived samePorts sameBgpvpns networkId departing
  | cons bgpvpn others => exact Attempt.alike_pure _

theorem alike_connectedNetworks (samePorts : first.ports = second.ports) (routerId : String) :
    (connectedNetworks routerId).Alike first second :=
  (Attempt.alike_ports samePorts _).bind fun _ => Attempt.alike_pure _

end Reconcile

end EvpnMetadata
