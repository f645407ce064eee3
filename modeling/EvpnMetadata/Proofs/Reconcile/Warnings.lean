import EvpnMetadata.Proofs.LogLines
import EvpnMetadata.Proofs.Reconcile.Plans

/-! # The warning about contention

Several BGPVPNs may reach a network through different routers.  Whoever resolves what the network
has to carry uses the first of them and says so in the log.  The hooks that only ask for direct
associations never say it.
-/

namespace EvpnMetadata.Reconcile

open Vpn EvpnMetadata.Topology Switch Lifecycle

/-- The line about a network that several BGPVPNs reach, of which the first one is used. -/
def contentionLine (first : Bgpvpn) (others : List Bgpvpn) : LogLine where
  level := .warn
  text := "Network reachable from BGPVPNs "
    ++ Text.Quoted.list ((first :: others).map Bgpvpn.id)
    ++ " through different routers, using " ++ first.id

def IsContention (line : LogLine) : Prop := ∃ first others, line = contentionLine first others

/-- Other lines begin otherwise. -/
theorem not_isContention {line : LogLine} (begins : line.text.toList.head? ≠ some 'N') :
    ¬IsContention line := by
  rintro ⟨first, others, rfl⟩
  apply begins
  simp [contentionLine]

section Silence

/-- Whatever it is answered, an attempt does not warn of contention. -/
abbrev IsSilent (attempt : Attempt α) : Prop := attempt.LogsOnly fun line => ¬IsContention line

variable (naming : Naming)

theorem isSilent_log (level : LogLevel) {text : String} (begins : text.toList.head? ≠ some 'N') :
    IsSilent (Attempt.log level text) :=
  Attempt.logsOnly_log (not_isContention begins)

theorem isSilent_resolveBgpvpn (bgpvpnId : String) : IsSilent (resolveBgpvpn bgpvpnId) := by
  refine (Attempt.logsOnly_bgpvpn bgpvpnId).bind fun found => ?_
  cases found with
  | none => exact Attempt.logsOnly_throw _
  | some bgpvpn => exact Attempt.logsOnly_pure _

theorem isSilent_directBgpvpns (networkId : String) (departing : Departing) :
    IsSilent (directBgpvpns networkId departing) :=
  (Attempt.logsOnly_bgpvpns _).bind fun _ => Attempt.logsOnly_pure _

theorem isSilent_connectedNetworks (routerId : String) : IsSilent (connectedNetworks routerId) :=
  (Attempt.logsOnly_ports _).bind fun _ => Attempt.logsOnly_pure _

/-- Several BGPVPNs of one router are another matter. -/
theorem isSilent_routerBgpvpn (routerId : String) (departing : Departing) :
    IsSilent (routerBgpvpn routerId departing) := by
  refine (Attempt.logsOnly_bgpvpns _).bind fun listed => ?_
  split
  · exact Attempt.logsOnly_pure _
  · exact Attempt.logsOnly_pure _
  · exact (isSilent_log .warn (by simp)).bind fun _ => Attempt.logsOnly_pure _

theorem isSilent_commit (row : Row) (changes : List Change) : IsSilent (commit row changes) := by
  refine ⟨fun answer => ?_⟩
  cases answer with
  | ok done => trivial
  | error fault => exact ⟨not_isContention (by simp), trivial⟩

theorem isSilent_publish (networkId : String) (bgpvpn : Bgpvpn) :
    IsSilent (publish naming networkId bgpvpn) := by
  refine (Attempt.logsOnly_lookup _).bind fun found => ?_
  cases found with
  | none => exact (isSilent_log .warn (by simp)).bind fun _ => Attempt.logsOnly_pure _
  | some row =>
    exact (Attempt.logsOnly_ofExcept _).bind fun attributes =>
      (isSilent_commit row (replacement attributes)).bind fun _ => Attempt.logsOnly_pure _

theorem isSilent_publishThroughRouter (networkId : String) (bgpvpn : Bgpvpn) :
    IsSilent (publishThroughRouter naming networkId bgpvpn) := by
  refine (isSilent_directBgpvpns networkId .nothing).bind fun direct => ?_
  split
  · exact (isSilent_publish naming networkId bgpvpn).discard
  · exact Attempt.logsOnly_pure _

theorem isSilent_afterBgpvpnUpdate (old new : Bgpvpn) :
    IsSilent (afterBgpvpnUpdate naming old new) := by
  rw [afterBgpvpnUpdate]
  cases (Revision.mk old new).isCosmetic with
  | true => exact Attempt.logsOnly_pure _
  | false =>
    refine (Attempt.LogsOnly.forM (fun networkId =>
      (isSilent_publish naming networkId new).discard) _).bind fun _ =>
        Attempt.LogsOnly.forM (fun routerId => ?_) _
    refine (isSilent_connectedNetworks routerId).bind fun networks =>
      Attempt.LogsOnly.forM (fun networkId => ?_) networks
    split
    · exact Attempt.logsOnly_pure _
    · exact isSilent_publishThroughRouter naming networkId new

theorem isSilent_afterRouterAssociation (association : RouterAssociation) :
    IsSilent (afterRouterAssociation naming association) := by
  refine (isSilent_resolveBgpvpn _).bind fun bgpvpn =>
    (Attempt.logsOnly_ofExcept _).bind fun _ =>
      (Attempt.logsOnly_router _).bind fun found => ?_
  cases found with
  | none => exact isSilent_log .warn (by simp)
  | some router =>
    exact (isSilent_connectedNetworks _).bind fun networks =>
      Attempt.LogsOnly.forM (isSilent_publishThroughRouter naming · bgpvpn) networks

theorem isSilent_afterInterfaceCreated (routerId : String) (port : Port) :
    IsSilent (afterInterfaceCreated naming routerId port) := by
  refine (isSilent_routerBgpvpn routerId .nothing).bind fun found => ?_
  cases found with
  | none => exact Attempt.logsOnly_pure _
  | some bgpvpn => exact isSilent_publishThroughRouter naming port.networkId bgpvpn

/-- The bus adds a line about a handler that fails, which is another matter, too. -/
theorem isSilent_delivery {event : Event} (silent : IsSilent (handle naming event)) :
    (delivery naming event).LogsOnly fun line => ¬IsContention line := by
  refine Procedure.LogsOnly.bind silent.run fun result => ?_
  cases result with
  | ok done => trivial
  | error fault => exact ⟨not_isContention (by simp [Bus.failureLine]), trivial⟩

end Silence

section Warning

variable {inventory : Inventory} {networkId : String} {departing : Departing}
  {first second : Bgpvpn} {others : List Bgpvpn}

/-- Where several BGPVPNs claim a network, the first one is found, and the others are reported. -/
theorem mem_lines_routerDerived
    (contested : inventory.claimants networkId departing = first :: second :: others) {site : Site}
    (still : site.inventory = inventory) :
    contentionLine first (second :: others) ∈
      ((routerDerived networkId departing).play Site.deployment site).lines := by
  subst still
  rw [(isInquiry_routerDerived networkId departing).lines_eq]
  apply (isInquiry_routersOfNetwork networkId departing).mem_lines_bind
    (site.inventory.answer_routersOfNetwork networkId departing)
  apply Attempt.IsInquiry.mem_lines_bind
    (.mapM (fun routerId => isInquiry_routerBgpvpn routerId departing) _)
    (site.inventory.answer_mapM_routerBgpvpn networkId departing)
  rw [← site.inventory.claimants_eq, contested]
  exact List.mem_cons_self

theorem mem_lines_effective (free : inventory.direct networkId departing = [])
    (contested : inventory.claimants networkId departing = first :: second :: others) {site : Site}
    (still : site.inventory = inventory) :
    contentionLine first (second :: others) ∈
      ((effective networkId departing).play Site.deployment site).lines := by
  have unlisted : (directBgpvpns networkId departing).answer
      (Site.deployment.topology.frozen site) = .ok [] := by
    rw [← free, ← still]
    exact site.inventory.answer_directBgpvpns networkId departing
  exact (isInquiry_directBgpvpns networkId departing).mem_lines_bind unlisted
    (mem_lines_routerDerived contested still)

end Warning

end EvpnMetadata.Reconcile
