import EvpnMetadata.Proofs.Reconcile.Answers
import EvpnMetadata.Proofs.Reconcile.Sweeping

/-! # Gathering the networks of a sweep

A sweep gathers the networks that the BGPVPNs list and those that their routers are shown on.  It
goes from one router to the next, so one router whose interfaces cannot be listed is enough to end
it.
-/

namespace EvpnMetadata.Reconcile

open Vpn EvpnMetadata.Topology

def Connects (topology : Source Unit) (routerId networkId : String) : Prop :=
  ∃ ports, topology.ports () (.routerInterfacesOf routerId) = .ok ports ∧
    ∃ port ∈ ports, port.networkId = networkId

def Reaches (topology : Source Unit) (bgpvpn : Bgpvpn) (networkId : String) : Prop :=
  networkId ∈ bgpvpn.networks ∨ ∃ routerId ∈ bgpvpn.routers, Connects topology routerId networkId

def HidesRouter (topology : Source Unit) (bgpvpn : Bgpvpn) (fault : Fault) : Prop :=
  ∃ routerId ∈ bgpvpn.routers, topology.ports () (.routerInterfacesOf routerId) = .error fault

def IsNeeded (topology : Source Unit) (records : List Bgpvpn) (networkId : String) : Prop :=
  ∃ bgpvpn ∈ records, Reaches topology bgpvpn networkId

/-- A fault that gathering the networks of the records runs into. -/
def GatherFault (topology : Source Unit) (records : List Bgpvpn) (fault : Fault) : Prop :=
  ∃ bgpvpn ∈ records, HidesRouter topology bgpvpn fault

variable {topology : Source Unit} {records : List Bgpvpn}

theorem connects_iff {routerId networkId : String} :
    Connects topology routerId networkId ↔
      ∃ networks, (connectedNetworks routerId).answer topology = .ok networks ∧
        networkId ∈ networks := by
  rw [Connects, answer_connectedNetworks]
  cases topology.ports () (.routerInterfacesOf routerId) with
  | error fault => simp [Except.map]
  | ok ports => simp [Except.map, mem_firsts]

theorem answer_connectedNetworks_eq_error {routerId : String} {fault : Fault} :
    (connectedNetworks routerId).answer topology = .error fault ↔
      topology.ports () (.routerInterfacesOf routerId) = .error fault := by
  rw [answer_connectedNetworks]
  cases topology.ports () (.routerInterfacesOf routerId) <;> simp [Except.map]

/-- What one BGPVPN reaches is gathered unless the interfaces of a router of it are hidden. -/
theorem neededNetworks_cases (topology : Source Unit) (bgpvpn : Bgpvpn) :
    (∃ fault, HidesRouter topology bgpvpn fault ∧
      (neededNetworks bgpvpn).answer topology = .error fault) ∨
    ((∀ fault, ¬HidesRouter topology bgpvpn fault) ∧
      ∃ networks, (neededNetworks bgpvpn).answer topology = .ok networks ∧
        ∀ networkId, networkId ∈ networks ↔ Reaches topology bgpvpn networkId) := by
  rw [neededNetworks, Attempt.answer_bind, Attempt.answer_mapM_eq]
  rcases mapM_cases (fun routerId => (connectedNetworks routerId).answer topology)
    bgpvpn.routers with ⟨routerId, own, fault, refusal, asked⟩ | ⟨shown, reached, asked, mem⟩
  · rw [answer_connectedNetworks_eq_error] at refusal
    rw [asked]
    exact .inl ⟨fault, ⟨routerId, own, refusal⟩, rfl⟩
  · rw [asked]
    refine .inr ⟨?_, bgpvpn.networks ++ reached.flatten, rfl, fun networkId => ?_⟩
    · rintro fault ⟨routerId, own, refusal⟩
      obtain ⟨networks, answer⟩ := shown routerId own
      rw [answer_connectedNetworks_eq_error.mpr refusal] at answer
      cases answer
    · simp only [List.mem_append, List.mem_flatten, mem, Reaches, connects_iff]
      grind

theorem needs_cases (listed : topology.ListsRecords () records) :
    (∃ fault, GatherFault topology records fault ∧ needs.answer topology = .error fault) ∨
    ((∀ fault, ¬GatherFault topology records fault) ∧
      ∃ needed, needs.answer topology = .ok needed ∧
        ∀ networkId, networkId ∈ needed ↔ IsNeeded topology records networkId) := by
  rw [needs, Attempt.answer_bind, Attempt.answer_bgpvpns, listed.all, Attempt.ok_bind,
    Attempt.answer_bind, Attempt.answer_mapM_eq]
  rcases mapM_cases (fun bgpvpn => (neededNetworks bgpvpn).answer topology) records with
    ⟨bgpvpn, mem, fault, refusal, asked⟩ | ⟨gathered, lists, asked, mem⟩
  · rw [asked]
    rcases neededNetworks_cases topology bgpvpn with
      ⟨other, hidden, same⟩ | ⟨_, networks, answer, _⟩
    · cases refusal.symm.trans same
      exact .inl ⟨fault, ⟨bgpvpn, mem, hidden⟩, rfl⟩
    · cases refusal.symm.trans answer
  · have each : ∀ bgpvpn ∈ records, (∀ fault, ¬HidesRouter topology bgpvpn fault) ∧
        ∃ networks, (neededNetworks bgpvpn).answer topology = .ok networks ∧
          ∀ networkId, networkId ∈ networks ↔ Reaches topology bgpvpn networkId := by
      intro bgpvpn there
      obtain ⟨networks, answer⟩ := gathered bgpvpn there
      refine (neededNetworks_cases topology bgpvpn).resolve_left ?_
      rintro ⟨fault, _, refusal⟩
      cases answer.symm.trans refusal
    rw [asked]
    refine .inr ⟨?_, lists.flatten, rfl, fun networkId => ?_⟩
    · rintro fault ⟨bgpvpn, there, hidden⟩
      exact (each bgpvpn there).1 fault hidden
    · simp only [List.mem_flatten, mem]
      constructor
      · rintro ⟨networks, ⟨bgpvpn, there, answer⟩, on⟩
        obtain ⟨_, others, same, needed⟩ := each bgpvpn there
        cases answer.symm.trans same
        exact ⟨bgpvpn, there, (needed networkId).mp on⟩
      · rintro ⟨bgpvpn, there, needs⟩
        obtain ⟨_, networks, answer, needed⟩ := each bgpvpn there
        exact ⟨networks, ⟨bgpvpn, there, answer⟩, (needed networkId).mpr needs⟩

end EvpnMetadata.Reconcile
