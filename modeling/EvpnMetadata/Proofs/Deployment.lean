import EvpnMetadata.Proofs.Procedure
import EvpnMetadata.Rehearsal
import EvpnMetadata.Site

/-! # Deployments in memory

What the laws of the reconciler need to know of a deployment: its switches are kept in memory, a
transaction is made on them or aborted without a trace, and the topology stands still meanwhile.
-/

namespace EvpnMetadata

open EvpnMetadata.Topology Switch

def Topology.Source.withSwitches (source : Source τ) : Deployment (τ × Memory) where
  topology := source.comap Prod.fst
  store := Memory.backend.onPart Prod.snd fun state memory => (state.1, memory)

namespace Deployment

def aborting (draw : π → Bool × π) (deployment : Deployment σ) : Deployment (π × σ) where
  topology := deployment.topology.comap Prod.snd
  store := deployment.store.aborting draw

/-- The switches are a memory store, on which transactions are made or, perhaps, aborted. -/
structure InMemory (deployment : Deployment σ) (memory : σ → Memory) (mayAbort : Prop) : Prop where
  lookup_eq (state : σ) (name : String) :
    deployment.store.lookup state name = .ok ((memory state).lookup name)
  rows_eq (state : σ) : deployment.store.rows state = .ok (memory state).rows
  steady (state : σ) (row : Row) (changes : List Change) :
    deployment.topology.frozen (deployment.store.transact state row changes).2 =
      deployment.topology.frozen state
  transact_cases (state : σ) (row : Row) (changes : List Change) :
    ((deployment.store.transact state row changes).1 = ((memory state).transact row changes).1 ∧
      memory (deployment.store.transact state row changes).2 =
        ((memory state).transact row changes).2) ∨
    (mayAbort ∧
      (∃ fault, (deployment.store.transact state row changes).1 = .error fault) ∧
      memory (deployment.store.transact state row changes).2 = memory state)

abbrev Reliable (deployment : Deployment σ) (memory : σ → Memory) : Prop :=
  deployment.InMemory memory False

theorem withSwitches_reliable (source : Source τ) : source.withSwitches.Reliable Prod.snd where
  lookup_eq _ _ := rfl
  rows_eq _ := rfl
  steady _ _ _ := rfl
  transact_cases _ _ _ := .inl ⟨rfl, rfl⟩

theorem site_reliable : Site.deployment.Reliable Site.switches where
  lookup_eq _ _ := rfl
  rows_eq _ := rfl
  steady _ _ _ := rfl
  transact_cases _ _ _ := .inl ⟨rfl, rfl⟩

variable {deployment : Deployment σ} {memory : σ → Memory} {mayAbort : Prop}

theorem InMemory.aborting (h : deployment.InMemory memory mayAbort) (draw : π → Bool × π) :
    (deployment.aborting draw).InMemory (fun state => memory state.2) True where
  lookup_eq state name := h.lookup_eq state.2 name
  rows_eq state := h.rows_eq state.2
  steady state row changes := by
    have kept := h.steady state.2 row changes
    simp only [Deployment.aborting, Backend.aborting]
    split
    · rfl
    · exact kept
  transact_cases state row changes := by
    simp only [Deployment.aborting, Backend.aborting]
    split
    · exact .inr ⟨trivial, ⟨_, rfl⟩, rfl⟩
    · rcases h.transact_cases state.2 row changes with made | ⟨_, aborted⟩
      · exact .inl made
      · exact .inr ⟨trivial, aborted⟩

theorem InMemory.frozen_play (h : deployment.InMemory memory mayAbort) (p : Procedure α)
    (state : σ) :
    deployment.topology.frozen (p.play deployment state).state =
      deployment.topology.frozen state := by
  induction p generalizing state with
  | done result => rfl
  | router id next ih | subnet id next ih | bgpvpn id next ih | ports filter next ih
  | bgpvpns filter next ih | lookup name next ih | rows next ih => exact ih _ state
  | transact row changes next ih => exact (ih _ _).trans (h.steady state row changes)
  | log line next ih => exact ih state

end Deployment

theorem Site.inventory_play (p : Procedure α) (site : Site) :
    (p.play Site.deployment site).state.inventory = site.inventory := by
  induction p generalizing site with
  | done result => rfl
  | router id next ih | subnet id next ih | bgpvpn id next ih | ports filter next ih
  | bgpvpns filter next ih | lookup name next ih | rows next ih => exact ih _ site
  | transact row changes next ih => exact ih _ _
  | log line next ih => exact ih site

theorem Site.inventory_play_aborting (p : Procedure α) (draw : π → Bool × π) (state : π × Site) :
    (p.play (Site.deployment.aborting draw) state).state.2.inventory = state.2.inventory := by
  have kept (row : Row) (changes : List Change) (state : π × Site) :
      ((Site.deployment.aborting draw).store.transact state row changes).2.2.inventory =
        state.2.inventory := by
    simp only [Deployment.aborting, Backend.aborting]
    split <;> rfl
  induction p generalizing state with
  | done result => rfl
  | router id next ih | subnet id next ih | bgpvpn id next ih | ports filter next ih
  | bgpvpns filter next ih | lookup name next ih | rows next ih => exact ih _ state
  | transact row changes next ih => exact (ih _ _).trans (kept row changes state)
  | log line next ih => exact ih state

end EvpnMetadata
