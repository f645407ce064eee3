import EvpnMetadata.Proofs.Deployment
import EvpnMetadata.Proofs.Reconcile.Following
import EvpnMetadata.Reconcile.Sweep

/-! # Scenes

Handlers and sweeps at work at the same time take their atomic steps in any order, on switches and a
topology that they share with other writers.  A switch may be removed and made again in between,
each time under a uuid that was never given out before.
-/

namespace EvpnMetadata

open EvpnMetadata.Topology Switch Lifecycle Reconcile

/-- The next atomic step of a procedure, and the state that it leaves. -/
def Procedure.step (deployment : Deployment σ) : Procedure α → σ → Procedure α × σ
  | done result, state => (done result, state)
  | router id next, state => (next (deployment.topology.router state id), state)
  | subnet id next, state => (next (deployment.topology.subnet state id), state)
  | bgpvpn id next, state => (next (deployment.topology.bgpvpn state id), state)
  | ports filter next, state => (next (deployment.topology.ports state filter), state)
  | bgpvpns filter next, state => (next (deployment.topology.bgpvpns state filter), state)
  | lookup name next, state => (next (deployment.store.lookup state name), state)
  | rows next, state => (next (deployment.store.rows state), state)
  | transact row changes next, state =>
    let (answer, after) := deployment.store.transact state row changes
    (next answer, after)
  | log _ next, state => (next, state)

/-- A procedure whose steps nobody interrupts ends as it does when it is played at once. -/
theorem Procedure.exists_steps (deployment : Deployment σ) (p : Procedure α) (state : σ) :
    ∃ n, (fun at_ : Procedure α × σ => at_.1.step deployment at_.2)^[n] (p, state) =
      (.done (p.play deployment state).result, (p.play deployment state).state) := by
  induction p generalizing state with
  | done result => exact ⟨0, rfl⟩
  | router id next ih | subnet id next ih | bgpvpn id next ih | ports filter next ih
  | bgpvpns filter next ih | lookup name next ih | rows next ih =>
    obtain ⟨n, ends⟩ := ih _ state
    exact ⟨n + 1, ends⟩
  | transact row changes next ih =>
    obtain ⟨n, ends⟩ := ih _ (deployment.store.transact state row changes).2
    exact ⟨n + 1, ends⟩
  | log line next ih =>
    obtain ⟨n, ends⟩ := ih state
    exact ⟨n + 1, ends⟩

inductive Task where
  | deliver (event : Event)
  | sweep

def Task.procedure (naming : Naming) : Task → Procedure Unit
  | deliver event => (delivery naming event).bind fun _ => .done ()
  | sweep => (Reconcile.sweep naming).run.bind fun _ => .done ()

/-- What is shared, and what the tasks at work still have to do. -/
structure Scene (τ : Type) where
  topology : τ
  memory : Memory
  pending : List (Procedure Unit) := []
  /-- The uuids given out so far. -/
  issued : List String

def Scene.opening (topology : τ) (memory : Memory) : Scene τ where
  topology := topology
  memory := memory
  issued := memory.switches.entries.map fun entry => entry.2.uuid

def Switch.Memory.overwrite (memory : Memory) (name : String) (changes : List Change) : Memory :=
  { memory with
    switches := memory.switches.modify name fun entry =>
      { entry with bag := entry.bag.applyAll changes } }

inductive Action (τ : Type) where
  | start (task : Task)
  | advance (worker : Nat)
  | abort (worker : Nat) (reason : String)
  | alter (topology : τ)
  | write (name : String) (changes : List Change)
  | remove (name : String)
  | create (name uuid : String)

namespace Scene

variable (naming : Naming) (source : Source τ) (scene : Scene τ)

def advance (worker : Nat) : Scene τ :=
  match scene.pending[worker]? with
  | none => scene
  | some p =>
    let (rest, topology, memory) := p.step source.withSwitches (scene.topology, scene.memory)
    { scene with topology, memory, pending := scene.pending.set worker rest }

def abort (worker : Nat) (reason : String) : Scene τ :=
  match scene.pending[worker]? with
  | some (.transact row _ next) => { scene with
      pending := scene.pending.set worker (next (.error (.transactionFailed row.name reason))) }
  | _ => scene

def perform : Action τ → Scene τ
  | .start task => { scene with pending := scene.pending ++ [task.procedure naming] }
  | .advance worker => scene.advance source worker
  | .abort worker reason => scene.abort worker reason
  | .alter topology => { scene with topology }
  | .write name changes => { scene with memory := scene.memory.overwrite name changes }
  | .remove name => { scene with memory := scene.memory.remove name }
  | .create name uuid => { scene with
      memory := scene.memory.add name uuid
      issued := uuid :: scene.issued }

def play (actions : List (Action τ)) : Scene τ :=
  actions.foldl (perform naming source) scene

end Scene

/-- The other writers keep off the EVPN keys, and a switch is made where there is none, under a uuid
that was never given out before. -/
def Action.Admissible (scene : Scene τ) : Action τ → Prop
  | .write _ changes => ∀ change ∈ changes, change.key ∉ evpnKeys
  | .create name uuid => scene.memory.switches.contains name = false ∧ uuid ∉ scene.issued
  | _ => True

instance (scene : Scene τ) : DecidablePred (Action.Admissible scene)
  | .write _ changes =>
    inferInstanceAs (Decidable (∀ change ∈ changes, change.key ∉ evpnKeys))
  | .create name uuid =>
    inferInstanceAs (Decidable (scene.memory.switches.contains name = false ∧ uuid ∉ scene.issued))
  | .start _ | .advance _ | .abort _ _ | .alter _ | .remove _ => .isTrue trivial

/-- Atomic steps of anyone in any order, the last one first in the history. -/
inductive Run (naming : Naming) (source : Source τ) (start : Scene τ) :
    List (Action τ) → Scene τ → Prop where
  | opening : Run naming source start [] start
  | step {history : List (Action τ)} {scene : Scene τ}
    (earlier : Run naming source start history scene) (action : Action τ)
    (admissible : action.Admissible scene) :
    Run naming source start (action :: history) (scene.perform naming source action)

theorem Run.trans {naming : Naming} {source : Source τ} {start middle scene : Scene τ}
    {earlier later : List (Action τ)} (run : Run naming source start earlier middle)
    (rest : Run naming source middle later scene) :
    Run naming source start (later ++ earlier) scene := by
  induction rest with
  | opening => exact run
  | step _ action admissible ih => exact ih.step action admissible

/-- An action that is neither a write of another writer to a switch nor its making. -/
def Action.Passes (name : String) : Action τ → Prop
  | .write target _ => target ≠ name
  | .create target _ => target ≠ name
  | _ => True

/-- How a switch came to be what it is after a step: it was left alone, a pending transaction or
another writer has changed its bag, or it was made. -/
inductive Becomes (scene : Scene τ) (action : Action τ) (name : String) (entry : Entry) : Prop where
  | kept (found : scene.memory.switches.get? name = some entry) (passes : action.Passes name)
  | transacted {before : Entry} {row : Row} {changes : List Change}
    {next : Except Fault Unit → Procedure Unit}
    (asked : .transact row changes next ∈ scene.pending)
    (found : scene.memory.switches.get? name = some before)
    (same : entry = { before with bag := before.bag.applyAll changes })
    (passes : action.Passes name)
  | written {before : Entry} {changes : List Change}
    (found : scene.memory.switches.get? name = some before) (act : action = .write name changes)
    (foreign : ∀ change ∈ changes, change.key ∉ evpnKeys)
    (same : entry = { before with bag := before.bag.applyAll changes })
  | created {uuid : String} (act : action = .create name uuid) (fresh : uuid ∉ scene.issued)
    (same : entry = { uuid, bag := .empty })

theorem Switch.Memory.get?_transact {memory : Memory} {row : Row} {changes : List Change}
    {name : String} {entry : Entry}
    (found : (memory.transact row changes).2.switches.get? name = some entry) :
    memory.switches.get? name = some entry ∨
      ∃ before, memory.switches.get? name = some before ∧
        entry = { before with bag := before.bag.applyAll changes } := by
  rw [Memory.transact] at found
  split at found
  · exact .inl found
  · next current there =>
    split at found
    · rw [FiniteMap.get?_insert] at found
      split at found
      · next same =>
        cases found
        exact .inr ⟨current, same ▸ there, rfl⟩
      · exact .inl found
    · exact .inl found

/-- Only a transaction changes the switches, and no step changes the topology. -/
theorem Procedure.step_cases (source : Source τ) (p : Procedure α) (topology : τ)
    (memory : Memory) :
    let next := p.step source.withSwitches (topology, memory)
    next.2.1 = topology ∧
      (next.2.2 = memory ∨ ∃ row changes after, p = .transact row changes after ∧
        next.2.2 = (memory.transact row changes).2) := by
  cases p with
  | transact row changes after => exact ⟨rfl, .inr ⟨row, changes, after, rfl, rfl⟩⟩
  | done | router | subnet | bgpvpn | ports | bgpvpns | lookup | rows | log => exact ⟨rfl, .inl rfl⟩

namespace Scene

variable (naming : Naming) (source : Source τ) {scene : Scene τ} {action : Action τ}

theorem becomes_advance (worker : Nat) {name : String} {entry : Entry}
    (found : (scene.advance source worker).memory.switches.get? name = some entry) :
    Becomes scene (.advance worker) name entry := by
  rw [advance] at found
  split at found
  · exact .kept found trivial
  · next p at_ =>
    rcases (p.step_cases source scene.topology scene.memory).2 with
      same | ⟨row, changes, after, rfl, same⟩
    · exact .kept (same ▸ found) trivial
    · change (Procedure.step source.withSwitches (.transact row changes after) _).2.2.switches.get?
        name = _ at found
      rw [same] at found
      rcases Memory.get?_transact found with kept | ⟨before, there, same⟩
      · exact .kept kept trivial
      · exact .transacted (List.mem_of_getElem? at_) there same trivial

theorem memory_abort (worker : Nat) (reason : String) :
    (scene.abort worker reason).memory = scene.memory := by
  rw [abort]
  split <;> rfl

theorem becomes_perform (admissible : action.Admissible scene) {name : String} {entry : Entry}
    (found : (scene.perform naming source action).memory.switches.get? name = some entry) :
    Becomes scene action name entry := by
  cases action with
  | start task => exact .kept found trivial
  | advance worker => exact becomes_advance source worker found
  | abort worker reason =>
    rw [perform, memory_abort] at found
    exact .kept found trivial
  | alter topology => exact .kept found trivial
  | write target changes =>
    change (FiniteMap.modify _ target _).get? name = _ at found
    rw [FiniteMap.get?_modify] at found
    split at found
    · next same =>
      subst same
      obtain ⟨before, there, rfl⟩ := Option.map_eq_some_iff.mp found
      exact .written there rfl admissible rfl
    · next other => exact .kept found (Ne.symm other)
  | remove target =>
    change (FiniteMap.erase _ target).get? name = _ at found
    rw [FiniteMap.get?_erase] at found
    split at found
    · cases found
    · exact .kept found trivial
  | create target uuid =>
    obtain ⟨vacant, fresh⟩ := admissible
    rw [perform, Memory.add, vacant] at found
    change (FiniteMap.insert _ target _).get? name = _ at found
    rw [FiniteMap.get?_insert] at found
    split at found
    · next same =>
      cases found
      subst same
      exact .created rfl fresh rfl
    · next other => exact .kept found (Ne.symm other)

/-- A switch keeps its uuid, or it was made under a new one. -/
theorem uuid_cases (admissible : action.Admissible scene) {name : String} {entry : Entry}
    (found : (scene.perform naming source action).memory.switches.get? name = some entry) :
    (∃ before, scene.memory.switches.get? name = some before ∧ before.uuid = entry.uuid) ∨
      action = .create name entry.uuid ∧ entry.uuid ∉ scene.issued := by
  rcases becomes_perform naming source admissible found with
    ⟨kept, -⟩ | ⟨-, was, rfl, -⟩ | ⟨was, -, -, rfl⟩ | ⟨act, fresh, rfl⟩
  · exact .inl ⟨entry, kept, rfl⟩
  · exact .inl ⟨_, was, rfl⟩
  · exact .inl ⟨_, was, rfl⟩
  · exact .inr ⟨act, fresh⟩

theorem issued_advance (worker : Nat) : (scene.advance source worker).issued = scene.issued := by
  rw [advance]
  split <;> rfl

theorem issued_abort (worker : Nat) (reason : String) :
    (scene.abort worker reason).issued = scene.issued := by
  rw [abort]
  split <;> rfl

theorem issued_subset (action : Action τ) :
    scene.issued ⊆ (scene.perform naming source action).issued := by
  cases action with
  | create name uuid => exact List.subset_cons_of_subset _ (List.Subset.refl _)
  | advance worker => exact (issued_advance source worker).symm ▸ List.Subset.refl _
  | abort worker reason => exact (issued_abort worker reason).symm ▸ List.Subset.refl _
  | start | alter | write | remove => exact List.Subset.refl _

end Scene

theorem Run.issued {naming : Naming} {source : Source τ} {topology : τ} {start : Memory}
    {history : List (Action τ)} {scene : Scene τ}
    (run : Run naming source (.opening topology start) history scene) {name : String}
    {entry : Entry} (found : scene.memory.switches.get? name = some entry) :
    entry.uuid ∈ scene.issued := by
  induction run generalizing name entry with
  | opening => exact List.mem_map_of_mem ((FiniteMap.get?_eq_some_iff _ _ _).mp found)
  | step earlier action admissible ih =>
    rcases Scene.uuid_cases naming source admissible found with ⟨before, was, same⟩ | ⟨rfl, -⟩
    · exact Scene.issued_subset naming source action (same ▸ ih was)
    · exact List.mem_cons_self

/-- An incarnation of a switch that is not there and can never be there again. -/
structure Scene.Gone (scene : Scene τ) (row : Row) : Prop where
  issued : row.uuid ∈ scene.issued
  ne {entry : Entry} (found : scene.memory.switches.get? row.name = some entry) :
    entry.uuid ≠ row.uuid

namespace Scene.Gone

variable {naming : Naming} {source : Source τ} {scene later : Scene τ} {row : Row}

theorem perform {action : Action τ} (gone : scene.Gone row)
    (admissible : action.Admissible scene) :
    (scene.perform naming source action).Gone row where
  issued := issued_subset naming source action gone.issued
  ne {entry} found := by
    rcases uuid_cases naming source admissible found with ⟨before, was, same⟩ | ⟨-, fresh⟩
    · exact same ▸ gone.ne was
    · intro same
      exact fresh (same ▸ gone.issued)

theorem run {history : List (Action τ)} (gone : scene.Gone row)
    (run : Run naming source scene history later) : later.Gone row := by
  induction run with
  | opening => exact gone
  | step earlier action admissible ih => exact ih.perform admissible

/-- No transaction reaches an incarnation that is gone. -/
theorem transact_eq (gone : scene.Gone row) (changes : List Change) :
    scene.memory.transact row changes = (.error (rowGone row.name), scene.memory) := by
  rw [Memory.transact]
  split
  · rfl
  · next entry found => rw [if_neg (gone.ne found)]

end Scene.Gone

/-- The incarnation that a row was read from was there and was removed, and then the run went on. -/
inductive RemovedSince (naming : Naming) (source : Source τ) (start scene : Scene τ) (row : Row) :
    Prop where
  | intro {earlier later : List (Action τ)} {before : Scene τ} {entry : Entry}
    (reached : Run naming source start earlier before)
    (there : before.memory.switches.get? row.name = some entry) (same : entry.uuid = row.uuid)
    (rest : Run naming source (before.perform naming source (.remove row.name)) later scene)

theorem RemovedSince.gone {naming : Naming} {source : Source τ} {topology : τ} {start : Memory}
    {scene : Scene τ} {row : Row}
    (removed : RemovedSince naming source (.opening topology start) scene row) :
    scene.Gone row := by
  obtain ⟨reached, there, same, rest⟩ := removed
  refine Scene.Gone.run ⟨same ▸ reached.issued there, fun found => ?_⟩ rest
  change (FiniteMap.erase _ row.name).get? row.name = _ at found
  rw [FiniteMap.get?_erase, if_pos rfl] at found
  cases found

end EvpnMetadata
