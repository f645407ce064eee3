import EvpnMetadata.Proofs.Reconcile.Publishing
import EvpnMetadata.Proofs.Reconcile.Scene
import EvpnMetadata.Sample

/-! # Interleavings

However the steps of handlers, sweeps and other writers fall, the EVPN part of a bag stems from one
publication as a whole, the other writers' keys are theirs alone, and a transaction meant for a
removed switch does not touch the one that took its name.
-/

namespace EvpnMetadata

open Vpn EvpnMetadata.Topology Switch Lifecycle Reconcile

def Topology.Source.Shows (source : Source τ) (topology : τ) (bgpvpn : Bgpvpn) : Prop :=
  (∃ id, source.bgpvpn topology id = .ok (some bgpvpn)) ∨
    ∃ filter listed, source.bgpvpns topology filter = .ok listed ∧ bgpvpn ∈ listed

theorem Topology.Inventory.shows_iff (inventory : Inventory) (bgpvpn : Bgpvpn) :
    Inventory.source.Shows inventory bgpvpn ↔ bgpvpn ∈ inventory.bgpvpns := by
  constructor
  · rintro (⟨id, found⟩ | ⟨filter, listed, ⟨⟩, mem⟩)
    · exact List.mem_of_find?_eq_some (Except.ok.inj found)
    · exact List.mem_of_mem_filter mem
  · intro mem
    exact .inr ⟨.all, _, rfl, List.mem_filter.mpr ⟨mem, rfl⟩⟩

/-- A snapshot that the topology has shown during a run, or that came with an event. -/
def Occurs (source : Source τ) (opening : τ) (history : List (Action τ)) (bgpvpn : Bgpvpn) : Prop :=
  source.Shows opening bgpvpn ∨
    (∃ topology, .alter topology ∈ history ∧ source.Shows topology bgpvpn) ∨
    ∃ event, .start (.deliver event) ∈ history ∧ bgpvpn ∈ event.snapshots

/-- The EVPN part of a switch is the one that this very switch began the run with, or empty, or what
one occurring BGPVPN publishes. -/
def Unmixed (start : Memory) (occurs : Bgpvpn → Prop) (name : String) (entry : Entry) : Prop :=
  (∃ original, start.switches.get? name = some original ∧ original.uuid = entry.uuid ∧
      Bag.evpnPart entry.bag = Bag.evpnPart original.bag) ∨
    Bag.evpnPart entry.bag = .empty ∨
    ∃ bgpvpn, occurs bgpvpn ∧ Bag.ofBgpvpn bgpvpn = .ok (Bag.evpnPart entry.bag)

def Switch.Change.value? : Change → Option String
  | set _ value => some value
  | remove _ => none

def Switch.Change.valueAfter (key : String) (changes : List Change) (value : Option String) :
    Option String :=
  changes.foldl (fun value change => if key = change.key then change.value? else value) value

/-- What the other writers have last done to a key of a switch, since the switch was made. -/
def lastWritten (start : Memory) (name key : String) : List (Action τ) → Option String
  | [] => (start.bag? name).bind (·.get? key)
  | .write target changes :: earlier =>
    if target = name then Change.valueAfter key changes (lastWritten start name key earlier)
    else lastWritten start name key earlier
  | .create target _ :: earlier =>
    if target = name then none else lastWritten start name key earlier
  | _ :: earlier => lastWritten start name key earlier

theorem lastWritten_of_passes {action : Action τ} {name : String} (passes : action.Passes name)
    (start : Memory) (key : String) (history : List (Action τ)) :
    lastWritten start name key (action :: history) = lastWritten start name key history := by
  cases action with
  | write target changes => exact if_neg passes
  | create target uuid => exact if_neg passes
  | start | advance | abort | alter | remove => rfl

/-- What is left to do after a step is held to the same, if the topology shows what is known. -/
theorem Procedure.Ensures.step {source : Source τ} {known : Bgpvpn → Prop} {post : α → Prop}
    {p : Procedure α} {topology : τ} (h : p.Ensures known post)
    (shows : ∀ bgpvpn, source.Shows topology bgpvpn → known bgpvpn) (memory : Memory) :
    (p.step source.withSwitches (topology, memory)).1.Ensures known post := by
  cases p with
  | done | log => exact h
  | router | subnet | ports | lookup | rows => exact h _
  | bgpvpn id next => exact h _ fun bgpvpn found => shows bgpvpn (.inl ⟨id, found⟩)
  | bgpvpns filter next =>
    exact h _ fun listed found bgpvpn mem => shows bgpvpn (.inr ⟨filter, listed, found, mem⟩)
  | transact row changes next => exact h.2 _

theorem Switch.Bag.get?_applyAll (bag : Bag) (changes : List Change) (key : String) :
    (bag.applyAll changes).get? key = Change.valueAfter key changes (bag.get? key) := by
  induction changes generalizing bag with
  | nil => rfl
  | cons change rest ih =>
    change (Bag.applyAll (change.apply bag) rest).get? key = Change.valueAfter key rest _
    rw [ih, Change.get?_apply]
    cases change <;> rfl

theorem Switch.Change.valueAfter_of_ne {key : String} {changes : List Change}
    (other : ∀ change ∈ changes, key ≠ change.key) (value : Option String) :
    valueAfter key changes value = value := by
  induction changes with
  | nil => rfl
  | cons change rest ih =>
    obtain ⟨head, tail⟩ := List.forall_mem_cons.mp other
    rw [valueAfter, List.foldl_cons, if_neg head]
    exact ih tail

theorem Switch.Bag.evpnPart_applyAll_of_foreign {changes : List Change}
    (foreign : ∀ change ∈ changes, change.key ∉ evpnKeys) (bag : Bag) :
    (bag.applyAll changes).evpnPart = bag.evpnPart := by
  apply FiniteMap.ext_get?
  intro key
  rw [get?_evpnPart, get?_evpnPart]
  split
  · next evpn =>
    rw [get?_applyAll, Change.valueAfter_of_ne]
    rintro change mem rfl
    exact foreign change mem evpn
  · rfl

theorem Occurs.cons {source : Source τ} {opening : τ} {history : List (Action τ)}
    {bgpvpn : Bgpvpn} (occurs : Occurs source opening history bgpvpn) (action : Action τ) :
    Occurs source opening (action :: history) bgpvpn := by
  rcases occurs with shown | ⟨topology, mem, shown⟩ | ⟨event, mem, carried⟩
  · exact .inl shown
  · exact .inr (.inl ⟨topology, List.mem_cons_of_mem action mem, shown⟩)
  · exact .inr (.inr ⟨event, List.mem_cons_of_mem action mem, carried⟩)

/-- The invariant of all interleavings. -/
structure Upheld (source : Source τ) (start : Memory) (known : Bgpvpn → Prop)
    (history : List (Action τ)) (scene : Scene τ) : Prop where
  shows : ∀ bgpvpn, source.Shows scene.topology bgpvpn → known bgpvpn
  publishes : ∀ p ∈ scene.pending, p.Ensures known fun _ => True
  unmixed {name : String} {entry : Entry} (found : scene.memory.switches.get? name = some entry) :
    Unmixed start known name entry
  foreign {name : String} {entry : Entry} (found : scene.memory.switches.get? name = some entry)
    {key : String} (other : key ∉ evpnKeys) :
    entry.bag.get? key = lastWritten start name key history

namespace Upheld

variable {naming : Naming} {source : Source τ} {start : Memory} {known : Bgpvpn → Prop}
  {topology : τ} {history : List (Action τ)} {scene : Scene τ} {action : Action τ}

theorem opening
    (shows : ∀ bgpvpn, source.Shows topology bgpvpn → known bgpvpn) :
    Upheld source start known [] (.opening topology start) where
  shows := shows
  publishes := nofun
  unmixed {name entry} found := .inl ⟨entry, found, rfl, rfl⟩
  foreign {name entry} found key other := by
    change start.switches.get? name = some entry at found
    rw [lastWritten, Memory.bag?, found]
    rfl

theorem isPublication (upheld : Upheld source start known history scene) {row : Row}
    {changes : List Change} {after : Except Fault Unit → Procedure Unit}
    (asked : .transact row changes after ∈ scene.pending) : IsPublication known changes :=
  (upheld.publishes _ asked).1

theorem shows_perform (upheld : Upheld source start known history scene)
    (occurring : ∀ bgpvpn, Occurs source topology (action :: history) bgpvpn → known bgpvpn) :
    ∀ bgpvpn, source.Shows (scene.perform naming source action).topology bgpvpn →
      known bgpvpn := by
  cases action with
  | advance worker =>
    rw [Scene.perform, Scene.advance]
    split
    · exact upheld.shows
    · next p at_ =>
      have same := (p.step_cases source scene.topology scene.memory).1
      change ∀ bgpvpn, source.Shows (p.step source.withSwitches (scene.topology, scene.memory)).2.1
        bgpvpn → known bgpvpn
      rw [same]
      exact upheld.shows
  | abort worker reason =>
    rw [Scene.perform, Scene.abort]
    split <;> exact upheld.shows
  | alter topology =>
    exact fun bgpvpn shown =>
      occurring bgpvpn (.inr (.inl ⟨topology, List.mem_cons_self, shown⟩))
  | start | write | remove | create => exact upheld.shows

theorem publishes_perform (upheld : Upheld source start known history scene)
    (occurring : ∀ bgpvpn, Occurs source topology (action :: history) bgpvpn → known bgpvpn) :
    ∀ p ∈ (scene.perform naming source action).pending, p.Ensures known fun _ => True := by
  intro p mem
  cases action with
  | start task =>
    rcases List.mem_append.mp mem with mem | mem
    · exact upheld.publishes p mem
    · rw [List.mem_singleton.mp mem]
      cases task with
      | deliver event =>
        have carried : ∀ bgpvpn ∈ event.snapshots, known bgpvpn := fun bgpvpn mem =>
          occurring bgpvpn (.inr (.inr ⟨event, List.mem_cons_self, mem⟩))
        exact (publishes_delivery naming event carried).bind fun _ _ => trivial
      | sweep => exact (publishes_sweep naming).run.bind fun _ _ => trivial
  | advance worker =>
    rw [Scene.perform, Scene.advance] at mem
    split at mem
    · exact upheld.publishes p mem
    · next q at_ =>
      rcases List.mem_or_eq_of_mem_set mem with mem | rfl
      · exact upheld.publishes p mem
      · exact (upheld.publishes q (List.mem_of_getElem? at_)).step upheld.shows scene.memory
  | abort worker reason =>
    rw [Scene.perform, Scene.abort] at mem
    split at mem
    · next row changes after at_ =>
      rcases List.mem_or_eq_of_mem_set mem with mem | rfl
      · exact upheld.publishes p mem
      · exact (upheld.publishes _ (List.mem_of_getElem? at_)).2 _
    · exact upheld.publishes p mem
  | alter | write | remove | create => exact upheld.publishes p mem

/-- A publication replaces the EVPN part as a whole, and no one else touches it. -/
theorem unmixed_perform (upheld : Upheld source start known history scene)
    (admissible : action.Admissible scene) {name : String} {entry : Entry}
    (found : (scene.perform naming source action).memory.switches.get? name = some entry) :
    Unmixed start known name entry := by
  rcases Scene.becomes_perform naming source admissible found with
    ⟨kept, -⟩ | ⟨asked, -, rfl, -⟩ | ⟨was, -, foreign, rfl⟩ | ⟨-, -, rfl⟩
  · exact upheld.unmixed kept
  · obtain ⟨owner, attributes, owned, called, rfl⟩ := upheld.isPublication asked
    have part := Bag.evpnPart_carrying (Bag.isEvpn_ofOwner called)
    cases owner with
    | none =>
      cases called
      exact .inr (.inl (part _))
    | some bgpvpn =>
      refine .inr (.inr ⟨bgpvpn, owned bgpvpn rfl, ?_⟩)
      change _ = Except.ok (Bag.evpnPart (Bag.carrying _ attributes))
      rw [part]
      exact called
  · have same := upheld.unmixed was
    rw [Unmixed, Bag.evpnPart_applyAll_of_foreign foreign]
    exact same
  · exact .inr (.inl rfl)

/-- Nothing but the writes of the other writers decides their keys. -/
theorem foreign_perform (upheld : Upheld source start known history scene)
    (admissible : action.Admissible scene) {name : String} {entry : Entry}
    (found : (scene.perform naming source action).memory.switches.get? name = some entry)
    {key : String} (other : key ∉ evpnKeys) :
    entry.bag.get? key = lastWritten start name key (action :: history) := by
  rcases Scene.becomes_perform naming source admissible found with
    ⟨kept, passes⟩ | ⟨asked, was, rfl, passes⟩ | ⟨was, rfl, -, rfl⟩ | ⟨rfl, -, rfl⟩
  · rw [lastWritten_of_passes passes]
    exact upheld.foreign kept other
  · obtain ⟨owner, attributes, -, called, rfl⟩ := upheld.isPublication asked
    change (Bag.carrying _ attributes).get? key = _
    rw [lastWritten_of_passes passes, Bag.get?_carrying (Bag.isEvpn_ofOwner called), if_neg other]
    exact upheld.foreign was other
  · rw [Bag.get?_applyAll, lastWritten, if_pos rfl, upheld.foreign was other]
  · rw [lastWritten, if_pos rfl]
    rfl

theorem perform (upheld : Upheld source start known history scene)
    (admissible : action.Admissible scene)
    (occurring : ∀ bgpvpn, Occurs source topology (action :: history) bgpvpn → known bgpvpn) :
    Upheld source start known (action :: history) (scene.perform naming source action) where
  shows := upheld.shows_perform occurring
  publishes := upheld.publishes_perform occurring
  unmixed found := upheld.unmixed_perform admissible found
  foreign found _ other := upheld.foreign_perform admissible found other

end Upheld

theorem Run.upheld {naming : Naming} {source : Source τ} {topology : τ} {start : Memory}
    {history : List (Action τ)} {scene : Scene τ}
    (run : Run naming source (.opening topology start) history scene) {known : Bgpvpn → Prop}
    (occurring : ∀ bgpvpn, Occurs source topology history bgpvpn → known bgpvpn) :
    Upheld source start known history scene := by
  induction run with
  | opening => exact .opening fun bgpvpn shown => occurring bgpvpn (.inl shown)
  | step earlier action admissible ih =>
    exact (ih fun bgpvpn occurs => occurring bgpvpn (occurs.cons _)).perform admissible occurring

/-- However handlers, sweeps, other writers, topology changes, aborts, removals and new switches are
interleaved: the EVPN part of a switch is never a mixture of two publications, the keys of the other
writers are as they last left them, and a transaction on a removed switch fails and changes
nothing. -/
theorem interleaving_unmixed {naming : Naming} {source : Source τ} {topology : τ} {start : Memory}
    {history : List (Action τ)} {scene : Scene τ}
    (run : Run naming source (.opening topology start) history scene) :
    (∀ name entry, scene.memory.switches.get? name = some entry →
      Unmixed start (Occurs source topology history) name entry ∧
        ∀ key, key ∉ evpnKeys → entry.bag.get? key = lastWritten start name key history) ∧
    ∀ row, RemovedSince naming source (.opening topology start) scene row →
      ∀ worker changes next, scene.pending[worker]? = some (.transact row changes next) →
        scene.perform naming source (.advance worker) = { scene with
          pending := scene.pending.set worker (next (.error (rowGone row.name))) } := by
  have upheld := run.upheld fun _ => id
  refine ⟨fun name entry found => ⟨upheld.unmixed found, fun key => upheld.foreign found⟩, ?_⟩
  intro row removed worker changes next asked
  have refused : (Procedure.transact row changes next).step source.withSwitches
      (scene.topology, scene.memory) =
        (next (.error (rowGone row.name)), scene.topology, scene.memory) := by
    simp only [Procedure.step, Source.withSwitches, Backend.onPart, Memory.backend,
      removed.gone.transact_eq changes]
  simp only [Scene.perform, Scene.advance, asked, refused]

-- A delivery has read a switch and is overtaken: the switch is removed and made again, another
-- writer sets a key of it, and a second delivery publishes on it.

def raceTask : Task := .deliver (Sample.associateNetwork .postcommit "v1" "n1")

def raceOpening : Scene Inventory :=
  .opening (Inventory.putBgpvpn {} Sample.v1) (Memory.add {} "neutron-n1" "uuid-1")

def raceBefore : List (Action Inventory) := [.start raceTask, .advance 0, .advance 0]

def raceAfter : List (Action Inventory) :=
  [.create "neutron-n1" "uuid-2", .write "neutron-n1" [.set "owner" "second"], .start raceTask,
    .advance 1, .advance 1, .advance 1]

theorem interleaving_unmixed_race :
    let finish := raceOpening.play {} Inventory.source
      (raceBefore ++ .remove "neutron-n1" :: raceAfter)
    let history := (raceBefore ++ .remove "neutron-n1" :: raceAfter).reverse
    ∃ entry, finish.memory.switches.get? "neutron-n1" = some entry ∧ entry.uuid = "uuid-2" ∧
      Unmixed raceOpening.memory (Occurs Inventory.source raceOpening.topology history)
        "neutron-n1" entry ∧
      entry.bag.get? "owner" = some "second" ∧
      ∃ row changes next, row.uuid = "uuid-1" ∧
        finish.pending[0]? = some (.transact row changes next) ∧
        finish.perform {} Inventory.source (.advance 0) = { finish with
          pending := finish.pending.set 0 (next (.error (rowGone "neutron-n1"))) } := by
  intro finish history
  have reached : Run {} Inventory.source raceOpening raceBefore.reverse
      (raceOpening.play {} Inventory.source raceBefore) :=
    ((Run.opening.step (.start raceTask) trivial).step (.advance 0) trivial).step (.advance 0)
      trivial
  have rest : Run {} Inventory.source
      ((raceOpening.play {} Inventory.source raceBefore).perform {} Inventory.source
        (.remove "neutron-n1")) raceAfter.reverse finish :=
    (((((Run.opening.step (.create "neutron-n1" "uuid-2") (by decide +kernel)).step
      (.write "neutron-n1" [.set "owner" "second"]) (by decide)).step (.start raceTask)
      trivial).step (.advance 1) trivial).step (.advance 1) trivial).step (.advance 1) trivial
  have run : Run {} Inventory.source raceOpening history finish :=
    (reached.step (.remove "neutron-n1") trivial).trans rest
  obtain ⟨entry, found⟩ := Option.isSome_iff_exists.mp
    (by decide +kernel : (finish.memory.switches.get? "neutron-n1").isSome = true)
  have uuid : (finish.memory.switches.get? "neutron-n1").map (·.uuid) = some "uuid-2" := by
    decide +kernel
  rw [found] at uuid
  obtain ⟨unmixed, foreign⟩ := (interleaving_unmixed run).1 "neutron-n1" entry found
  obtain ⟨before, there⟩ := Option.isSome_iff_exists.mp
    (by decide +kernel : ((raceOpening.play {} Inventory.source raceBefore).memory.switches.get?
      "neutron-n1").isSome = true)
  have old : ((raceOpening.play {} Inventory.source raceBefore).memory.switches.get?
      "neutron-n1").map (·.uuid) = some "uuid-1" := by decide +kernel
  rw [there] at old
  have asked : finish.pending[0]? = some (.transact _ _ _) := rfl
  exact ⟨entry, found, Option.some.inj uuid, unmixed,
    (foreign "owner" (by decide)).trans (by decide), _, _, _, rfl, asked,
    (interleaving_unmixed run).2 _
      ⟨reached, there, (Option.some.inj old).trans rfl, rest⟩ 0 _ _ asked⟩

end EvpnMetadata
