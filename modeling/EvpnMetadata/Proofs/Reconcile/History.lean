import EvpnMetadata.Proofs.Reconcile.Upkeep

/-! # Histories

From a site where nothing is associated, operations follow one another in any order and number.
Every hook visits a few networks only; together they keep every switch on what the inventory calls
for.
-/

namespace EvpnMetadata.Reconcile

open Vpn EvpnMetadata.Topology Switch Lifecycle

/-- Operations performed one after the other, each of them admissible in its turn. -/
inductive History (naming : Naming) : Site → List Operation → Site → Prop where
  | nil (site : Site) : History naming site [] site
  | cons {operation : Operation} {rest : List Operation} {start finish : Site}
    (admissible : operation.Admissible start.inventory)
    (later : History naming (operation.perform naming start) rest finish) :
    History naming start (operation :: rest) finish

/-- Nothing is associated yet, and no switch carries any attributes.  Every BGPVPN has a VNI, which
is what creating it asks for. -/
structure Fresh (naming : Naming) (site : Site) : Prop where
  sound : site.inventory.Sound
  unlisted (bgpvpn : Bgpvpn) (record : bgpvpn ∈ site.inventory.bgpvpns) : bgpvpn.networks = []
  unrouted (bgpvpn : Bgpvpn) (record : bgpvpn ∈ site.inventory.bgpvpns) : bgpvpn.routers = []
  clean (networkId : String) (entry : Entry)
    (found : site.switches.switches.get? (naming.logicalName networkId) = some entry) :
    Bag.evpnPart entry.bag = .empty

structure Maintained (naming : Naming) (start site : Site) : Prop where
  sound : site.inventory.Sound
  carries : Carries naming site.inventory site.switches.switches
  keepsForeign : KeepsForeign naming start.switches.switches site.switches.switches

variable {naming : Naming} {start site finish : Site} {operation : Operation}
  {operations : List Operation}

theorem Fresh.maintained (fresh : Fresh naming start) : Maintained naming start start where
  sound := fresh.sound
  carries networkId entry found := by
    rw [fresh.clean networkId entry found]
    refine ⟨none, ⟨?_, ?_⟩, rfl⟩
    · rintro bgpvpn ⟨record, own⟩
      rw [fresh.unlisted bgpvpn record] at own
      cases own
    · rintro bgpvpn ⟨record, routerId, own, _⟩
      rw [fresh.unrouted bgpvpn record] at own
      cases own
  keepsForeign := .refl _

theorem Maintained.perform (maintained : Maintained naming start site)
    (admissible : operation.Admissible site.inventory) :
    Maintained naming start (operation.perform naming site) := by
  obtain ⟨sound, carries, keepsForeign⟩ := maintained
  by_cases valid : operation.Valid site.inventory
  · have accepted := Operation.accepted_iff_valid.mpr valid
    have sound' := Operation.sound_commit sound admissible accepted
    have settles := Operation.settles sound admissible accepted
    obtain ⟨inventory, switches⟩ := operation.perform_of_valid naming sound admissible valid
    constructor
    · rw [inventory]
      exact sound'
    · rw [inventory, switches]
      exact carries.settle settles sound'.numbered
    · rw [switches]
      exact keepsForeign.trans (keepsForeign_effects naming _ _)
  · obtain ⟨inventory, switches⟩ := operation.perform_of_invalid naming valid
    constructor
    · rw [inventory]
      exact sound
    · rw [inventory, switches]
      exact carries
    · rw [switches]
      exact keepsForeign

theorem History.maintained (history : History naming site operations finish)
    (maintained : Maintained naming start site) : Maintained naming start finish := by
  induction history with
  | nil site => exact maintained
  | cons admissible _ ih => exact ih (maintained.perform admissible)

/-- A history leaves the inventory that its valid operations make. -/
theorem History.inventory (history : History naming site operations finish)
    (maintained : Maintained naming start site) :
    finish.inventory = operations.foldl (fun inventory operation =>
      if operation.Valid inventory then operation.commit inventory else inventory)
        site.inventory := by
  induction history with
  | nil site => rfl
  | @cons operation rest site finish admissible later ih =>
    rw [List.foldl_cons, ih (maintained.perform admissible)]
    congr 1
    split_ifs with valid
    · exact (operation.perform_of_valid naming maintained.sound admissible valid).1
    · exact (operation.perform_of_invalid naming valid).1

/-- However the operations of a history follow one another, every switch ends up with what one of
the candidates for its network calls for, and with a single candidate it is what the reconciler
resolves. -/
theorem history_carries (fresh : Fresh naming start)
    (history : History naming start operations finish) :
    KeepsForeign naming start.switches.switches finish.switches.switches ∧
    ∀ networkId entry,
      finish.switches.switches.get? (naming.logicalName networkId) = some entry →
        finish.inventory.MayCarry networkId (Bag.evpnPart entry.bag) ∧
        (finish.inventory.Unambiguous networkId →
          ∃ owner, ((effective networkId .nothing).play Site.deployment finish).result =
            .ok owner ∧ Bag.ofOwner owner = .ok (Bag.evpnPart entry.bag)) := by
  have maintained := history.maintained fresh.maintained
  refine ⟨maintained.keepsForeign, fun networkId entry found => ?_⟩
  have may := maintained.carries networkId entry found
  refine ⟨may, fun clear => ?_⟩
  obtain ⟨owner, claim, called⟩ := may
  refine ⟨owner, ?_, called⟩
  rw [effective_play, clear.eq (Inventory.mayOwn_owner finish.inventory networkId) claim]

def quietSite : Site where
  inventory := Inventory.putBgpvpn {} { id := "a", vpnType := "l3", vni := some 100 }
  switches := (Memory.add {} "neutron-n1" "uuid-1").add "neutron-n2" "uuid-2"

/-- The BGPVPN reaches one network directly and another one through a router that is attached
later; another BGPVPN takes over the first network. -/
def quietOperations : List Operation :=
  [.associateNetwork { bgpvpnId := "a", networkId := "n1" },
   .associateRouter { bgpvpnId := "a", routerId := "r1" },
   .attachInterface "p1" "r1" "n2" "s2",
   .createBgpvpn { id := "b", vpnType := "l2", vni := some 200 },
   .remove (.networkAssociation { bgpvpnId := "a", networkId := "n1" }),
   .associateNetwork { bgpvpnId := "b", networkId := "n1" }]

theorem history_carries_quietSite :
    let finish := quietOperations.foldl (fun site operation => operation.perform {} site) quietSite
    let owner : Bgpvpn := { id := "a", vpnType := "l3", vni := some 100, routers := ["r1"] }
    ∃ entry, finish.switches.switches.get? "neutron-n2" = some entry ∧
      ((effective "n2" .nothing).play Site.deployment finish).result = .ok (some owner) ∧
      Bag.ofBgpvpn owner = .ok (Bag.evpnPart entry.bag) ∧
      Bag.evpnPart entry.bag = .ofList [("type", "l3"), ("vni", "100")] := by
  intro finish owner
  have clean : ∀ row ∈ quietSite.switches.switches.entries,
      Bag.evpnPart row.2.bag = .empty := by decide
  have fresh : Fresh {} quietSite := by
    refine ⟨⟨.putBgpvpn _ .empty, Inventory.wired_of_ports_eq_nil rfl, ?_⟩, ?_, ?_, ?_⟩
    · decide
    · decide
    · decide
    · intro networkId entry found
      exact clean _ ((FiniteMap.get?_eq_some_iff _ _ _).mp found)
  have history : History {} quietSite quietOperations finish :=
    .cons (by decide +kernel) <| .cons (by decide +kernel) <| .cons (by decide +kernel) <|
      .cons (by decide +kernel) <| .cons (by decide +kernel) <| .cons (by decide +kernel) (.nil _)
  have free : ∀ bgpvpn ∈ finish.inventory.bgpvpns, "n2" ∉ bgpvpn.networks := by decide +kernel
  have single : ∀ first ∈ finish.inventory.bgpvpns, ∀ second ∈ finish.inventory.bgpvpns,
      first.routers ≠ [] → second.routers ≠ [] → first = second := by decide +kernel
  have clear : finish.inventory.Unambiguous "n2" := by
    refine ⟨fun {first _} h _ => absurd h.2 (free first h.1), fun _ _ _ h h' => ?_⟩
    obtain ⟨record, _, own, _⟩ := h
    obtain ⟨record', _, own', _⟩ := h'
    exact single _ record _ record' (List.ne_nil_of_mem own) (List.ne_nil_of_mem own')
  have there : (finish.switches.switches.get? "neutron-n2").isSome = true := by decide +kernel
  obtain ⟨entry, found⟩ := Option.isSome_iff_exists.mp there
  obtain ⟨resolved, answer, carried⟩ :=
    ((history_carries fresh history).2 "n2" entry found).2 clear
  have first : ((effective "n2" .nothing).play Site.deployment finish).result = .ok (some owner) := by
    decide +kernel
  obtain rfl : resolved = some owner := Except.ok.inj (answer.symm.trans first)
  have bag : Bag.ofBgpvpn owner = .ok (.ofList [("type", "l3"), ("vni", "100")]) := by decide
  exact ⟨entry, found, first, carried, Except.ok.inj (carried.symm.trans bag)⟩

end EvpnMetadata.Reconcile
