import EvpnMetadata.Proofs.Reconcile.Settlement
import Mathlib.Data.List.TakeWhile

/-! # Agendas

While the topology stands still, a hook comes down to an agenda: the assignments that it settles, in
order, and the way it ends if all of them are settled.  The agenda does not depend on what the
switches hold, which is why a hook that was interrupted can simply be run again.
-/

namespace EvpnMetadata.Reconcile

open Vpn EvpnMetadata.Topology Switch

variable (naming : Naming)

namespace Assignment

theorem get?_effect (assignment : Assignment) (switches : Switches) (name : String) :
    (assignment.effect naming switches).get? name =
      if name = naming.logicalName assignment.networkId then
        (switches.get? name).map (settledEntry assignment.owner)
      else switches.get? name :=
  FiniteMap.get?_modify ..

theorem contains_effect (assignment : Assignment) (switches : Switches) (name : String) :
    (assignment.effect naming switches).contains name = switches.contains name := by
  rw [FiniteMap.contains, FiniteMap.contains, get?_effect]
  split
  · rw [Option.isSome_map]
  · rfl

theorem effect_of_absent {assignment : Assignment} {switches : Switches}
    (noSwitch : switches.get? (naming.logicalName assignment.networkId) = none) :
    assignment.effect naming switches = switches := by
  apply FiniteMap.modify_eq_self
  intro entry found
  rw [noSwitch] at found
  cases found

theorem keepsForeign_effect (assignment : Assignment) (switches : Switches) :
    KeepsForeign naming switches (assignment.effect naming switches) := by
  refine .of_rows fun name => ?_
  rw [get?_effect]
  split
  · next here =>
    refine ⟨_, rfl, .settledEntry assignment.owner, fun foreign => ?_⟩
    rw [(naming.networkId?_eq_some_iff _ _).mpr here] at foreign
    cases foreign
  · exact ⟨id, Option.map_id.symm ▸ rfl, .refl, fun _ _ => rfl⟩

theorem effect_idem (assignment : Assignment) (switches : Switches) :
    assignment.effect naming (assignment.effect naming switches) =
      assignment.effect naming switches := by
  apply FiniteMap.ext_get?
  intro name
  rw [get?_effect, get?_effect]
  split
  · cases switches.get? name with
    | none => rfl
    | some entry => exact congrArg some (settledEntry_idem assignment.owner entry)
  · rfl

/-- Assignments of different networks do not disturb each other. -/
theorem effect_comm {first second : Assignment}
    (apart : naming.logicalName first.networkId ≠ naming.logicalName second.networkId)
    (switches : Switches) :
    first.effect naming (second.effect naming switches) =
      second.effect naming (first.effect naming switches) := by
  apply FiniteMap.ext_get?
  intro name
  simp only [get?_effect]
  by_cases here : name = naming.logicalName first.networkId
  · subst here
    simp [apart]
  · simp [here]

/-- A later assignment of the same network absorbs an earlier one, if it can be published. -/
theorem effect_effect {first second : Assignment} {attributes : Bag}
    (same : naming.logicalName first.networkId = naming.logicalName second.networkId)
    (good : Bag.ofOwner second.owner = .ok attributes) (switches : Switches) :
    second.effect naming (first.effect naming switches) = second.effect naming switches := by
  apply FiniteMap.ext_get?
  intro name
  simp only [get?_effect, same]
  split
  · cases switches.get? name with
    | none => rfl
    | some entry => exact congrArg some (settledEntry_settledEntry good first.owner entry)
  · rfl

theorem exists_attributes {switches : Switches} {entry : Entry} (assignment : Assignment)
    (unrefused : assignment.refusal? naming switches = none)
    (found : switches.get? (naming.logicalName assignment.networkId) = some entry) :
    ∃ attributes, Bag.ofOwner assignment.owner = .ok attributes := by
  have there := (FiniteMap.contains_iff _ _).mpr ⟨entry, found⟩
  rw [refusal?, if_pos there] at unrefused
  cases called : Bag.ofOwner assignment.owner with
  | ok attributes => exact ⟨attributes, rfl⟩
  | error fault =>
    rw [called] at unrefused
    cases unrefused

theorem effect_of_refused {assignment : Assignment} {fault : Fault}
    (bad : Bag.ofOwner assignment.owner = .error fault) (switches : Switches) :
    assignment.effect naming switches = switches := by
  apply FiniteMap.modify_eq_self
  intro entry _
  rw [settledEntry, bad]

end Assignment

/-- The switches after assignments were settled from left to right. -/
def effects (assignments : List Assignment) (switches : Switches) : Switches :=
  assignments.foldl (fun acc assignment => assignment.effect naming acc) switches

theorem effects_append (first second : List Assignment) (switches : Switches) :
    effects naming (first ++ second) switches =
      effects naming second (effects naming first switches) :=
  List.foldl_append

theorem contains_effects (assignments : List Assignment) (switches : Switches) (name : String) :
    (effects naming assignments switches).contains name = switches.contains name := by
  induction assignments generalizing switches with
  | nil => rfl
  | cons assignment rest ih => exact (ih _).trans (assignment.contains_effect naming switches name)

theorem keepsForeign_effects (assignments : List Assignment) (switches : Switches) :
    KeepsForeign naming switches (effects naming assignments switches) := by
  induction assignments generalizing switches with
  | nil => exact .refl switches
  | cons assignment rest ih =>
    exact (assignment.keepsForeign_effect naming switches).trans (ih _)

/-- An assignment that is on the list anyway makes no difference beforehand. -/
theorem effects_effect {assignments : List Assignment} {assignment : Assignment}
    (listed : assignment ∈ assignments) (switches : Switches) :
    effects naming assignments (assignment.effect naming switches) =
      effects naming assignments switches := by
  induction assignments generalizing switches with
  | nil => cases listed
  | cons head rest ih =>
    change effects naming rest (head.effect naming (assignment.effect naming switches)) =
      effects naming rest (head.effect naming switches)
    by_cases here : assignment = head
    · rw [here, Assignment.effect_idem]
    · have later : assignment ∈ rest := (List.mem_cons.mp listed).resolve_left here
      by_cases same : naming.logicalName assignment.networkId = naming.logicalName head.networkId
      · cases called : Bag.ofOwner head.owner with
        | ok attributes => rw [Assignment.effect_effect naming same called]
        | error fault =>
          have refused := Assignment.effect_of_refused naming called
          rw [refused, refused, ih later]
      · rw [← Assignment.effect_comm naming same, ih later]

/-- Whatever part of a list was settled before, settling the whole list absorbs it. -/
theorem effects_effects {done assignments : List Assignment} (part : done ⊆ assignments)
    (switches : Switches) :
    effects naming assignments (effects naming done switches) =
      effects naming assignments switches := by
  induction done generalizing switches with
  | nil => rfl
  | cons head rest ih =>
    have ⟨listed, others⟩ := List.cons_subset.mp part
    exact (ih others _).trans (effects_effect naming listed switches)

theorem get?_effects_of_ne {assignments : List Assignment} {name : String}
    (others : ∀ assignment ∈ assignments, name ≠ naming.logicalName assignment.networkId)
    (switches : Switches) :
    (effects naming assignments switches).get? name = switches.get? name := by
  induction assignments generalizing switches with
  | nil => rfl
  | cons head rest ih =>
    apply (ih (fun assignment mem => others assignment (.tail _ mem)) _).trans
    rw [Assignment.get?_effect, if_neg (others head List.mem_cons_self)]

/-- When the owner is decided by the network, the order and the repetitions do not matter. -/
theorem get?_effects (owner : String → Option Bgpvpn) {assignments : List Assignment}
    (decided : ∀ assignment ∈ assignments, assignment.owner = owner assignment.networkId)
    (switches : Switches) (networkId : String) :
    (effects naming assignments switches).get? (naming.logicalName networkId) =
      if networkId ∈ assignments.map Assignment.networkId then
        (switches.get? (naming.logicalName networkId)).map (settledEntry (owner networkId))
      else switches.get? (naming.logicalName networkId) := by
  induction assignments generalizing switches with
  | nil => rfl
  | cons head rest ih =>
    apply (ih (fun assignment mem => decided assignment (.tail _ mem)) _).trans
    rw [Assignment.get?_effect, decided head List.mem_cons_self]
    simp only [naming.logicalName_inj, List.map_cons, List.mem_cons]
    by_cases here : networkId = head.networkId
    · subst here
      simp only [if_true, true_or]
      split
      · rw [Option.map_map]
        exact congrArg (Option.map · _) (funext (settledEntry_idem _))
      · rfl
    · simp only [here, if_false, false_or]

theorem evpnPart_settledEntry {owner : Option Bgpvpn} {attributes : Bag}
    (good : Bag.ofOwner owner = .ok attributes) (entry : Entry) :
    Bag.evpnPart (settledEntry owner entry).bag = attributes := by
  rw [settledEntry_eq good]
  exact Bag.evpnPart_carrying (Bag.isEvpn_ofOwner good) entry.bag

/-- A switch is left alone, or it carries what the last assignment of its network calls for. -/
theorem effects_cases {assignments : List Assignment} (publishable : ∀ assignment ∈ assignments,
      ∃ attributes, Bag.ofOwner assignment.owner = .ok attributes)
    {switches : Switches} {networkId : String} {entry : Entry}
    (found : (effects naming assignments switches).get? (naming.logicalName networkId) =
      some entry) :
    (networkId ∉ assignments.map Assignment.networkId ∧
      switches.get? (naming.logicalName networkId) = some entry) ∨
    ∃ assignment ∈ assignments, assignment.networkId = networkId ∧
      Bag.ofOwner assignment.owner = .ok (Bag.evpnPart entry.bag) := by
  induction assignments generalizing switches with
  | nil => exact .inl ⟨List.not_mem_nil, found⟩
  | cons head rest ih =>
    rcases ih (fun assignment mem => publishable assignment (.tail _ mem)) found with
      ⟨others, left⟩ | ⟨assignment, mem, named, good⟩
    · rw [Assignment.get?_effect] at left
      split at left
      · next here =>
        obtain ⟨before, _, rfl⟩ := Option.map_eq_some_iff.mp left
        obtain ⟨attributes, good⟩ := publishable head List.mem_cons_self
        refine .inr ⟨head, List.mem_cons_self, (naming.logicalName_inj.mp here).symm, ?_⟩
        rw [evpnPart_settledEntry good, good]
      · next elsewhere =>
        refine .inl ⟨?_, left⟩
        rw [List.map_cons, List.mem_cons, not_or]
        exact ⟨fun same => elsewhere (congrArg naming.logicalName same), others⟩
    · exact .inr ⟨assignment, .tail _ mem, named, good⟩

namespace Assignment

/-- The switch, if there is one, carries exactly what the owner calls for. -/
def IsSettled (assignment : Assignment) (switches : Switches) : Prop :=
  ∀ entry, switches.get? (naming.logicalName assignment.networkId) = some entry →
    Bag.ofOwner assignment.owner = .ok (Bag.evpnPart entry.bag)

instance (assignment : Assignment) (switches : Switches) :
    Decidable (assignment.IsSettled naming switches) :=
  inferInstanceAs (Decidable (∀ entry ∈ switches.get? (naming.logicalName assignment.networkId),
    Bag.ofOwner assignment.owner = .ok (Bag.evpnPart entry.bag)))

variable {naming}

theorem IsSettled.effect_eq {assignment : Assignment} {switches : Switches}
    (settled : assignment.IsSettled naming switches) :
    assignment.effect naming switches = switches := by
  apply FiniteMap.modify_eq_self
  intro entry found
  rw [settledEntry_eq (settled entry found), Bag.carrying_evpnPart]

theorem IsSettled.refusal?_eq {assignment : Assignment} {switches : Switches}
    (settled : assignment.IsSettled naming switches) :
    assignment.refusal? naming switches = none := by
  rw [refusal?]
  split
  · next there =>
    obtain ⟨entry, found⟩ := (FiniteMap.contains_iff _ _).mp there
    rw [settled entry found]
  · rfl

end Assignment

theorem effects_of_isSettled {assignments : List Assignment} {switches : Switches}
    (settled : ∀ assignment ∈ assignments, assignment.IsSettled naming switches) :
    effects naming assignments switches = switches := by
  induction assignments with
  | nil => rfl
  | cons head rest ih =>
    change effects naming rest (head.effect naming switches) = switches
    rw [(settled head List.mem_cons_self).effect_eq,
      ih fun assignment mem => settled assignment (.tail _ mem)]

theorem isSettled_effects (owner : String → Option Bgpvpn) {assignments : List Assignment}
    (decided : ∀ assignment ∈ assignments, assignment.owner = owner assignment.networkId)
    {switches : Switches} {assignment : Assignment} (listed : assignment ∈ assignments)
    (unrefused : assignment.refusal? naming switches = none) :
    assignment.IsSettled naming (effects naming assignments switches) := by
  intro entry found
  rw [get?_effects naming owner decided, if_pos (List.mem_map_of_mem listed)] at found
  obtain ⟨before, there, rfl⟩ := Option.map_eq_some_iff.mp found
  obtain ⟨attributes, good⟩ := assignment.exists_attributes naming unrefused there
  rw [← decided assignment listed, evpnPart_settledEntry good, good]

/-- The assignments that are settled before the first one that is refused. -/
def admitted (assignments : List Assignment) (switches : Switches) : List Assignment :=
  assignments.takeWhile fun assignment => (assignment.refusal? naming switches).isNone

/-- How settling a list of assignments ends when no transaction is aborted. -/
def verdict (assignments : List Assignment) (switches : Switches) : Except Fault Unit :=
  match assignments.findSome? fun assignment => assignment.refusal? naming switches with
  | none => .ok ()
  | some fault => .error fault

theorem refusal?_effects (done : List Assignment) (assignment : Assignment) (switches : Switches) :
    assignment.refusal? naming (effects naming done switches) =
      assignment.refusal? naming switches := by
  rw [Assignment.refusal?, Assignment.refusal?, contains_effects]

theorem admitted_effects (done assignments : List Assignment) (switches : Switches) :
    admitted naming assignments (effects naming done switches) =
      admitted naming assignments switches := by
  simp only [admitted, refusal?_effects]

theorem verdict_effects (done assignments : List Assignment) (switches : Switches) :
    verdict naming assignments (effects naming done switches) =
      verdict naming assignments switches := by
  simp only [verdict, refusal?_effects]

/-- What settling a list of assignments can do; it stops at the first fault. -/
inductive Performs (mayAbort : Prop) : List Assignment → Switches →
    Except Fault Unit → Switches → List Transaction → Prop where
  | nil (switches : Switches) : Performs mayAbort [] switches (.ok ()) switches []
  | cons {assignment : Assignment} {rest : List Assignment} {before middle after : Switches}
    {there : Bool} {result : Except Fault Unit} {first others : List Transaction}
    (posted : Posts naming mayAbort assignment before (.ok there) middle first)
    (performed : Performs mayAbort rest middle result after others) :
    Performs mayAbort (assignment :: rest) before result after (first ++ others)
  | stop {assignment : Assignment} {before after : Switches} {fault : Fault}
    {transactions : List Transaction} (rest : List Assignment)
    (failed : Posts naming mayAbort assignment before (.error fault) after transactions) :
    Performs mayAbort (assignment :: rest) before (.error fault) after transactions

section Laws

variable {naming} {mayAbort : Prop} {assignment : Assignment} {assignments : List Assignment}
  {before after : Switches} {transactions : List Transaction}

theorem Posts.of_ok {there : Bool}
    (h : Posts naming mayAbort assignment before (.ok there) after transactions) :
    after = assignment.effect naming before ∧ assignment.refusal? naming before = none := by
  cases h with
  | absent noSwitch =>
    refine ⟨(Assignment.effect_of_absent naming noSwitch).symm, ?_⟩
    simp [Assignment.refusal?, FiniteMap.contains, noSwitch]
  | written found good => exact ⟨rfl, by simp [Assignment.refusal?, good]⟩

theorem Posts.of_error {fault : Fault}
    (h : Posts naming mayAbort assignment before (.error fault) after transactions) :
    after = before ∧ (mayAbort ∨ assignment.refusal? naming before = some fault) := by
  cases h with
  | refused found bad =>
    exact ⟨rfl, .inr (by simp [Assignment.refusal?, FiniteMap.contains, found, bad])⟩
  | aborted may found good => exact ⟨rfl, .inl may⟩

/-- However a list was interrupted, a first part of what is admitted has been settled. -/
theorem Performs.exists_done {result : Except Fault Unit}
    (h : Performs naming mayAbort assignments before result after transactions) :
    ∃ done, done <+: admitted naming assignments before ∧ after = effects naming done before := by
  induction h with
  | nil switches => exact ⟨[], List.nil_prefix, rfl⟩
  | @cons assignment rest before middle _ _ _ _ _ posted performed ih =>
    obtain ⟨done, part, rfl⟩ := ih
    obtain ⟨rfl, taken⟩ := posted.of_ok
    refine ⟨assignment :: done, ?_, rfl⟩
    have same := admitted_effects naming [assignment] rest before
    change admitted naming rest (assignment.effect naming before) = _ at same
    rw [admitted, List.takeWhile_cons, taken, ← admitted, ← same]
    exact List.prefix_cons_iff.mpr (.inr ⟨done, rfl, part⟩)
  | stop rest failed => exact ⟨[], List.nil_prefix, failed.of_error.1⟩

/-- Without aborts, the admitted assignments are settled, and the first refusal is the result. -/
theorem Performs.eq {result : Except Fault Unit}
    (h : Performs naming False assignments before result after transactions) :
    result = verdict naming assignments before ∧
      after = effects naming (admitted naming assignments before) before := by
  induction h with
  | nil switches => exact ⟨rfl, rfl⟩
  | @cons assignment rest before middle _ _ _ _ _ posted performed ih =>
    obtain ⟨rfl, rfl⟩ := ih
    obtain ⟨rfl, taken⟩ := posted.of_ok
    have sameVerdict := verdict_effects naming [assignment] rest before
    have sameAdmitted := admitted_effects naming [assignment] rest before
    change verdict naming rest (assignment.effect naming before) = _ at sameVerdict
    change admitted naming rest (assignment.effect naming before) = _ at sameAdmitted
    rw [sameVerdict, sameAdmitted]
    constructor
    · rw [verdict, verdict, List.findSome?_cons, taken]
    · rw [admitted, admitted, List.takeWhile_cons, taken]
      rfl
  | stop rest failed =>
    obtain ⟨rfl, aborted | refused⟩ := failed.of_error
    · exact aborted.elim
    · constructor
      · rw [verdict, List.findSome?_cons, refused]
      · rw [admitted, List.takeWhile_cons, refused]
        rfl

theorem verdict_eq_ok_iff :
    verdict naming assignments before = .ok () ↔
      ∀ assignment ∈ assignments, assignment.refusal? naming before = none := by
  rw [verdict, ← List.findSome?_eq_none_iff]
  cases List.findSome? (fun assignment => Assignment.refusal? naming assignment before)
    assignments <;> simp

theorem Performs.eq_effects {result : Except Fault Unit}
    (h : Performs naming False assignments before result after transactions)
    (unrefused : ∀ assignment ∈ assignments, assignment.refusal? naming before = none) :
    result = .ok () ∧ after = effects naming assignments before := by
  obtain ⟨rfl, rfl⟩ := h.eq
  have all : admitted naming assignments before = assignments := by
    rw [admitted, List.takeWhile_eq_self_iff]
    intro assignment mem
    rw [unrefused assignment mem, Option.isNone_none]
  rw [all]
  exact ⟨verdict_eq_ok_iff.mpr unrefused, rfl⟩

theorem Performs.of_ok
    (h : Performs naming mayAbort assignments before (.ok ()) after transactions) :
    after = effects naming assignments before ∧
      ∀ assignment ∈ assignments, assignment.refusal? naming before = none := by
  generalize ended : Except.ok () = result at h
  induction h with
  | nil switches => exact ⟨rfl, by simp⟩
  | @cons assignment rest before middle _ _ _ _ _ posted performed ih =>
    obtain ⟨rfl, unrefused⟩ := ih ended
    obtain ⟨rfl, taken⟩ := posted.of_ok
    refine ⟨rfl, List.forall_mem_cons.mpr ⟨taken, fun later mem => ?_⟩⟩
    rw [← unrefused later mem]
    exact (refusal?_effects naming [assignment] later before).symm
  | stop rest failed => cases ended

end Laws

def settleAll (assignments : List Assignment) : Attempt Unit :=
  assignments.forM fun assignment => settle naming assignment.networkId assignment.owner

theorem settleAll_cons (assignment : Assignment) (rest : List Assignment) :
    settleAll naming (assignment :: rest) =
      (do discard (assignment.post naming); settleAll naming rest : Attempt Unit) := by
  rw [← Assignment.settle_eq_post]
  rfl

section Play

variable {deployment : Deployment σ} {memory : σ → Memory} {mayAbort : Prop}

theorem play_discard (x : Attempt α) (state : σ) :
    (discard x : Attempt Unit).play deployment state =
      { x.play deployment state with
        result := (x.play deployment state).result.map fun _ => () } :=
  Attempt.play_map (fun _ => ()) x state

theorem performs (h : deployment.InMemory memory mayAbort) (assignments : List Assignment)
    (state : σ) :
    Performs naming mayAbort assignments (memory state).switches
      ((settleAll naming assignments).play deployment state).result
      (memory ((settleAll naming assignments).play deployment state).state).switches
      ((settleAll naming assignments).play deployment state).transactions := by
  induction assignments generalizing state with
  | nil => exact .nil _
  | cons assignment rest ih =>
    have posted := posts naming h assignment state
    rw [settleAll_cons, Attempt.play_bind, play_discard]
    cases result : ((assignment.post naming).play deployment state).result with
    | ok there =>
      rw [result] at posted
      simp only [Except.map, Outcome.transactions_after]
      exact .cons posted (ih _)
    | error fault =>
      rw [result] at posted
      exact .stop rest posted

end Play

end EvpnMetadata.Reconcile
