import EvpnMetadata.Proofs.Deployment

/-! # Log lines

What a procedure may log is judged without fixing what it is answered.  That it does log something
is judged of its plays: a line that a part has logged is a line of the whole.
-/

namespace EvpnMetadata

open EvpnMetadata.Topology Switch

namespace Procedure

variable {allowed : LogLine → Prop}

/-- Whatever it is answered, a procedure logs allowed lines only. -/
def LogsOnly (allowed : LogLine → Prop) : Procedure α → Prop
  | done _ => True
  | router _ next => ∀ answer, (next answer).LogsOnly allowed
  | subnet _ next => ∀ answer, (next answer).LogsOnly allowed
  | bgpvpn _ next => ∀ answer, (next answer).LogsOnly allowed
  | ports _ next => ∀ answer, (next answer).LogsOnly allowed
  | bgpvpns _ next => ∀ answer, (next answer).LogsOnly allowed
  | lookup _ next => ∀ answer, (next answer).LogsOnly allowed
  | rows next => ∀ answer, (next answer).LogsOnly allowed
  | transact _ _ next => ∀ answer, (next answer).LogsOnly allowed
  | log line next => allowed line ∧ next.LogsOnly allowed

theorem LogsOnly.bind {p : Procedure α} {f : α → Procedure β} (hp : p.LogsOnly allowed)
    (hf : ∀ a, (f a).LogsOnly allowed) : (p.bind f).LogsOnly allowed := by
  induction p with
  | done result => exact hf result
  | router id next ih | subnet id next ih | bgpvpn id next ih | ports filter next ih
  | bgpvpns filter next ih | lookup name next ih | rows next ih | transact row changes next ih =>
    exact fun answer => ih answer (hp answer)
  | log line next ih => exact ⟨hp.1, ih hp.2⟩

theorem LogsOnly.of_mem_lines {p : Procedure α} (hp : p.LogsOnly allowed)
    {deployment : Deployment σ} {state : σ} {line : LogLine}
    (logged : line ∈ (p.play deployment state).lines) : allowed line := by
  induction p generalizing state with
  | done result => cases logged
  | router id next ih | subnet id next ih | bgpvpn id next ih | ports filter next ih
  | bgpvpns filter next ih | lookup name next ih | rows next ih =>
    exact ih _ (hp _) logged
  | transact row changes next ih => exact ih _ (hp _) logged
  | log own next ih =>
    rcases List.mem_cons.mp logged with rfl | later
    · exact hp.1
    · exact ih hp.2 later

end Procedure

namespace Attempt

variable {allowed : LogLine → Prop}

structure LogsOnly (allowed : LogLine → Prop) (attempt : Attempt α) : Prop where
  run : attempt.run.LogsOnly allowed

theorem logsOnly_pure (a : α) : LogsOnly allowed (pure a : Attempt α) := ⟨trivial⟩

theorem logsOnly_throw (fault : Fault) : LogsOnly allowed (throw fault : Attempt α) := ⟨trivial⟩

theorem logsOnly_ofExcept (result : Except Fault α) : LogsOnly allowed (ofExcept result) :=
  ⟨trivial⟩

theorem logsOnly_log {level : LogLevel} {text : String} (may : allowed { level, text }) :
    LogsOnly allowed (log level text) := ⟨may, trivial⟩

theorem logsOnly_router (id : String) : LogsOnly allowed (router id) := ⟨fun _ => trivial⟩

theorem logsOnly_bgpvpn (id : String) : LogsOnly allowed (bgpvpn id) := ⟨fun _ => trivial⟩

theorem logsOnly_ports (filter : PortFilter) : LogsOnly allowed (ports filter) :=
  ⟨fun _ => trivial⟩

theorem logsOnly_bgpvpns (filter : BgpvpnFilter) : LogsOnly allowed (bgpvpns filter) :=
  ⟨fun _ => trivial⟩

theorem logsOnly_lookup (name : String) : LogsOnly allowed (lookup name) := ⟨fun _ => trivial⟩

theorem LogsOnly.bind {x : Attempt α} {f : α → Attempt β} (hx : x.LogsOnly allowed)
    (hf : ∀ a, (f a).LogsOnly allowed) : (x >>= f).LogsOnly allowed := by
  refine ⟨Procedure.LogsOnly.bind hx.run fun result => ?_⟩
  cases result with
  | ok a => exact (hf a).run
  | error fault => trivial

theorem LogsOnly.discard {x : Attempt α} (hx : x.LogsOnly allowed) :
    LogsOnly allowed (do Functor.discard x : Attempt Unit) := by
  change LogsOnly allowed (_ <$> x)
  rw [map_eq_pure_bind]
  exact hx.bind fun _ => logsOnly_pure _

theorem LogsOnly.forM {f : α → Attempt Unit} (hf : ∀ item, (f item).LogsOnly allowed)
    (items : List α) : (items.forM f).LogsOnly allowed := by
  induction items with
  | nil => exact logsOnly_pure ()
  | cons item rest ih => exact (hf item).bind fun _ => ih

end Attempt

theorem Outcome.lines_after (marks : List Mark) (outcome : Outcome σ α) :
    (outcome.after marks).lines = Outcome.lines { outcome with marks } ++ outcome.lines := by
  rw [lines, after, List.filterMap_append]
  rfl

namespace Procedure

variable {deployment : Deployment σ} {state : σ} {line : LogLine}

theorem mem_lines_bind {p : Procedure α} (logged : line ∈ (p.play deployment state).lines)
    (f : α → Procedure β) : line ∈ ((p.bind f).play deployment state).lines := by
  rw [play_bind, Outcome.lines_after]
  exact List.mem_append_left _ logged

/-- What one step of a fold logs at any site of an inventory, the whole fold logs. -/
theorem mem_lines_foldlM {inventory : Inventory} {f : β → α → Procedure β} {item : α}
    (logged : ∀ b site, site.inventory = inventory →
      line ∈ ((f b item).play Site.deployment site).lines)
    {items : List α} (listed : item ∈ items) (b : β) {site : Site}
    (still : site.inventory = inventory) :
    line ∈ ((items.foldlM f b).play Site.deployment site).lines := by
  induction items generalizing b site with
  | nil => cases listed
  | cons head rest ih =>
    rw [List.foldlM_cons]
    rcases List.mem_cons.mp listed with rfl | later
    · exact mem_lines_bind (logged b site still) _
    · change line ∈ (((f b head).bind _).play Site.deployment site).lines
      rw [play_bind, Outcome.lines_after]
      apply List.mem_append_right
      exact ih later _ ((Site.inventory_play _ site).trans still)

end Procedure

namespace Attempt

variable {deployment : Deployment σ} {state : σ} {line : LogLine}

theorem mem_lines_bind {x : Attempt α} (logged : line ∈ (x.play deployment state).lines)
    (f : α → Attempt β) : line ∈ ((x >>= f).play deployment state).lines :=
  Procedure.mem_lines_bind logged _

theorem mem_lines_bind_ok {x : Attempt α} {a : α}
    (ended : (x.play deployment state).result = .ok a) {f : α → Attempt β}
    (logged : line ∈ ((f a).play deployment (x.play deployment state).state).lines) :
    line ∈ ((x >>= f).play deployment state).lines := by
  rw [play_bind, ended, Outcome.lines_after]
  exact List.mem_append_right _ logged

/-- An inquiry logs what the topology makes it log, whatever switches stand beside it. -/
theorem IsInquiry.lines_eq {x : Attempt α} (hx : x.IsInquiry) (deployment : Deployment σ)
    (state : σ) :
    (x.play deployment state).lines =
      (x.play (deployment.topology.frozen state).alone ()).lines := by
  rw [play, Procedure.IsInquiry.play_eq hx]
  rfl

/-- After an inquiry was answered, its continuation ends as it does from the same state. -/
theorem IsInquiry.result_bind {x : Attempt α} (hx : x.IsInquiry) {a : α}
    (answered : x.answer (deployment.topology.frozen state) = .ok a) (f : α → Attempt β) :
    ((x >>= f).play deployment state).result = ((f a).play deployment state).result := by
  have asked := hx.quiet_play deployment state
  rw [play_bind, show (x.play deployment state).result = .ok a from
    (congrArg Outcome.result asked).trans answered]
  exact congrArg (fun after => ((f a).play deployment after).result)
    (congrArg Outcome.state asked)

/-- After an inquiry was answered, its continuation logs what it logs. -/
theorem IsInquiry.mem_lines_bind {x : Attempt α} (hx : x.IsInquiry) {a : α}
    (answered : x.answer (deployment.topology.frozen state) = .ok a) {f : α → Attempt β}
    (logged : line ∈ ((f a).play deployment state).lines) :
    line ∈ ((x >>= f).play deployment state).lines := by
  have asked := hx.quiet_play deployment state
  apply mem_lines_bind_ok ((congrArg Outcome.result asked).trans answered)
  rwa [show (x.play deployment state).state = state from congrArg Outcome.state asked]

/-- A loop that ends well logs what one of its turns logs at any site of the inventory. -/
theorem mem_lines_forM {inventory : Inventory} {f : α → Attempt Unit} {item : α}
    (logged : ∀ site, site.inventory = inventory →
      line ∈ ((f item).play Site.deployment site).lines)
    {items : List α} (listed : item ∈ items) {site : Site} (still : site.inventory = inventory)
    (ended : ((items.forM f).play Site.deployment site).result = .ok ()) :
    line ∈ ((items.forM f).play Site.deployment site).lines := by
  induction items generalizing site with
  | nil => cases listed
  | cons head rest ih =>
    change Outcome.result ((f head >>= fun _ => rest.forM f).play Site.deployment site) = _ at ended
    change line ∈ ((f head >>= fun _ => rest.forM f).play Site.deployment site).lines
    rcases List.mem_cons.mp listed with rfl | later
    · exact mem_lines_bind (logged site still) _
    · rw [play_bind] at ended
      cases result : ((f head).play Site.deployment site).result with
      | error fault =>
        rw [result] at ended
        cases ended
      | ok done =>
        rw [result] at ended
        exact mem_lines_bind_ok result
          (ih later ((Site.inventory_play _ site).trans still) ended)

end Attempt

end EvpnMetadata
