import EvpnMetadata.Deployment
import Mathlib.Data.List.Basic

/-! # Laws of playing procedures

Procedures form a lawful monad, and playing one after another plays the second from where the first
ended.  An inquiry only asks the topology and logs, so it leaves the state alone and its answer
depends on the topology only.
-/

namespace EvpnMetadata

open EvpnMetadata.Topology Switch

namespace Procedure

theorem bind_done (p : Procedure α) : p.bind done = p := by
  induction p with
  | done result => rfl
  | log line next ih => rw [bind, ih]
  | router id next ih | subnet id next ih | bgpvpn id next ih | ports filter next ih
  | bgpvpns filter next ih | lookup name next ih | rows next ih | transact row changes next ih =>
    rw [bind]
    congr 1
    funext answer
    exact ih answer

theorem bind_assoc (p : Procedure α) (f : α → Procedure β) (g : β → Procedure γ) :
    (p.bind f).bind g = p.bind fun a => (f a).bind g := by
  induction p with
  | done result => rfl
  | log line next ih => rw [bind, bind, bind, ih]
  | router id next ih | subnet id next ih | bgpvpn id next ih | ports filter next ih
  | bgpvpns filter next ih | lookup name next ih | rows next ih | transact row changes next ih =>
    rw [bind, bind, bind]
    congr 1
    funext answer
    exact ih answer

instance : LawfulMonad Procedure :=
  LawfulMonad.mk' Procedure (fun p => bind_done p) (fun _ _ => rfl) bind_assoc

end Procedure

theorem exists_of_bind_eq_ok {x : Except ε α} {f : α → Except ε β} {b : β}
    (h : (x >>= f) = .ok b) : ∃ a, x = .ok a ∧ f a = .ok b := by
  cases x with
  | ok a => exact ⟨a, rfl, h⟩
  | error fault => cases h

theorem of_bind_eq_error {x : Except ε α} {f : α → Except ε β} {e : ε}
    (h : (x >>= f) = .error e) : x = .error e ∨ ∃ a, x = .ok a ∧ f a = .error e := by
  cases x with
  | ok a => exact .inr ⟨a, rfl, h⟩
  | error fault => exact .inl (congrArg Except.error (Except.error.inj h))

theorem discard_eq_ok_iff {answer : Except Fault α} :
    discard answer = .ok () ↔ ∃ a, answer = .ok a := by
  cases answer with
  | ok a => exact iff_of_true rfl ⟨a, rfl⟩
  | error fault => exact iff_of_false nofun nofun

theorem mapM_answered {f : α → Except ε β} {items : List α}
    (answered : ∀ a ∈ items, ∃ b, f a = .ok b) :
    ∃ bs, items.mapM f = .ok bs ∧ ∀ b, b ∈ bs ↔ ∃ a ∈ items, f a = .ok b := by
  induction items with
  | nil => exact ⟨[], rfl, by simp⟩
  | cons item rest ih =>
    obtain ⟨⟨first, answer⟩, others⟩ := List.forall_mem_cons.mp answered
    obtain ⟨bs, asked, mem⟩ := ih others
    refine ⟨first :: bs, ?_, fun b => ?_⟩
    · rw [List.mapM_cons, answer, asked]
      rfl
    · rw [List.mem_cons, mem, List.exists_mem_cons_iff, answer, Except.ok.injEq, eq_comm]

theorem mapM_refused {f : α → Except ε β} {items : List α}
    (refused : ∃ a ∈ items, ∃ e, f a = .error e) :
    ∃ a ∈ items, ∃ e, f a = .error e ∧ items.mapM f = .error e := by
  induction items with
  | nil =>
    obtain ⟨_, mem, _⟩ := refused
    cases mem
  | cons item rest ih =>
    rw [List.mapM_cons]
    cases answer : f item with
    | error e => exact ⟨item, List.mem_cons_self, e, answer, rfl⟩
    | ok b =>
      rw [List.exists_mem_cons_iff, answer] at refused
      obtain ⟨a, mem, e, refusal, asked⟩ := ih (refused.resolve_left fun ⟨_, same⟩ => nomatch same)
      rw [asked]
      exact ⟨a, .tail _ mem, e, refusal, rfl⟩

theorem mapM_cases (f : α → Except ε β) (items : List α) :
    (∃ a ∈ items, ∃ e, f a = .error e ∧ items.mapM f = .error e) ∨
    ((∀ a ∈ items, ∃ b, f a = .ok b) ∧
      ∃ bs, items.mapM f = .ok bs ∧ ∀ b, b ∈ bs ↔ ∃ a ∈ items, f a = .ok b) := by
  by_cases answered : ∀ a ∈ items, ∃ b, f a = .ok b
  · exact .inr ⟨answered, mapM_answered answered⟩
  · left
    apply mapM_refused
    push Not at answered
    obtain ⟨a, mem, unanswered⟩ := answered
    cases answer : f a with
    | error e => exact ⟨a, mem, e, answer⟩
    | ok b => exact absurd answer (unanswered b)

namespace Outcome

def after (marks : List Mark) (outcome : Outcome σ α) : Outcome σ α :=
  { outcome with marks := marks ++ outcome.marks }

@[simp] theorem after_result (marks : List Mark) (outcome : Outcome σ α) :
    (outcome.after marks).result = outcome.result := rfl

@[simp] theorem after_state (marks : List Mark) (outcome : Outcome σ α) :
    (outcome.after marks).state = outcome.state := rfl

@[simp] theorem after_nil (outcome : Outcome σ α) : outcome.after [] = outcome := rfl

/-- The outcome without its log lines: the result, the state and the attempted transactions. -/
def quiet (outcome : Outcome σ α) : Outcome σ α :=
  { outcome with marks := outcome.transactions.map .attempted }

@[simp] theorem quiet_result (outcome : Outcome σ α) : outcome.quiet.result = outcome.result := rfl

@[simp] theorem quiet_state (outcome : Outcome σ α) : outcome.quiet.state = outcome.state := rfl

@[simp] theorem quiet_transactions (outcome : Outcome σ α) :
    outcome.quiet.transactions = outcome.transactions := by
  rw [quiet, transactions, List.filterMap_map]
  exact List.filterMap_some

theorem of_quiet {outcome : Outcome σ α} {result : α} {state : σ}
    (transactions : List Transaction)
    (h : outcome.quiet = { result, state, marks := transactions.map .attempted }) :
    outcome.result = result ∧ outcome.state = state ∧ outcome.transactions = transactions := by
  refine ⟨congrArg Outcome.result h, congrArg Outcome.state h, ?_⟩
  have attempts := congrArg Outcome.transactions h
  rw [quiet_transactions] at attempts
  rw [attempts, Outcome.transactions, List.filterMap_map]
  exact List.filterMap_some

@[simp] theorem transactions_after (marks : List Mark) (outcome : Outcome σ α) :
    (outcome.after marks).transactions =
      (marks.filterMap fun
        | .attempted transaction => some transaction
        | .logged _ => none) ++ outcome.transactions := by
  rw [transactions, after, List.filterMap_append]
  rfl

end Outcome

namespace Procedure

variable (deployment : Deployment σ)

theorem play_bind (p : Procedure α) (f : α → Procedure β) (state : σ) :
    (p.bind f).play deployment state =
      ((f (p.play deployment state).result).play deployment (p.play deployment state).state).after
        (p.play deployment state).marks := by
  induction p generalizing state with
  | done result => rfl
  | router id next ih | subnet id next ih | bgpvpn id next ih | ports filter next ih
  | bgpvpns filter next ih | lookup name next ih | rows next ih => exact ih _ state
  | transact row changes next ih =>
    rw [bind, play, play]
    simp only [ih]
    rfl
  | log line next ih =>
    rw [bind, play, play, ih]
    rfl

/-- What comes after a procedure only logs. -/
theorem quiet_bind {f : α → Procedure β} {g : α → β}
    (silent : ∀ a state, ((f a).play deployment state).quiet = { result := g a, state })
    (p : Procedure α) (state : σ) :
    ((p.bind f).play deployment state).quiet =
      { result := g (p.play deployment state).result
        state := (p.play deployment state).state
        marks := (p.play deployment state).transactions.map .attempted } := by
  have next := silent (p.play deployment state).result (p.play deployment state).state
  obtain ⟨result, after, attempts⟩ := Outcome.of_quiet [] next
  rw [play_bind, Outcome.quiet, Outcome.transactions_after, attempts, Outcome.after, result, after]
  exact congrArg _ (congrArg _ (List.append_nil _))

end Procedure

namespace Attempt

variable (deployment : Deployment σ)

@[simp] theorem play_pure (a : α) (state : σ) :
    (pure a : Attempt α).play deployment state = { result := .ok a, state } := rfl

theorem play_bind (x : Attempt α) (f : α → Attempt β) (state : σ) :
    (x >>= f).play deployment state =
      match (x.play deployment state).result with
      | .ok a => ((f a).play deployment (x.play deployment state).state).after
          (x.play deployment state).marks
      | .error fault => { x.play deployment state with result := .error fault } := by
  change (Procedure.bind x.run (ExceptT.bindCont f)).play deployment state = _
  rw [Procedure.play_bind]
  change ((ExceptT.bindCont f (x.play deployment state).result).play deployment
    (x.play deployment state).state).after (x.play deployment state).marks = _
  cases (x.play deployment state).result with
  | ok a => rfl
  | error fault =>
    change Outcome.after _ { result := Except.error fault, state := _ } = _
    simp [Outcome.after]

variable {deployment}

theorem quiet_bind_ok {x : Attempt α} {state after : σ} {a : α} {marks : List Mark}
    (h : (x.play deployment state).quiet = { result := .ok a, state := after, marks })
    (f : α → Attempt β) :
    ((x >>= f).play deployment state).quiet = ((f a).play deployment after).quiet.after marks := by
  have result : (x.play deployment state).result = .ok a := congrArg Outcome.result h
  have same : (x.play deployment state).state = after := congrArg Outcome.state h
  have attempts : (x.play deployment state).transactions.map Mark.attempted = marks :=
    congrArg Outcome.marks h
  rw [play_bind, result, same, ← attempts]
  simp only [Outcome.quiet, Outcome.transactions_after, List.map_append]
  rfl

theorem quiet_bind_error {x : Attempt α} {state after : σ} {fault : Fault} {marks : List Mark}
    (h : (x.play deployment state).quiet = { result := .error fault, state := after, marks })
    (f : α → Attempt β) :
    ((x >>= f).play deployment state).quiet =
      { result := .error fault, state := after, marks } := by
  have result : (x.play deployment state).result = .error fault := congrArg Outcome.result h
  have same : (x.play deployment state).state = after := congrArg Outcome.state h
  have attempts : (x.play deployment state).transactions.map Mark.attempted = marks :=
    congrArg Outcome.marks h
  rw [play_bind, result, ← same, ← attempts]
  rfl

theorem quiet_lift (p : Procedure α) (state : σ) :
    ((ExceptT.lift p : Attempt α).play deployment state).quiet =
      { result := .ok (p.play deployment state).result
        state := (p.play deployment state).state
        marks := (p.play deployment state).transactions.map .attempted } :=
  Procedure.quiet_bind deployment (fun _ _ => rfl) p state

theorem play_map (f : α → β) (x : Attempt α) (state : σ) :
    (f <$> x).play deployment state =
      { x.play deployment state with result := (x.play deployment state).result.map f } := by
  rw [map_eq_pure_bind, play_bind]
  cases h : (x.play deployment state).result with
  | ok a => simp [Outcome.after, Except.map]
  | error fault => rfl

end Attempt

def Topology.Source.frozen (source : Source σ) (state : σ) : Source Unit where
  router _ := source.router state
  subnet _ := source.subnet state
  bgpvpn _ := source.bgpvpn state
  ports _ := source.ports state
  bgpvpns _ := source.bgpvpns state

def Topology.Source.alone (source : Source σ) : Deployment σ where
  topology := source
  store := {
    lookup := fun _ _ => .ok none
    rows := fun _ => .ok []
    transact := fun state row _ => (.error (rowGone row.name), state) }

namespace Procedure

/-- A procedure that neither reads nor changes the switches, whatever it is answered. -/
def IsInquiry : Procedure α → Prop
  | done _ => True
  | router _ next => ∀ answer, (next answer).IsInquiry
  | subnet _ next => ∀ answer, (next answer).IsInquiry
  | bgpvpn _ next => ∀ answer, (next answer).IsInquiry
  | ports _ next => ∀ answer, (next answer).IsInquiry
  | bgpvpns _ next => ∀ answer, (next answer).IsInquiry
  | lookup .. | rows .. | transact .. => False
  | log _ next => next.IsInquiry

theorem IsInquiry.bind {p : Procedure α} {f : α → Procedure β} (hp : p.IsInquiry)
    (hf : ∀ a, (f a).IsInquiry) : (p.bind f).IsInquiry := by
  induction p with
  | done result => exact hf result
  | router id next ih | subnet id next ih | bgpvpn id next ih | ports filter next ih
  | bgpvpns filter next ih => exact fun answer => ih answer (hp answer)
  | lookup name next | rows next | transact row changes next => exact hp.elim
  | log line next ih => exact ih hp

/-- An inquiry is answered from the topology as it stands, and leaves the state alone. -/
theorem IsInquiry.play_eq {p : Procedure α} (hp : p.IsInquiry) (deployment : Deployment σ)
    (state : σ) :
    p.play deployment state =
      { result := (p.play (deployment.topology.frozen state).alone ()).result
        state
        marks := (p.play (deployment.topology.frozen state).alone ()).marks } := by
  induction p with
  | done result => rfl
  | router id next ih | subnet id next ih | bgpvpn id next ih | ports filter next ih
  | bgpvpns filter next ih => exact ih _ (hp _)
  | lookup name next | rows next | transact row changes next => exact hp.elim
  | log line next ih =>
    rw [play, ih hp]
    rfl

theorem IsInquiry.transactions_eq {p : Procedure α} (hp : p.IsInquiry) (deployment : Deployment σ)
    (state : σ) : (p.play deployment state).transactions = [] := by
  induction p with
  | done result => rfl
  | router id next ih | subnet id next ih | bgpvpn id next ih | ports filter next ih
  | bgpvpns filter next ih => exact ih _ (hp _)
  | lookup name next | rows next | transact row changes next => exact hp.elim
  | log line next ih => exact ih hp

end Procedure

namespace Attempt

/-- What an attempt learns from a topology that has no switches. -/
def answer (attempt : Attempt α) (topology : Source Unit) : Except Fault α :=
  (attempt.play topology.alone ()).result

def IsInquiry (attempt : Attempt α) : Prop := attempt.run.IsInquiry

theorem isInquiry_pure (a : α) : IsInquiry (pure a) := trivial

theorem isInquiry_throw (fault : Fault) : IsInquiry (throw fault : Attempt α) := trivial

theorem isInquiry_router (id : String) : IsInquiry (router id) := fun _ => trivial

theorem isInquiry_subnet (id : String) : IsInquiry (subnet id) := fun _ => trivial

theorem isInquiry_bgpvpn (id : String) : IsInquiry (bgpvpn id) := fun _ => trivial

theorem isInquiry_ports (filter : PortFilter) : IsInquiry (ports filter) := fun _ => trivial

theorem isInquiry_bgpvpns (filter : BgpvpnFilter) : IsInquiry (bgpvpns filter) := fun _ => trivial

theorem isInquiry_log (level : LogLevel) (text : String) : IsInquiry (log level text) := trivial

theorem IsInquiry.bind {x : Attempt α} {f : α → Attempt β} (hx : x.IsInquiry)
    (hf : ∀ a, (f a).IsInquiry) : (x >>= f).IsInquiry := by
  refine Procedure.IsInquiry.bind hx fun result => ?_
  cases result with
  | ok a => exact hf a
  | error fault => trivial

theorem IsInquiry.mapM {f : α → Attempt β} (hf : ∀ a, (f a).IsInquiry) (items : List α) :
    (items.mapM f).IsInquiry := by
  induction items with
  | nil => rw [List.mapM_nil]; exact isInquiry_pure []
  | cons item rest ih =>
    rw [List.mapM_cons]
    exact (hf item).bind fun _ => ih.bind fun _ => isInquiry_pure _

theorem IsInquiry.foldlM {f : β → α → Attempt β} (hf : ∀ b a, (f b a).IsInquiry) (b : β)
    (items : List α) : (items.foldlM f b).IsInquiry := by
  induction items generalizing b with
  | nil => rw [List.foldlM_nil]; exact isInquiry_pure b
  | cons item rest ih =>
    rw [List.foldlM_cons]
    exact (hf b item).bind ih

/-- An inquiry leaves the state alone, and its result depends on the topology only. -/
theorem IsInquiry.quiet_play {x : Attempt α} (hx : x.IsInquiry) (deployment : Deployment σ)
    (state : σ) :
    (x.play deployment state).quiet =
      { result := x.answer (deployment.topology.frozen state), state } := by
  rw [Outcome.quiet]
  change { x.play deployment state with
    marks := (x.run.play deployment state).transactions.map Mark.attempted } = _
  rw [hx.transactions_eq, play, hx.play_eq]
  rfl

section Answers

variable (topology : Source Unit)

@[simp] theorem answer_ports (filter : PortFilter) :
    (ports filter).answer topology = topology.ports () filter := rfl

@[simp] theorem answer_bgpvpns (filter : BgpvpnFilter) :
    (bgpvpns filter).answer topology = topology.bgpvpns () filter := rfl

@[simp] theorem answer_bind (x : Attempt α) (f : α → Attempt β) :
    (x >>= f).answer topology = x.answer topology >>= fun a => (f a).answer topology := by
  rw [answer, play_bind, answer]
  cases (x.play topology.alone ()).result with
  | ok a => rfl
  | error fault => rfl

@[simp] theorem ok_bind (a : α) (f : α → Except Fault β) : (Except.ok a >>= f) = f a := rfl

theorem answer_mapM_eq (f : α → Attempt β) (items : List α) :
    (items.mapM f).answer topology = items.mapM fun a => (f a).answer topology := by
  induction items with
  | nil => rfl
  | cons item rest ih =>
    simp only [List.mapM_cons, answer_bind, ih]
    rfl

theorem answer_mapM {f : α → Attempt β} {g : α → β}
    (h : ∀ a, (f a).answer topology = .ok (g a)) (items : List α) :
    (items.mapM f).answer topology = .ok (items.map g) := by
  rw [answer_mapM_eq, funext h]
  exact List.mapM_pure

theorem answer_foldlM {f : β → α → Attempt β} {g : β → α → β}
    (h : ∀ b a, (f b a).answer topology = .ok (g b a)) (b : β) (items : List α) :
    (items.foldlM f b).answer topology = .ok (items.foldl g b) := by
  induction items generalizing b with
  | nil => rfl
  | cons item rest ih =>
    rw [List.foldlM_cons, answer_bind, h, ok_bind, ih]
    rfl

end Answers

end Attempt

end EvpnMetadata
