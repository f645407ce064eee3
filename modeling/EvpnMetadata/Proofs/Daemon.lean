import EvpnMetadata.Daemon
import EvpnMetadata.Proofs.KeyValue.EventQueue
import EvpnMetadata.Proofs.KeyValue.KeptLists
import EvpnMetadata.Proofs.Lifecycle.Bus

/-! # The daemon delivers every event

Each turn of the loop takes the oldest text out of the queue, whatever comes of it, and no handler
can put one back.  So every event that waits is handed to the handlers once, in order, and nothing
that goes wrong ends the loop.
-/

namespace EvpnMetadata.Daemon

open KeyValue Lifecycle

variable (settings : Settings)

def withWaiting (texts : List String) (server : Server) : Server :=
  let number := settings.topology.databaseNumber.toNat
  server.set number ((server.get number).putList settings.events.queue.key texts)

theorem waiting_withWaiting (texts : List String) (server : Server) :
    waiting settings (withWaiting settings texts server) = texts := by
  simp only [waiting, withWaiting, Server.get_set, Database.list?_putList, Option.getD_some]

variable {settings} {server : Server} {text : String} {rest : List String}

theorem waiting_eq_cons_iff : waiting settings server = text :: rest ↔
    (server.get settings.topology.databaseNumber.toNat).get? settings.events.queue.key =
      some (.list (text :: rest)) := by
  rw [waiting]
  dsimp only [Database.list?]
  split <;> simp [*]

theorem list?_of_waiting (oldest : waiting settings server = text :: rest) :
    (server.get settings.topology.databaseNumber.toNat).list? settings.events.queue.key =
      some (text :: rest) := by
  rw [Database.list?, waiting_eq_cons_iff.mp oldest]

variable (settings) in
/-- No procedure puts a text into the queue or takes one out of it. -/
theorem waiting_play (p : Procedure α) (server : Server) :
    waiting settings (p.play (deployment settings.store settings.topology) server).state =
      waiting settings server := by
  have same (text : String) (rest : List String) :
      waiting settings (p.play (deployment settings.store settings.topology) server).state =
        text :: rest ↔ waiting settings server = text :: rest := by
    rw [waiting_eq_cons_iff, waiting_eq_cons_iff]
    exact get?_play_eq_list_iff settings.store settings.topology p server _ _ _
  cases before : waiting settings server with
  | cons text rest => exact (same text rest).mpr before
  | nil =>
    cases after : waiting settings
        (p.play (deployment settings.store settings.topology) server).state with
    | nil => rfl
    | cons text rest =>
      rw [(same text rest).mp after] at before
      cases before

def Turn.event? : Turn → Option Event
  | dispatched event _ => some event
  | _ => none

variable (settings) in
def quietTurn (server : Server) : Turn :=
  match (server.get settings.topology.databaseNumber.toNat).list? settings.events.queue.key with
  | some _ => .idle
  | none => .unavailable (.queryFailed "BLPOP" refusal)

variable (settings) in
theorem ends_quietTurn (server : Server) : (quietTurn settings server).ends = false := by
  rw [quietTurn]
  split <;> rfl

variable (settings) in
theorem event?_quietTurn (server : Server) : (quietTurn settings server).event? = none := by
  rw [quietTurn]
  split <;> rfl

variable {handlers : List (Handler Procedure)}

theorem isRetryable_of_take {outage : Option String} {database : Database} {fault : Fault}
    (refused : take settings outage database = .error fault) : fault.isRetryable = true := by
  cases outage with
  | none => exact EventQueue.isRetryable_of_pop refused
  | some reason =>
    cases refused
    rfl

section Turn

variable (deployment : Deployment Server)

theorem ends_turn (outage : Option String) (server : Server) :
    (turn handlers settings deployment outage server).result.ends = false := by
  rw [turn]
  split
  · next refused =>
    rw [if_pos (isRetryable_of_take refused)]
    rfl
  · dsimp only
    split <;> rfl

/-- No turn ends the loop, so all of them are taken. -/
theorem turns_cons (outage : Option String) (outages : List (Option String)) (server : Server) :
    turns handlers settings deployment (outage :: outages) server =
      let first := turn handlers settings deployment outage server
      let rest := turns handlers settings deployment outages first.state
      { result := first.result :: rest.result, state := rest.state,
        marks := first.marks ++ rest.marks } := by
  rw [turns]
  exact if_neg (by simp only [ends_turn, Bool.false_eq_true, not_false_eq_true])

theorem turn_of_outage (reason : String) (server : Server) :
    turn handlers settings deployment (some reason) server =
      let fault := .queryFailed "BLPOP" reason
      { result := .unavailable fault, state := server,
        marks := [.logged (unavailableLine fault)] } :=
  rfl

variable (handlers) in
theorem turn_of_nil (empty : waiting settings server = []) :
    (turn handlers settings deployment none server).result = quietTurn settings server ∧
      ∀ number, (turn handlers settings deployment none server).state.get number =
        server.get number := by
  rw [waiting] at empty
  rw [turn, quietTurn, take, EventQueue.pop]
  cases listed : (server.get settings.topology.databaseNumber.toNat).list?
      settings.events.queue.key with
  | none => exact ⟨rfl, fun _ => rfl⟩
  | some texts =>
    rw [listed] at empty
    cases empty
    exact ⟨rfl, fun number => server.get_set_get _ number⟩

theorem turn_of_event (oldest : waiting settings server = text :: rest) {event : Event}
    (decoded : Event.decode? text = some event) :
    turn handlers settings deployment none server =
      let outcome := (Bus.dispatch logLine event handlers).play deployment
        (withWaiting settings rest server)
      { result := .dispatched event outcome.result, state := outcome.state,
        marks := outcome.marks } := by
  simp only [turn, take, EventQueue.pop, list?_of_waiting oldest, decoded]
  rfl

theorem turn_of_undecodable (oldest : waiting settings server = text :: rest)
    (undecodable : Event.decode? text = none) :
    turn handlers settings deployment none server =
      { result := .idle, state := withWaiting settings rest server,
        marks := [.logged EventQueue.undecodableLine] } := by
  simp only [turn, take, EventQueue.pop, list?_of_waiting oldest, undecodable]
  rfl

end Turn

variable (settings handlers) in
/-- Turns that meet outages take texts out of the queue, one after the other and each time the
oldest one.  An event goes to the handlers before the next text is looked at, and another text is
dropped.  An outage and an empty queue change nothing. -/
inductive Serves :
    List (Option String) → List String → Server → List Turn → Server → Prop where
  | nil (server : Server) : Serves [] [] server [] server
  | event {outages : List (Option String)} {text : String} {rest later : List String}
    {event : Event} {server last : Server} {reports : List Turn}
    {outcome : Outcome Server (Except Fault Unit)}
    (oldest : waiting settings server = text :: later) (decoded : Event.decode? text = some event)
    (handled : (Bus.dispatch logLine event handlers).play
      (deployment settings.store settings.topology)
        (withWaiting settings later server) = outcome)
    (served : Serves outages rest outcome.state reports last) :
    Serves (none :: outages) (text :: rest) server
      (.dispatched event outcome.result :: reports) last
  | dropped {outages : List (Option String)} {text : String} {rest later : List String}
    {server last : Server} {reports : List Turn}
    (oldest : waiting settings server = text :: later) (undecodable : Event.decode? text = none)
    (served : Serves outages rest (withWaiting settings later server) reports last) :
    Serves (none :: outages) (text :: rest) server (.idle :: reports) last
  | quiet {outages : List (Option String)} {server after last : Server} {reports : List Turn}
    (empty : waiting settings server = [])
    (kept : ∀ number, after.get number = server.get number)
    (served : Serves outages [] after reports last) :
    Serves (none :: outages) [] server (quietTurn settings server :: reports) last
  | unreachable {outages : List (Option String)} {texts : List String} {server last : Server}
    {reports : List Turn} (reason : String) (served : Serves outages texts server reports last) :
    Serves (some reason :: outages) texts server
      (.unavailable (.queryFailed "BLPOP" reason) :: reports) last

section Serves

variable {outages : List (Option String)} {texts : List String} {last : Server}
  {reports : List Turn} (serves : Serves settings handlers outages texts server reports last)
include serves

theorem Serves.length : reports.length = outages.length := by
  induction serves with
  | nil => rfl
  | event oldest decoded handled served ih => exact congrArg Nat.succ ih
  | dropped oldest undecodable served ih => exact congrArg Nat.succ ih
  | quiet empty kept served ih => exact congrArg Nat.succ ih
  | unreachable reason served ih => exact congrArg Nat.succ ih

/-- Each event is handed over once and in order, and nothing else is. -/
theorem Serves.events : reports.filterMap Turn.event? = texts.filterMap Event.decode? := by
  induction serves with
  | nil => rfl
  | event oldest decoded handled served ih =>
    simp only [List.filterMap_cons, decoded, Turn.event?, ih]
  | dropped oldest undecodable served ih =>
    simp only [List.filterMap_cons, undecodable, Turn.event?, ih]
  | quiet empty kept served ih => rw [List.filterMap_cons_none (event?_quietTurn _ _), ih]
  | unreachable reason served ih => exact ih

theorem Serves.going : ∀ report ∈ reports, report.ends = false := by
  induction serves with
  | nil => exact List.forall_mem_nil _
  | event oldest decoded handled served ih => exact List.forall_mem_cons.mpr ⟨rfl, ih⟩
  | dropped oldest undecodable served ih => exact List.forall_mem_cons.mpr ⟨rfl, ih⟩
  | quiet empty kept served ih => exact List.forall_mem_cons.mpr ⟨ends_quietTurn _ _, ih⟩
  | unreachable reason served ih => exact List.forall_mem_cons.mpr ⟨rfl, ih⟩

end Serves

/-- A turn serves the oldest text, unless it meets an outage, and the later turns serve the rest. -/
theorem Serves.of_turn {outage : Option String} {outages : List (Option String)} {last : Server}
    {reports : List Turn} :
    let first := turn handlers settings (deployment settings.store settings.topology) outage server
    Serves settings handlers outages
        ((waiting settings first.state).take (outages.count none)) first.state reports last →
      Serves settings handlers (outage :: outages)
        ((waiting settings server).take ((outage :: outages).count none)) server
        (first.result :: reports) last := by
  intro first served
  cases outage with
  | some reason =>
    rw [List.count_cons_of_ne (by nofun)]
    have unreached : first = _ := turn_of_outage _ reason server
    rw [unreached] at served ⊢
    exact .unreachable reason served
  | none =>
    rw [List.count_cons_self]
    cases before : waiting settings server with
    | nil =>
      obtain ⟨reported, kept⟩ := turn_of_nil handlers
        (deployment settings.store settings.topology) before
      rw [waiting, kept, ← waiting, before, List.take_nil] at served
      rw [List.take_nil, reported]
      exact .quiet before kept served
    | cons text rest =>
      rw [List.take_succ_cons]
      cases decoded : Event.decode? text with
      | some event =>
        have handed : first = _ := turn_of_event _ before decoded
        rw [handed, waiting_play, waiting_withWaiting] at served
        rw [handed]
        exact .event before decoded rfl served
      | none =>
        have dropped : first = _ := turn_of_undecodable _ before decoded
        rw [dropped, waiting_withWaiting] at served
        rw [dropped]
        exact .dropped before decoded served

variable (settings handlers) in
theorem turns_serve (outages : List (Option String)) (server : Server) :
    let outcome := turns handlers settings (deployment settings.store settings.topology)
      outages server
    Serves settings handlers outages ((waiting settings server).take (outages.count none)) server
      outcome.result outcome.state := by
  induction outages generalizing server with
  | nil => exact .nil server
  | cons outage outages ih =>
    rw [turns_cons]
    exact .of_turn (ih _)

theorem eq_deployment_of_connect {reach : Reach} {deployment : Deployment Server}
    (connected : connect reach settings.store settings.topology = .ok deployment) :
    deployment = KeyValue.deployment settings.store settings.topology := by
  obtain ⟨_, -, connected⟩ := exists_of_bind_eq_ok connected
  obtain ⟨_, -, connected⟩ := exists_of_bind_eq_ok connected
  exact (Except.ok.inj connected).symm

theorem run_serves {reach : Reach} {deployment : Deployment Server}
    (connected : connect reach settings.store settings.topology = .ok deployment)
    (server : Server) :
    ∃ reports, (run reach settings server).1.code = 0 ∧
      Serves settings [Reconcile.handler settings.store.naming]
        (List.replicate ((waiting settings server).length + idleTurns) none)
        (waiting settings server) server reports (run reach settings server).2 := by
  obtain rfl := eq_deployment_of_connect connected
  have serves := turns_serve settings [Reconcile.handler settings.store.naming]
    (List.replicate ((waiting settings server).length + idleTurns) none) server
  rw [List.count_replicate_self, List.take_of_length_le (Nat.le_add_right _ _)] at serves
  rw [run, connected]
  refine ⟨_, if_neg ?_, serves⟩
  rw [List.any_eq_true]
  rintro ⟨report, mem, ends⟩
  rw [serves.going report mem] at ends
  cases ends

/-- Of the bus: an event goes to the handlers in order, once to each, up to the first that fails,
whose fault is the answer; all events go this way, and the failures are counted.  Of the loop: what
keeps a text from being taken can be waited out, every turn is taken, and the turns hand over the
events that wait, once and in order, whatever the handlers do and wherever an outage comes in. -/
theorem every_event_delivered :
    (∀ (σ : Type) (report : LogLine → StateM σ Unit) (handlers : List (Handler (StateM σ))),
      (∀ event state, ∃ calls,
        Bus.dispatch (Bus.watchLines report) event (Bus.watchFrom 0 handlers) (state, []) =
            ((Bus.dispatch report event handlers state).1,
              (Bus.dispatch report event handlers state).2, calls) ∧
          Bus.Delivers event (List.range handlers.length) calls
            (Bus.dispatch report event handlers state).1) ∧
      ∀ events state, ∃ deliveries : List Bus.Delivery,
        Bus.run (Bus.watchLines report) (Bus.watchFrom 0 handlers) events (state, []) =
            ((Bus.run report handlers events state).1, (Bus.run report handlers events state).2,
              deliveries.flatMap Bus.Delivery.calls) ∧
          deliveries.map Bus.Delivery.event = events ∧
          (∀ delivery ∈ deliveries, Bus.Delivers delivery.event (List.range handlers.length)
            delivery.calls delivery.answer) ∧
          (Bus.run report handlers events state).1 = deliveries.countP Bus.Delivery.failed) ∧
    (∀ (settings : Settings) (outage : Option String) (database : Database) (fault : Fault),
      take settings outage database = .error fault → fault.isRetryable = true) ∧
    (∀ (handlers : List (Handler Procedure)) (settings : Settings)
      (outages : List (Option String)) (server : Server),
      let outcome := turns handlers settings
        (deployment settings.store settings.topology) outages server
      let texts := (waiting settings server).take (outages.count none)
      outcome.result.length = outages.length ∧
        (∀ report ∈ outcome.result, report.ends = false) ∧
        outcome.result.filterMap Turn.event? = texts.filterMap Event.decode? ∧
        Serves settings handlers outages texts server outcome.result outcome.state) ∧
    ∀ (reach : Reach) (settings : Settings) (deployment : Deployment Server) (server : Server),
      connect reach settings.store settings.topology = .ok deployment →
      ∃ reports, (run reach settings server).1.code = 0 ∧
        reports.filterMap Turn.event? = (waiting settings server).filterMap Event.decode? ∧
        Serves settings [Reconcile.handler settings.store.naming]
          (List.replicate ((waiting settings server).length + idleTurns) none)
          (waiting settings server) server reports (run reach settings server).2 := by
  refine ⟨fun σ report handlers => ⟨fun event state => ?_, fun events state => ?_⟩,
    fun settings outage database fault => isRetryable_of_take,
    fun handlers settings outages server => ?_,
    fun reach settings deployment server connected => ?_⟩
  · rw [List.range_eq_range']
    exact Bus.dispatch_watchFrom report event handlers 0 state []
  · exact Bus.run_watchFrom report handlers events state []
  · have serves := turns_serve settings handlers outages server
    exact ⟨serves.length, serves.going, serves.events, serves⟩
  · obtain ⟨reports, code, serves⟩ := run_serves connected server
    exact ⟨reports, code, serves.events, serves⟩

def counting : Handler (StateM Nat) where
  name := "counting"
  handle _ := fun count => (.ok (), count + 1)

def refusing : Handler (StateM Nat) where
  name := "refusing"
  handle _ := fun count =>
    (if count % 2 = 1 then .error (.queryFailed "handle" "odd") else .ok (), count)

def garbledServer : Server :=
  withWaiting {} [(Sample.associateNetwork .precommit "v1" "n1").encode, "not json",
    (Sample.dissociateNetwork .postcommit "v1" "n1").encode] {}

def misusedDatabase : Database := FiniteMap.insert .empty "BGPVPN_EVENTS" (.hash .empty)

theorem every_event_delivered_garbledServer :
    let create := Sample.associateNetwork .precommit "v1" "n1"
    let delete := Sample.dissociateNetwork .postcommit "v1" "n1"
    (∃ deliveries : List Bus.Delivery, deliveries.map Bus.Delivery.event = [create, delete] ∧
      deliveries.countP Bus.Delivery.failed = 1) ∧
    (∃ fault, take {} none misusedDatabase = .error fault ∧ fault.isRetryable = true) ∧
    (∀ handlers : List (Handler Procedure),
      let reports := (turns handlers {} (deployment {} {}) [none, some "timed out", none, none]
        garbledServer).result
      reports.length = 4 ∧ reports.filterMap Turn.event? = [create, delete]) ∧
    ∃ reports : List Turn, (run (fun _ _ => true) {} garbledServer).1.code = 0 ∧
      reports.filterMap Turn.event? = [create, delete] ∧
      Serves {} [Reconcile.handler {}] (List.replicate 5 none)
        [create.encode, "not json", delete.encode] garbledServer reports
        (run (fun _ _ => true) {} garbledServer).2 := by
  intro create delete
  obtain ⟨bus, retryable, loop, daemon⟩ := every_event_delivered
  have texts : waiting {} garbledServer = [create.encode, "not json", delete.encode] :=
    waiting_withWaiting {} _ _
  have garbage : Event.decode? "not json" = none := by decide +kernel
  have decoded : [create.encode, "not json", delete.encode].filterMap Event.decode? =
      [create, delete] := by
    simp [Event.decode?_encode, garbage]
  refine ⟨?_, ?_, ?_, ?_⟩
  · obtain ⟨deliveries, -, same, -, count⟩ :=
      (bus Nat (fun _ => pure ()) [counting, refusing]).2 [create, delete] 0
    have one : (Bus.run (fun _ => pure ()) [counting, refusing] [create, delete] 0).1 = 1 := by
      decide +kernel
    exact ⟨deliveries, same, count.symm.trans one⟩
  · have refused : take {} none misusedDatabase = .error (.queryFailed "BLPOP" refusal) := by
      decide +kernel
    exact ⟨_, refused, retryable {} none _ _ refused⟩
  · intro handlers
    obtain ⟨length, -, events, -⟩ := loop handlers {} [none, some "timed out", none, none]
      garbledServer
    rw [texts] at events
    exact ⟨length, events.trans decoded⟩
  · have connected : connect (fun _ _ => true) {} {} = .ok (deployment {} {}) := rfl
    obtain ⟨reports, code, events, serves⟩ :=
      daemon (fun _ _ => true) {} _ garbledServer connected
    rw [texts] at events serves
    exact ⟨reports, code, events.trans decoded, serves⟩

end EvpnMetadata.Daemon
