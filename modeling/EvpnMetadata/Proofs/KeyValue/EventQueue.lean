import EvpnMetadata.KeyValue.EventQueue
import EvpnMetadata.Proofs.FiniteMap
import EvpnMetadata.Proofs.Lifecycle.Wire
import EvpnMetadata.Sample

/-! # Event queues deliver in order

A list of a database serves as a queue: texts leave it in the order in which they came, each one
once.  A text that does not decode costs one warning and nothing else.
-/

namespace EvpnMetadata.KeyValue

open Lifecycle

namespace Database

theorem list?_putList (database : Database) (key : String) (items : List String) :
    (database.putList key items).list? key = some items := by
  rw [putList, list?]
  cases items with
  | nil => simp
  | cons item rest => simp

theorem get?_putList_ne (database : Database) {key other : String} (ne : other ≠ key)
    (items : List String) : (database.putList key items).get? other = database.get? other := by
  rw [putList]
  split <;> simp [ne]

end Database

namespace EventQueue

abbrev Sight := Option Event × List LogLine

def Popped.sight (popped : Popped) : Sight := (popped.event?, popped.lines)

def nothingSeen : Sight := (none, [])

def sightOf (text : String) : Sight :=
  match Event.decode? text with
  | some event => (some event, [])
  | none => (none, [undecodableLine])

inductive Use where
  | push (event : Event)
  | pop

def run (queue : EventQueue) : List Use → Database → Except Fault (List Popped × Database)
  | [], database => .ok ([], database)
  | .push event :: rest, database => do
    run queue rest (← queue.push database event)
  | .pop :: rest, database => do
    let (popped, database) ← queue.pop database
    let (others, database) ← run queue rest database
    return (popped :: others, database)

/-- Pushes and pops on a plain list of texts, the oldest first. -/
def serve : List Use → List String → List Sight × List String
  | [], waiting => ([], waiting)
  | .push event :: rest, waiting => serve rest (waiting ++ [event.encode])
  | .pop :: rest, [] =>
    let (sights, left) := serve rest []
    (nothingSeen :: sights, left)
  | .pop :: rest, text :: waiting =>
    let (sights, left) := serve rest waiting
    (sightOf text :: sights, left)

variable (queue : EventQueue) {database : Database} {waiting : List String}

theorem pop_cons {text : String} (there : database.list? queue.key = some (text :: waiting)) :
    ∃ popped, queue.pop database = .ok (popped, database.putList queue.key waiting) ∧
      popped.sight = sightOf text := by
  simp only [pop, there, sightOf]
  cases Event.decode? text with
  | some event => exact ⟨_, rfl, rfl⟩
  | none => exact ⟨_, rfl, rfl⟩

variable {queue} in
/-- The only fault of a queue is a key of another kind, which may be gone later. -/
theorem isRetryable_of_pop {fault : Fault} (refused : queue.pop database = .error fault) :
    fault.isRetryable = true := by
  rw [pop] at refused
  split at refused <;> cases refused
  rfl

/-- A database behaves as the plain list at the key of the queue, and its other keys are left
alone. -/
theorem run_eq_serve (there : database.list? queue.key = some waiting) (uses : List Use) :
    ∃ popped left, queue.run uses database = .ok (popped, left) ∧
      popped.map Popped.sight = (serve uses waiting).1 ∧
      left.list? queue.key = some (serve uses waiting).2 ∧
      ∀ other, other ≠ queue.key → left.get? other = database.get? other := by
  induction uses generalizing database waiting with
  | nil => exact ⟨[], database, rfl, rfl, there, fun _ _ => rfl⟩
  | cons use rest ih =>
    cases use with
    | push event =>
      have pushed : queue.push database event =
          .ok (database.putList queue.key (waiting ++ [event.encode])) := by
        simp only [push, there]
      obtain ⟨popped, left, ran, seen, list, others⟩ := ih (database.list?_putList queue.key _)
      refine ⟨popped, left, ?_, seen, list, fun other ne => ?_⟩
      · rw [run, pushed]
        exact ran
      · rw [others other ne, database.get?_putList_ne ne]
    | pop =>
      cases waiting with
      | nil =>
        have nothing : queue.pop database = .ok (.nothing, database) := by
          simp only [pop, there]
        obtain ⟨popped, left, ran, seen, list, others⟩ := ih there
        refine ⟨.nothing :: popped, left, ?_, ?_, list, others⟩
        · rw [run, nothing]
          change (queue.run rest database).bind _ = _
          rw [ran]
          rfl
        · rw [List.map_cons, seen]
          rfl
      | cons text waiting =>
        obtain ⟨first, taken, sight⟩ := queue.pop_cons there
        obtain ⟨popped, left, ran, seen, list, others⟩ := ih (database.list?_putList queue.key _)
        refine ⟨first :: popped, left, ?_, ?_, list, fun other ne => ?_⟩
        · rw [run, taken]
          change (queue.run rest (database.putList queue.key waiting)).bind _ = _
          rw [ran]
          rfl
        · rw [List.map_cons, seen, sight]
          rfl
        · rw [others other ne, database.get?_putList_ne ne]

def pushed : List Use → List Event
  | [] => []
  | .push event :: rest => event :: pushed rest
  | .pop :: rest => pushed rest

theorem sightOf_encode (event : Event) : sightOf event.encode = (some event, []) := by
  rw [sightOf, event.decode?_encode]

theorem sightOf_ne (text : String) : sightOf text ≠ nothingSeen := by
  rw [sightOf, nothingSeen]
  split <;> simp

theorem serve_conserves (uses : List Use) (waiting : List String) :
    (serve uses waiting).1.filter (· ≠ nothingSeen) ++ (serve uses waiting).2.map sightOf =
      waiting.map sightOf ++ (pushed uses).map fun event => (some event, []) := by
  induction uses generalizing waiting with
  | nil => simp [serve, pushed]
  | cons use rest ih =>
    cases use with
    | push event =>
      rw [serve, ih, pushed]
      simp [sightOf_encode]
    | pop =>
      cases waiting with
      | nil => simpa [serve, pushed] using ih []
      | cons text waiting =>
        have tail := ih waiting
        simp only [serve, pushed, List.map_cons, List.cons_append]
        rw [List.filter_cons_of_pos (by simpa using sightOf_ne text), List.cons_append, tail]

/-- However pushes and pops alternate: what was seen, and then what still waits, is what waited at
first, and then what was pushed. -/
theorem run_conserves (there : database.list? queue.key = some waiting) (uses : List Use) :
    ∃ popped left remaining, queue.run uses database = .ok (popped, left) ∧
      left.list? queue.key = some remaining ∧
      (popped.map Popped.sight).filter (· ≠ nothingSeen) ++ remaining.map sightOf =
        waiting.map sightOf ++ (pushed uses).map fun event => (some event, []) := by
  obtain ⟨popped, left, ran, seen, list, -⟩ := queue.run_eq_serve there uses
  exact ⟨popped, left, _, ran, list, seen ▸ serve_conserves uses waiting⟩

theorem serve_pushes (events : List Event) (rest : List Use) (waiting : List String) :
    serve (events.map .push ++ rest) waiting = serve rest (waiting ++ events.map Event.encode) := by
  induction events generalizing waiting with
  | nil => simp
  | cons event others ih =>
    rw [List.map_cons, List.cons_append, serve, ih]
    simp

theorem serve_pops (n : Nat) (waiting : List String) :
    serve (List.replicate n .pop) waiting =
      ((waiting.map sightOf ++ List.replicate n nothingSeen).take n, waiting.drop n) := by
  induction n generalizing waiting with
  | zero => simp [serve]
  | succ n ih =>
    cases waiting with
    | nil => simp [List.replicate_succ, serve, ih]
    | cons text waiting =>
      -- One nothing more than the pops that are left cannot be seen.
      have enough : n ≤ (waiting.map sightOf ++ List.replicate n nothingSeen).length := by simp
      rw [List.replicate_succ, serve, ih, List.replicate_succ', List.map_cons, List.cons_append,
        List.take_succ_cons, ← List.append_assoc, List.take_append_of_le_length enough,
        List.drop_succ_cons]

/-- Every event is decoded as it was encoded.  So after events are pushed behind what waits in a
queue, successive pops bring what waits, with a warning for each text that does not decode, and then
the events, each one once and in the order of the pushes. -/
theorem pops_in_order :
    (∀ event : Event, Event.decode? event.encode = some event) ∧
    ∀ (queue : EventQueue) (database : Database) (waiting : List String),
      database.list? queue.key = some waiting → ∀ (events : List Event) (n : Nat),
        ∃ popped left,
          queue.run (events.map .push ++ List.replicate n .pop) database = .ok (popped, left) ∧
          popped.map Popped.sight = (waiting.map sightOf ++
            events.map (fun event => (some event, [])) ++ List.replicate n nothingSeen).take n ∧
          left.list? queue.key = some ((waiting ++ events.map Event.encode).drop n) ∧
          ∀ other, other ≠ queue.key → left.get? other = database.get? other := by
  refine ⟨Event.decode?_encode, fun queue database waiting there events n => ?_⟩
  have ran := queue.run_eq_serve there (events.map .push ++ List.replicate n .pop)
  rw [serve_pushes, serve_pops] at ran
  simpa [Function.comp_def, sightOf_encode] using ran

/-- A queue behind another key, with a text that does not decode between two events. -/
theorem pops_in_order_garbage :
    let create := Sample.associateNetwork .precommit "v1" "n1"
    let delete := Sample.dissociateNetwork .postcommit "v1" "n1"
    let database := Database.putList .empty "BGPVPN_EVENTS" [create.encode, "not json"]
    ∃ popped left,
      run {} [.push delete, .pop, .pop, .pop, .pop] database = .ok (popped, left) ∧
      popped.map Popped.sight =
        [(some create, []), (none, [undecodableLine]), (some delete, []), (none, [])] := by
  intro create delete database
  have garbage : sightOf "not json" = (none, [undecodableLine]) := by decide +kernel
  obtain ⟨-, order⟩ := pops_in_order
  obtain ⟨popped, left, ran, seen, -⟩ := order {} database [create.encode, "not json"]
    (Database.list?_putList .empty _ _) [delete] 4
  refine ⟨popped, left, ran, ?_⟩
  rw [seen]
  simp [sightOf_encode, garbage, nothingSeen, List.replicate_succ]

end EventQueue

end EvpnMetadata.KeyValue
