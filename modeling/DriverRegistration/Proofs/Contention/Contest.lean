import DriverRegistration.Proofs.Reconcile.Turn

/-!
# Edits that compete for a store

Any number of edits are on their way against one store in memory.  Their steps come in any order,
and between them others create nodes and queue writes and failures (`Contest.Move`).  What was asked
of the store is kept with the place of the client that asked it.
-/

namespace DriverRegistration

open EditTask (Phase Call Turn)

/-- An edit on its way. -/
structure Client where
  task : EditTask
  phase : Phase := EditTask.start

/-- Edits that compete for a store in memory. -/
structure Contest where
  store : MemoryStore
  clients : List Client
  /-- What was asked of the store, and by which client. -/
  calls : List (Nat × Call)

namespace Contest

/-- The edits before their first steps. -/
def ofTasks (tasks : List EditTask) (store : MemoryStore) : Contest :=
  ⟨store, tasks.map ({ task := · }), []⟩

/-- Two drivers that are recorded on one node, as two starting registrars do. -/
def twoRecordings : List EditTask :=
  [{ node := "n", edit := .upsert "a" "1" }, { node := "n", edit := .upsert "b" "2" }]

/-- Let what is due for a client take effect. -/
def turn (c : Contest) (i : Nat) : Contest :=
  match c.clients[i]? with
  | none => c
  | some client =>
    let (p, store) := client.task.advance MemoryStore.store client.phase c.store
    { store
      clients := c.clients.set i { client with phase := p.phase }
      calls := c.calls ++ p.calls.map (i, ·) }

/-- A step of a contest: a step of a client or one of the rest of the world. -/
inductive Move where
  | turn (client : Nat)
  | insertNode (name : String) (annotations : Option (TextMap String))
  | interleave (write : ForeignWrite)
  | injectConflicts (count : Nat)
  | failNext (error : StoreError)

/-- Make a move. -/
def step (c : Contest) : Move → Contest
  | .turn i => c.turn i
  | .insertNode name annotations => { c with store := c.store.insertNode name annotations }
  | .interleave write => { c with store := c.store.interleave write }
  | .injectConflicts count => { c with store := c.store.injectConflicts count }
  | .failNext error => { c with store := c.store.failNext error }

/-- Make moves one after another. -/
def run (c : Contest) (moves : List Move) : Contest := moves.foldl step c

/-- The writes of a client that the store has accepted. -/
def writes (c : Contest) (i : Nat) : Nat :=
  c.calls.countP fun call => call.1 = i ∧ call.2.accepted

/-! ## One move -/

/-- A turn of a client is a step of its edit, and no other client notices. -/
theorem turn_cases (c : Contest) (i : Nat) :
    c.clients[i]? = none ∧ c.turn i = c ∨
      ∃ t phase phase' calls s', c.clients[i]? = some ⟨t, phase⟩ ∧
        Turn t c.store phase phase' calls s' ∧
        c.turn i = ⟨s', c.clients.set i ⟨t, phase'⟩, c.calls ++ calls.map (i, ·)⟩ := by
  unfold turn
  cases hi : c.clients[i]? with
  | none => exact Or.inl ⟨rfl, rfl⟩
  | some client =>
    obtain ⟨t, phase⟩ := client
    exact Or.inr ⟨t, phase, _, _, _, rfl, EditTask.turn_advance t phase c.store, rfl⟩

theorem grows_step (c : Contest) (move : Move) : c.store.Grows (c.step move).store := by
  cases move with
  | turn i =>
    show c.store.Grows (c.turn i).store
    rcases c.turn_cases i with ⟨-, hc⟩ | ⟨t, phase, phase', calls, s', -, h, hc⟩
    · rw [hc]
      exact .refl c.store
    · rw [hc]
      exact h.grows
  | insertNode name annotations => exact MemoryStore.grows_insertNode name annotations c.store
  | interleave | injectConflicts | failNext => exact .of_nodes_eq rfl

theorem synced_step {c : Contest} (hs : c.store.Synced) (move : Move) :
    (c.step move).store.Synced := by
  cases move with
  | turn i =>
    show (c.turn i).store.Synced
    rcases c.turn_cases i with ⟨-, hc⟩ | ⟨t, phase, phase', calls, s', -, h, hc⟩
    · rw [hc]
      exact hs
    · rw [hc]
      exact h.synced hs
  | insertNode name annotations => exact hs.insertNode name annotations
  | interleave | injectConflicts | failNext => exact hs.of_nodes_eq rfl

/-- What holds at first and is kept by every move holds after any moves. -/
theorem run_induction {P : Contest → Prop} {c : Contest} (moves : List Move) (hc : P c)
    (hstep : ∀ c, ∀ move ∈ moves, P c → P (c.step move)) : P (c.run moves) := by
  induction moves generalizing c with
  | nil => exact hc
  | cons move moves ih =>
    refine ih (hstep c move List.mem_cons_self hc) fun c' move' hmem => ?_
    exact hstep c' move' (List.mem_cons_of_mem _ hmem)

/-! ## Clients -/

variable {c : Contest} {i j : Nat} {t : EditTask} {phase phase' : Phase} {client : Client}

theorem getElem?_set_of_some (hi : c.clients[i]? = some client) (client' : Client) (j : Nat) :
    (c.clients.set i client')[j]? = if j = i then some client' else c.clients[j]? := by
  have hlt : i < c.clients.length := (List.getElem?_eq_some_iff.1 hi).1
  by_cases h : j = i
  · rw [if_pos h, h, List.getElem?_set_self hlt]
  · rw [if_neg h, List.getElem?_set_ne (Ne.symm h)]

/-- A client keeps its task. -/
theorem tasks_turn (c : Contest) (i : Nat) :
    (c.turn i).clients.map Client.task = c.clients.map Client.task := by
  rcases c.turn_cases i with ⟨-, hc⟩ | ⟨t, phase, phase', calls, s', hi, -, hc⟩
  · rw [hc]
  · rw [hc]
    refine List.ext_getElem? fun j => ?_
    simp only [List.getElem?_map, getElem?_set_of_some hi]
    split
    · next h =>
      rw [h, hi]
      rfl
    · rfl

theorem tasks_run (tasks : List EditTask) (store : MemoryStore) (moves : List Move) :
    ((ofTasks tasks store).run moves).clients.map Client.task = tasks := by
  refine run_induction (P := fun c => c.clients.map Client.task = tasks) moves ?_ ?_
  · simp [ofTasks, Function.comp_def]
  · intro c move _ hc
    cases move with
    | turn i => exact (tasks_turn c i).trans hc
    | insertNode | interleave | injectConflicts | failNext => exact hc

end Contest

end DriverRegistration
