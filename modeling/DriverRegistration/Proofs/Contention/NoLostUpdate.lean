import DriverRegistration.Proofs.Contention.Contest

/-!
# No update is lost

A client may write long after it has read, and others may have written in between.  The write is
accepted only in the state that was read, so that what a client overwrites is what it has seen.

The invariant is `Contest.Sound`: every record that waits to be written was proposed from a state of
the node that the present one has grown from, and the writes that the store has accepted from a
client are those that it knows of.
-/

namespace DriverRegistration.Contest

open EditTask (Phase Call Turn BasedOn Makes)

/-- The turn of a client is a write that the store accepts. -/
def Commits (c : Contest) (i : Nat) : Prop :=
  ∃ r r', (c.turn i).calls = c.calls ++ [(i, .update r (.ok r'))]

/-! ## The invariant -/

/-- Records that wait to be written are based on what their nodes were, and every client knows of
its write. -/
structure Sound (c : Contest) : Prop where
  store : c.store.Synced
  based : ∀ (i : Nat) (t : EditTask) (attempt : Nat) (r : NodeRecord),
    c.clients[i]? = some ⟨t, .writing attempt r⟩ → ∃ n₀, t.BasedOn c.store r n₀
  written : ∀ (i : Nat) (client : Client), c.clients[i]? = some client →
    c.writes i = client.phase.updated.toNat

theorem sound_ofTasks (tasks : List EditTask) {store : MemoryStore} (hs : store.Synced) :
    (ofTasks tasks store).Sound := by
  have hstart : ∀ (i : Nat) (client : Client), (ofTasks tasks store).clients[i]? = some client →
      client.phase = EditTask.start := by
    intro i client hi
    simp only [ofTasks, List.getElem?_map, Option.map_eq_some_iff] at hi
    obtain ⟨t, -, rfl⟩ := hi
    rfl
  refine ⟨hs, ?_, ?_⟩
  · intro i t attempt r hi
    have hphase := hstart i _ hi
    cases hphase
  · intro i client hi
    rw [hstart i client hi]
    rfl

variable {c : Contest}

/-- The calls of a turn count for the client whose turn it is. -/
theorem countP_map_accepted (i j : Nat) (calls : List Call) :
    (calls.map (i, ·)).countP (fun call => call.1 = j ∧ call.2.accepted) =
      if j = i then calls.countP Call.accepted else 0 := by
  rw [List.countP_map]
  by_cases h : j = i
  · rw [if_pos h]
    exact List.countP_congr fun call _ => by simp [h]
  · rw [if_neg h]
    exact List.countP_eq_zero.2 fun call _ => by simp [Ne.symm h]

theorem Sound.turn (h : c.Sound) (i : Nat) : (c.turn i).Sound := by
  rcases c.turn_cases i with ⟨-, hc⟩ | ⟨t, phase, phase', calls, s', hi, hturn, hc⟩
  · rw [hc]
    exact h
  · rw [hc]
    refine ⟨hturn.synced h.store, ?_, ?_⟩
    · intro j t' attempt r hj
      rw [getElem?_set_of_some hi] at hj
      split at hj
      · cases hj
        exact BasedOn.of_turn h.store hturn
      · obtain ⟨n₀, hb⟩ := h.based j t' attempt r hj
        exact ⟨n₀, hb.grows hturn.grows⟩
    · intro j client hj
      have hsum := hturn.countP_accepted
      rw [getElem?_set_of_some hi] at hj
      rw [writes, List.countP_append, countP_map_accepted]
      split at hj
      · next hji =>
        cases hj
        rw [if_pos hji, ← hsum, ← h.written i _ hi, hji]
        rfl
      · next hji =>
        rw [if_neg hji, ← h.written j client hj]
        rfl

theorem Sound.step (h : c.Sound) (move : Move) : (c.step move).Sound := by
  have hgrows := grows_step c move
  have hsynced := synced_step h.store move
  cases move with
  | turn i => exact h.turn i
  | insertNode | interleave | injectConflicts | failNext =>
    refine ⟨hsynced, fun j t attempt r hj => ?_, h.written⟩
    obtain ⟨n₀, hb⟩ := h.based j t attempt r hj
    exact ⟨n₀, hb.grows hgrows⟩

theorem sound_run (tasks : List EditTask) {store : MemoryStore} (hs : store.Synced)
    (moves : List Move) : ((ofTasks tasks store).run moves).Sound :=
  run_induction moves (sound_ofTasks tasks hs) fun _ move _ h => h.step move

/-! ## What a turn does to the nodes -/

/-- A write that the store accepts makes the edit of its client. -/
theorem Sound.makes {i : Nat} (h : c.Sound) (hkeys : ∀ client ∈ c.clients, client.task.key ≠ "")
    (hcommits : c.Commits i) :
    ∃ client n m, c.clients[i]? = some client ∧
      client.task.Makes n m c.store (c.turn i).store := by
  obtain ⟨r, r', hcalls⟩ := hcommits
  rcases c.turn_cases i with ⟨-, hc⟩ | ⟨t, phase, phase', calls, s', hi, hturn, hc⟩
  · rw [hc] at hcalls
    simp at hcalls
  · rw [hc] at hcalls ⊢
    obtain ⟨call, hcall, hpair⟩ := List.map_eq_singleton_iff.1 (List.append_cancel_left hcalls)
    cases hpair
    subst hcall
    cases hturn with
    | @written attempt _ _ _ hu =>
      obtain ⟨n₀, hb⟩ := h.based i t attempt r hi
      obtain ⟨m, hm⟩ := hb.makes (hkeys _ (List.mem_of_getElem? hi)) h.store hu
      exact ⟨_, n₀, m, hi, hm⟩

/-- Any other turn leaves the nodes alone, except that a queued write of another may land before a
write that is refused. -/
theorem nodes_turn_of_not_commits {i : Nat} (hcommits : ¬ c.Commits i) :
    (c.turn i).store.nodes = c.store.nodes ∨
      ∃ t attempt r, c.clients[i]? = some ⟨t, .writing attempt r⟩ ∧
        (c.turn i).store.nodes = (c.store.landForeign r.name).nodes := by
  rcases c.turn_cases i with ⟨-, hc⟩ | ⟨t, phase, phase', calls, s', hi, hturn, hc⟩
  · exact Or.inl (by rw [hc])
  · cases hturn with
    | missing | corrupt | reflected | proposed | resumed | ended | stuck =>
      rw [hc]
      exact Or.inl rfl
    | @written _ r r' _ hu =>
      exact absurd ⟨r, r', by rw [hc]; rfl⟩ hcommits
    | @refused attempt r _ _ _ hu _ =>
      rw [hc]
      cases hu with
      | failed => exact Or.inl rfl
      | missing | stale =>
        exact Or.inr ⟨t, attempt, r, hi, MemoryStore.nodes_landForeign_counted c.store r.name⟩

/-! ## The theorem -/

/-- No update is lost, whatever the order of the steps: a write that the store accepts finds a map
that the edit changes and makes the edit in it, with nothing else changed; the other steps of a
client change no node, but for a write of another that was due to land; and a client has written
once if it ended with a write, and else never. -/
theorem no_lost_update {tasks : List EditTask} (hkeys : ∀ t ∈ tasks, t.key ≠ "")
    {store : MemoryStore} (hs : store.Synced) (moves : List Move) {c : Contest}
    (hc : (ofTasks tasks store).run moves = c) (i : Nat) :
    (c.Commits i → ∃ t n m, tasks[i]? = some t ∧ t.Makes n m c.store (c.turn i).store) ∧
      (¬ c.Commits i → (c.turn i).store.nodes = c.store.nodes ∨
        ∃ t attempt r, c.clients[i]? = some ⟨t, .writing attempt r⟩ ∧
          (c.turn i).store.nodes = (c.store.landForeign t.node).nodes) ∧
      ∀ client, c.clients[i]? = some client →
        ((∃ n, client.phase.result? = some (.ok (.updated n))) → c.writes i = 1) ∧
          ((¬ ∃ n, client.phase.result? = some (.ok (.updated n))) → c.writes i = 0) := by
  have hsound : c.Sound := hc ▸ sound_run tasks hs moves
  have htasks : c.clients.map Client.task = tasks := hc ▸ tasks_run tasks store moves
  refine ⟨?_, ?_, ?_⟩
  · intro hcommits
    have hkeys' : ∀ client ∈ c.clients, client.task.key ≠ "" := by
      intro client hmem
      exact hkeys _ (htasks ▸ List.mem_map_of_mem hmem)
    obtain ⟨client, n, m, hi, hm⟩ := hsound.makes hkeys' hcommits
    refine ⟨client.task, n, m, ?_, hm⟩
    rw [← htasks, List.getElem?_map, hi]
    rfl
  · intro hcommits
    refine (nodes_turn_of_not_commits hcommits).imp_right ?_
    rintro ⟨t, attempt, r, hi, hnodes⟩
    obtain ⟨n₀, hb⟩ := hsound.based i t attempt r hi
    exact ⟨t, attempt, r, hi, hb.name_eq ▸ hnodes⟩
  · intro client hi
    rw [hsound.written i client hi, ← EditTask.Phase.updated_iff]
    cases client.phase.updated with
    | true => exact ⟨fun _ => rfl, fun h => absurd rfl h⟩
    | false => exact ⟨(fun h => nomatch h), fun _ => rfl⟩

/-- Two drivers are recorded on one node.  Both have read it, and the first write is accepted. -/
theorem no_lost_update_of_two_reads :
    (∀ t ∈ twoRecordings, t.key ≠ "") ∧
      ∃ t n m, twoRecordings[0]? = some t ∧
        t.Makes n m
          ((ofTasks twoRecordings (MemoryStore.empty.insertNode "n" none)).run
            [.turn 0, .turn 1]).store
          (((ofTasks twoRecordings (MemoryStore.empty.insertNode "n" none)).run
            [.turn 0, .turn 1]).turn 0).store := by
  have hkeys : ∀ t ∈ twoRecordings, t.key ≠ "" := by decide
  refine ⟨hkeys, ?_⟩
  have hs : (MemoryStore.empty.insertNode "n" none).Synced :=
    MemoryStore.synced_empty.insertNode "n" none
  have hturn := no_lost_update hkeys hs [.turn 0, .turn 1] rfl 0
  exact hturn.1 ⟨_, _, rfl⟩

end DriverRegistration.Contest
