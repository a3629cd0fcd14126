import DriverRegistration.Proofs.DriverMap.Codec
import DriverRegistration.Proofs.Node.Versions
import DriverRegistration.Proofs.Reconcile.Proposal

/-!
# One step of an edit in memory

`EditTask.Turn` lists what a step of an edit does with a store in memory: one case for each end of a
read, of a write and of a pause.  Every statement about steps is read off these cases.

A record that waits to be written was proposed from some state of the node (`EditTask.BasedOn`).
The node has only moved on since, so the write is accepted exactly if the node is still in that
state, and then it makes the edit in the node (`EditTask.Makes`).
-/

namespace DriverRegistration

/-- The store after a read. -/
def MemoryStore.asked (s : MemoryStore) : MemoryStore := { s with gets := s.gets + 1 }

theorem MemoryStore.get_eq (name : String) (s : MemoryStore) :
    get name s =
      (((s.nodes.get? name).map StoredNode.record).elim (.error (.notFound name)) .ok,
        s.asked) := by
  unfold get record?
  dsimp only
  cases s.nodes.get? name with
  | none => rfl
  | some n => rfl

namespace EditTask

open MemoryStore

/-- Whether an edit has ended with a write. -/
def Phase.updated : Phase → Bool
  | finished (.ok (.updated _)) => true
  | _ => false

theorem Phase.updated_iff {phase : Phase} :
    phase.updated = true ↔ ∃ n, phase.result? = some (.ok (.updated n)) := by
  match phase with
  | .reading _ | .writing .. | .pausing _ | .stuck => simp [updated, result?]
  | .finished (.error _) | .finished (.ok .unchanged) => simp [updated, result?]
  | .finished (.ok (.updated n)) => simp [updated, result?]

/-- Whether a question was a write that the store accepted. -/
def Call.accepted : Call → Bool
  | update _ (.ok _) => true
  | _ => false

/-! ## The ends of a step -/

/-- A step of an edit: the phase it is due in, the phase it leads to, the questions it puts to the
store and the store that it leaves. -/
inductive Turn (t : EditTask) (s : MemoryStore) :
    Phase → Phase → List Call → MemoryStore → Prop
  | missing {attempt : Nat} (hn : s.nodes.get? t.node = none) :
      Turn t s (.reading attempt) (.finished (.error (.fetch t.node (.notFound t.node))))
        [.get t.node (.error (.notFound t.node))] s.asked
  | corrupt {attempt : Nat} {n : StoredNode} {e : CorruptMap} (hn : s.nodes.get? t.node = some n)
      (hp : t.proposal n.record = .error e) :
      Turn t s (.reading attempt) (.finished (.error (.corrupt t.node t.key e)))
        [.get t.node (.ok n.record)] s.asked
  | reflected {attempt : Nat} {n : StoredNode} (hn : s.nodes.get? t.node = some n)
      (hp : t.proposal n.record = .ok none) :
      Turn t s (.reading attempt) (.finished (.ok .unchanged))
        [.get t.node (.ok n.record)] s.asked
  | proposed {attempt : Nat} {n : StoredNode} {r : NodeRecord}
      (hn : s.nodes.get? t.node = some n) (hp : t.proposal n.record = .ok (some r)) :
      Turn t s (.reading attempt) (.writing attempt r) [.get t.node (.ok n.record)] s.asked
  | written {attempt : Nat} {r r' : NodeRecord} {s' : MemoryStore}
      (hu : Updates r s (.ok r') s') :
      Turn t s (.writing attempt r) (.finished (.ok (.updated attempt))) [.update r (.ok r')] s'
  | refused {attempt : Nat} {r : NodeRecord} {e : StoreError} {s' : MemoryStore} {phase : Phase}
      (hu : Updates r s (.error e) s') (hp : (t.afterWrite attempt (.error e)).1 = phase) :
      Turn t s (.writing attempt r) phase [.update r (.error e)] s'
  | resumed {attempt : Nat} : Turn t s (.pausing attempt) (.reading (attempt + 1)) [] s
  | ended {result : EditResult} : Turn t s (.finished result) (.finished result) [] s
  | stuck : Turn t s .stuck .stuck [] s

theorem turn_advance (t : EditTask) (phase : Phase) (s : MemoryStore) :
    Turn t s phase (t.advance store phase s).1.phase (t.advance store phase s).1.calls
      (t.advance store phase s).2 := by
  cases phase with
  | reading attempt =>
    simp only [advance, store, MemoryStore.get_eq]
    cases hn : s.nodes.get? t.node with
    | none => exact .missing hn
    | some n =>
      simp only [Option.map_some, Option.elim_some, afterRead]
      split
      · next e hp => exact .corrupt hn hp
      · next hp => exact .reflected hn hp
      · next r hp => exact .proposed hn hp
  | writing attempt r =>
    have hu := updates_update r s
    simp only [advance, store]
    generalize hanswer : (update r s).1 = answer at hu ⊢
    cases answer with
    | ok r' => exact .written hu
    | error e => exact .refused hu rfl
  | pausing attempt => exact .resumed
  | finished result => exact .ended
  | stuck => exact .stuck

/-- An attempt whose write was refused is followed by a pause, if there is one to take and the
budget allows another attempt after a conflict; else the edit fails. -/
theorem afterWrite_error (t : EditTask) (attempt : Nat) (e : StoreError) :
    (t.afterWrite attempt (.error e)).1 = .pausing attempt ∧ attempt < t.retry.budget ∨
      (t.afterWrite attempt (.error e)).1 = .stuck ∨
      ∃ failure, (t.afterWrite attempt (.error e)).1 = .finished (.error failure) ∧
        (e.isConflict = true → t.retry.budget ≤ attempt) := by
  unfold afterWrite afterConflict
  dsimp only
  split
  · split
    · next hb => exact Or.inr (Or.inr ⟨_, rfl, fun _ => hb⟩)
    · next hb =>
      split
      · exact Or.inr (Or.inl rfl)
      · exact Or.inl ⟨rfl, Nat.lt_of_not_le hb⟩
  · next hc => exact Or.inr (Or.inr ⟨_, rfl, fun h => absurd h hc⟩)

theorem Turn.grows {t : EditTask} {s s' : MemoryStore} {phase phase' : Phase} {calls : List Call}
    (h : Turn t s phase phase' calls s') : s.Grows s' := by
  cases h with
  | missing | corrupt | reflected | proposed => exact .of_nodes_eq rfl
  | written hu | refused hu _ => exact hu.grows
  | resumed | ended | stuck => exact .refl s

theorem Turn.synced {t : EditTask} {s s' : MemoryStore} {phase phase' : Phase} {calls : List Call}
    (hs : s.Synced) (h : Turn t s phase phase' calls s') : s'.Synced := by
  cases h with
  | missing | corrupt | reflected | proposed => exact hs.of_nodes_eq rfl
  | written hu | refused hu _ => exact hs.updates hu
  | resumed | ended | stuck => exact hs

/-- An edit ends with a write exactly when the store accepts one. -/
theorem Turn.countP_accepted {t : EditTask} {s s' : MemoryStore} {phase phase' : Phase}
    {calls : List Call} (h : Turn t s phase phase' calls s') :
    phase.updated.toNat + calls.countP Call.accepted = phase'.updated.toNat := by
  cases h with
  | missing | corrupt | reflected | proposed | written | resumed | stuck => rfl
  | ended => exact Nat.add_zero _
  | @refused attempt _ e _ _ hu hp =>
    rcases afterWrite_error t attempt e with ⟨hphase, -⟩ | hphase | ⟨failure, hphase, -⟩
    all_goals
      rw [← hp, hphase]
      rfl

/-! ## Records that wait to be written -/

variable {t : EditTask} {s s' : MemoryStore} {r r' : NodeRecord} {n₀ : StoredNode}

theorem name_of_proposal {n : StoredNode} (hn : n.Synced t.node)
    (hp : t.proposal n.record = .ok (some r)) : r.name = t.node := by
  obtain ⟨m, -, -, rfl⟩ := proposal_eq_some_iff.1 hp
  exact hn.name_eq

theorem version_of_proposal {n : StoredNode} (hp : t.proposal n.record = .ok (some r)) :
    r.version = n.record.version := by
  obtain ⟨m, -, -, rfl⟩ := proposal_eq_some_iff.1 hp
  rfl

/-- The record was proposed from a state of the node after which its present one may come. -/
structure BasedOn (t : EditTask) (s : MemoryStore) (r : NodeRecord) (n₀ : StoredNode) : Prop where
  proposed : t.proposal n₀.record = .ok (some r)
  synced : n₀.Synced t.node
  later : ∃ n, s.nodes.get? t.node = some n ∧ n₀.Later n

namespace BasedOn

theorem of_read {n : StoredNode} (hs : s.Synced) (hn : s.nodes.get? t.node = some n)
    (hp : t.proposal n.record = .ok (some r)) : BasedOn t s r n :=
  ⟨hp, hs _ n hn, n, hn, .refl n⟩

/-- A step that leads to a write has just read the node. -/
theorem of_turn {phase : Phase} {attempt : Nat} {calls : List Call} (hs : s.Synced)
    (h : Turn t s phase (.writing attempt r) calls s') : ∃ n₀, BasedOn t s' r n₀ := by
  cases h with
  | @proposed _ n _ hn hp => exact ⟨n, of_read (hs.of_nodes_eq rfl) hn hp⟩
  | @refused attempt' _ e _ _ hu hp =>
    rcases afterWrite_error t attempt' e with ⟨hphase, -⟩ | hphase | ⟨failure, hphase, -⟩
    all_goals
      rw [hphase] at hp
      cases hp

theorem grows (h : BasedOn t s r n₀) (hg : s.Grows s') : BasedOn t s' r n₀ := by
  obtain ⟨n, hn, hl⟩ := h.later
  obtain ⟨n', hn', hl'⟩ := hg _ n hn
  exact ⟨h.proposed, h.synced, n', hn', hl.trans hl'⟩

theorem name_eq (h : BasedOn t s r n₀) : r.name = t.node :=
  name_of_proposal h.synced h.proposed

theorem version_eq (h : BasedOn t s r n₀) : r.version = n₀.record.version :=
  version_of_proposal h.proposed

/-- A write is accepted only if the node is still in the state that the record was based on and no
write of another comes before it. -/
theorem of_written (hs : s.Synced) (h : BasedOn t s r n₀) (hu : Updates r s (.ok r') s') :
    s.nodes.get? t.node = some n₀ ∧ s.foreign = [] ∧ s' = s.counted.written r n₀ := by
  obtain ⟨n, hn, hl⟩ := h.later
  cases hu with
  | @committed n₁ _ hn₁ hv =>
    have htext : n₀.record.version = n₁.record.version := h.version_eq.symm.trans hv
    have hsync : n₁.Synced r.name := hs.landForeign r.name _ _ hn₁
    rw [h.name_eq] at hn₁
    cases hf : s.foreign with
    | nil =>
      rw [landForeign_of_nil hf, hn, Option.some.injEq] at hn₁
      subst hn₁
      obtain rfl := hl.eq_of_text_eq h.synced hsync htext
      exact ⟨hn, rfl, by rw [landForeign_of_nil (show s.counted.foreign = [] from hf)]⟩
    | cons write rest =>
      -- The other write has moved the node past every version that could have been read.
      have hversion : n₁.version = n.version + 1 := by
        simp only [landForeign, hf, hn, TextMap.get?_insert, if_pos, Option.some.injEq] at hn₁
        rw [← hn₁]
        rfl
      have hle := hl.version_le
      have heq := h.synced.version_inj hsync htext
      omega

/-- With no failure and no write of another in the queues, a write is refused only because the node
has moved on. -/
theorem of_refused {e : StoreError} (h : BasedOn t s r n₀) (hf : s.foreign = [])
    (hq : s.failures = []) (hu : Updates r s (.error e) s') :
    (∃ n, s.nodes.get? t.node = some n ∧ n₀.version < n.version) ∧ e.isConflict = true ∧
      s' = s.counted := by
  obtain ⟨n, hn, hl⟩ := h.later
  have hland : s.counted.landForeign r.name = s.counted :=
    landForeign_of_nil (show s.counted.foreign = [] from hf) r.name
  cases hu with
  | failed hq' =>
    rw [hq] at hq'
    cases hq'
  | missing _ hn' =>
    rw [h.name_eq, hn] at hn'
    cases hn'
  | stale _ hn' hv =>
    rw [landForeign_of_nil hf, h.name_eq, hn, Option.some.injEq] at hn'
    subst hn'
    refine ⟨⟨n, hn, ?_⟩, rfl, hland⟩
    rcases hl with rfl | hlt
    · exact absurd h.version_eq hv
    · exact hlt

end BasedOn

/-! ## The change that a write makes -/

/-- The edit is made in its node: the map that the node holds does not reflect the edit, the edited
map takes its place, and nothing else changes but the version of the node, which moves by one. -/
structure Makes (t : EditTask) (n : StoredNode) (m : DriverMap) (s s' : MemoryStore) : Prop where
  node : s.nodes.get? t.node = some n
  read : DriverMap.decode (s.value? t.node t.key) = .ok m
  changes : t.edit.run m ≠ m
  value : s'.value? t.node t.key = some (DriverMap.encode (t.edit.run m))
  otherValues : ∀ k, k ≠ t.key → s'.value? t.node k = s.value? t.node k
  version : ∃ n', s'.nodes.get? t.node = some n' ∧ n'.version = n.version + 1
  otherNodes : ∀ name, name ≠ t.node → s'.nodes.get? name = s.nodes.get? name

/-- The node holds what was written over it. -/
theorem value?_written {name : String} (hname : r.name = name) (s : MemoryStore) (n : StoredNode)
    (k : String) : (s.written r n).value? name k = r.value? k := by
  have hget : (s.written r n).nodes.get? name = some (n.advanced r.annotations) := by
    show (s.nodes.insert r.name _).get? name = _
    rw [TextMap.get?_insert, if_pos hname.symm]
  rw [value?_of_get? hget]
  rfl

/-- A write that is accepted makes the edit. -/
theorem BasedOn.makes (hk : t.key ≠ "") (hs : s.Synced) (h : BasedOn t s r n₀)
    (hu : Updates r s (.ok r') s') : ∃ m, t.Makes n₀ m s s' := by
  obtain ⟨hn, -, rfl⟩ := h.of_written hs hu
  have hname := h.name_eq
  obtain ⟨m, hd, hne, hr⟩ := proposal_eq_some_iff.1 h.proposed
  refine ⟨m, hn, ?_, hne, ?_, ?_, ?_, ?_⟩
  · rw [value?_of_get? hn]
    exact hd
  · rw [value?_written hname, hr, value?_revised hk]
  · intro k hne'
    rw [value?_written hname, hr, value?_revised_of_ne hk hne', value?_of_get? hn]
  · refine ⟨n₀.advanced r.annotations, ?_, rfl⟩
    show (s.nodes.insert r.name _).get? t.node = _
    rw [TextMap.get?_insert, if_pos hname.symm]
  · intro name hother
    show (s.nodes.insert r.name _).get? name = _
    rw [TextMap.get?_insert, if_neg (hname ▸ hother)]

/-! ## What a success says -/

/-- A record that waits to be written was proposed from some state of the node, now or earlier. -/
def Drafted (t : EditTask) : Phase → Prop
  | .writing _ r => ∃ n : StoredNode, n.Synced t.node ∧ t.proposal n.record = .ok (some r)
  | _ => True

theorem Turn.drafted {phase phase' : Phase} {calls : List Call} (hs : s.Synced)
    (h : Turn t s phase phase' calls s') : t.Drafted phase' := by
  cases phase' with
  | writing attempt r =>
    obtain ⟨n, hb⟩ := BasedOn.of_turn hs h
    exact ⟨n, hb.synced, hb.proposed⟩
  | reading | pausing | finished | stuck => trivial

/-- At the moment when an edit succeeds, the map that the node holds reflects it. -/
theorem Turn.holds_of_ok (hk : t.key ≠ "") {phase : Phase} {calls : List Call}
    {outcome : EditOutcome} (h : Turn t s phase (.finished (.ok outcome)) calls s')
    (hd : t.Drafted phase) (hphase : phase.result? = none) :
    ∃ m, DriverMap.decode (s'.value? t.node t.key) = .ok m ∧ t.edit.holds m = true := by
  cases h with
  | reflected hn hp =>
    obtain ⟨m, hm, hholds⟩ := proposal_eq_none_iff.1 hp
    refine ⟨m, ?_, hholds⟩
    show DriverMap.decode (s.value? t.node t.key) = .ok m
    rw [value?_of_get? hn, hm]
  | @written attempt r _ _ hu =>
    obtain ⟨n, hsync, hp⟩ := hd
    have hname : r.name = t.node := name_of_proposal hsync hp
    obtain ⟨m, -, -, hr⟩ := proposal_eq_some_iff.1 hp
    refine ⟨t.edit.run m, ?_, DriverEdit.holds_run t.edit m⟩
    cases hu with
    | committed _ _ _ => rw [value?_written hname, hr, value?_revised hk, DriverMap.decode_encode]
  | @refused attempt _ e _ _ _ hp =>
    rcases afterWrite_error t attempt e with ⟨hw, -⟩ | hw | ⟨failure, hw, -⟩
    all_goals
      rw [hw] at hp
      cases hp
  | ended => cases hphase

end EditTask

end DriverRegistration
