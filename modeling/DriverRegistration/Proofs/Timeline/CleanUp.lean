import DriverRegistration.Proofs.Reconcile.Protocol
import DriverRegistration.Proofs.Timeline.Lone

/-!
# A lone registrar cleans up after itself

A registrar that is alone with its node is on its way or has cleaned up, in whatever order its jobs
are done (`Lone.Tracked`): every job leads from the one to the same or to the other, and what the
jobs write and lose is counted along the run (`Lone.Tracked.play`).

The run by times comes to the end (`Lone.OnWay.returns`).  Every job besides the periodic part
brings the end nearer, and only so many jobs of the periodic part come before the next one of those:
the deadlines of the cycles grow.
-/

namespace DriverRegistration.Timeline

open EditTask (Call)

/-- The removal has succeeded, once and in two attempts at most, and the node is as it was found but
for the entry of the driver. -/
structure CleanedUp (a : Actor) (identity : DriverIdentity) (s : MemoryStore) (m : DriverMap)
    (w : World) : Prop where
  results : ∃ outcome, w.results = [.ok outcome] ∧ ∀ k, outcome = .updated k → k ≤ 2
  map : DriverMap.decode (w.store.value? a.node a.reconciler.key) = .ok (m.erase identity.name)
  rest : MemoryStore.KeepsRest a.node a.reconciler.key s w.store

/-- An actor alone with a store. -/
def World.alone (a : Actor) (s : MemoryStore) : World := { World.ofActors [a] with store := s }

namespace Lone

/-- A registrar on its way or after its end, with what its cycles have written, what its removal has
lost and written, and how many jobs besides its periodic part were done. -/
inductive Tracked (l : Lone) (written lost removed done : Nat) (w : World) : Prop
  | onWay {left : Nat} {p : Player} {main : Due} {loop : List Due}
      (h : l.OnWay written lost left p main loop w) (hremoved : removed = 0)
      (hdone : done + left ≤ 7) : Tracked l written lost removed done w
  | ended (h : l.Over written lost removed w) : Tracked l written lost removed done w

/-- Sooner or later, the run by times has cleaned up. -/
def Returns (l : Lone) (w : World) : Prop :=
  ∃ jobs horizon, ∀ jobs', jobs ≤ jobs' → ∀ horizon', horizon ≤ horizon' →
    CleanedUp l.actor l.identity l.store l.map (World.runFor jobs' horizon' w)

variable {l : Lone} {written lost left removed done : Nat} {p : Player} {main d : Due}
  {loop rest : List Due} {w : World}

/-! ## After the end -/

theorem Over.cleanedUp (h : l.Over written lost removed w) :
    CleanedUp l.actor l.identity l.store l.map w :=
  ⟨h.results, h.cleared.map, h.cleared.rest⟩

theorem Over.doAt (h : l.Over written lost removed w) (hd : d ∈ w.queue) (time : Nat) :
    l.Over written lost removed (w.doAt d time) ∧ w.asked (w.doAt d time) = [] := by
  obtain ⟨p, hplayers, hperiodic, hown⟩ := h.player
  obtain ⟨hplace, hbesides⟩ := h.queue d hd
  have hp : (w.taken d time).players[d.player]? = some p := by
    rw [hplace]
    exact congrArg (·[0]?) hplayers
  have hsame : w.doAt d time = w.taken d time := by
    refine World.perform_of_gone _ hp hperiodic hown (fun hstart => ?_) (fun hstop => ?_)
    · rw [hstart] at hbesides
      cases hbesides
    · rw [hstop] at hbesides
      cases hbesides
  rw [hsame]
  refine ⟨⟨⟨p, hplayers, hperiodic, hown⟩, fun e he => h.queue e (List.mem_of_mem_erase he),
    h.cleared, h.lost_le, h.results⟩, World.asked_of_trace_eq rfl⟩

theorem Over.runFor (h : l.Over written lost removed w) (jobs stop : Nat) :
    l.Over written lost removed (World.runFor jobs stop w) := by
  induction jobs generalizing w with
  | zero => exact h
  | succ jobs ih =>
    rcases w.next?_cases stop with hnone | ⟨d, hd, hsome⟩
    · rw [World.runFor, hnone]
      exact h
    · rw [World.runFor, hsome]
      exact ih (h.doAt hd d.time).1

/-! ## Any order -/

theorem Tracked.doAt (h : l.Tracked written lost removed done w) (hd : d ∈ w.queue) (time : Nat) :
    l.Tracked (written + w.share .cycle Call.accepted d time)
      (lost + w.share .own Call.refused d time) (removed + w.share .own Call.accepted d time)
      (done + d.job.besides.toNat) (w.doAt d time) := by
  cases h with
  | @onWay left p main loop h hremoved hdone =>
    subst hremoved
    rcases List.mem_cons.1 (h.queue.mem_iff.1 hd) with rfl | hloop
    · have hbesides := h.errand.besides
      have hcycle : w.share .cycle Call.accepted d time = 0 := by
        refine World.share_of_ne (fun hjob => ?_) time
        rw [hjob] at hbesides
        cases hbesides
      rw [hcycle, hbesides, Nat.zero_add]
      rcases h.doAt_main time with ⟨left', p', main', loop', hleft, hnext, hnone⟩ | ⟨hover, hnone⟩
      · refine .onWay hnext hnone ?_
        show done + 1 + left' ≤ 7
        omega
      · rw [hnone]
        exact .ended hover
    · obtain ⟨-, hbesides⟩ := h.looping.mem hloop
      have hown (kind : Call → Bool) : w.share .own kind d time = 0 := by
        refine World.share_of_ne (fun hjob => ?_) time
        rw [hjob] at hbesides
        cases hbesides
      obtain ⟨p', loop', hnext, -⟩ := h.doAt_loop hloop time
      rw [hown, hown, hbesides]
      exact .onWay hnext rfl hdone
  | ended h =>
    obtain ⟨hover, hasked⟩ := h.doAt hd time
    have hshare (job : Job) (kind : Call → Bool) : w.share job kind d time = 0 := by
      unfold World.share
      rw [hasked]
      exact ite_self _
    rw [hshare, hshare, hshare]
    exact .ended hover

/-- What holds of every run, whatever the times are and in whatever order the jobs are done. -/
theorem Tracked.play (h : l.Tracked written lost removed done w) {steps : List (Due × Nat)}
    (hsteps : w.CanPlay steps) :
    l.Tracked (written + w.tally .cycle Call.accepted steps)
      (lost + w.tally .own Call.refused steps) (removed + w.tally .own Call.accepted steps)
      (done + steps.countP fun step => step.1.job.besides) (w.play steps) := by
  induction steps generalizing written lost removed done w with
  | nil => exact h
  | cons step steps ih =>
    obtain ⟨d, time⟩ := step
    have hnext := ih (h.doAt hsteps.1 time) hsteps.2
    have hcount : ((d, time) :: steps).countP (fun step => step.1.job.besides) =
        d.job.besides.toNat + steps.countP fun step => step.1.job.besides := by
      rw [List.countP_cons, Nat.add_comm]
      cases d.job.besides with
      | true => rfl
      | false => rfl
    rw [hcount]
    simp only [World.tally, World.play, Nat.add_assoc] at hnext ⊢
    exact hnext

/-! ## The run by times -/

theorem Returns.of_over (h : l.Over written lost removed w) : l.Returns w :=
  ⟨0, 0, fun jobs _ horizon _ => (h.runFor jobs horizon).cleanedUp⟩

theorem Returns.of_doAt (hq : w.queue = d :: rest) (h : l.Returns (w.doAt d d.time)) :
    l.Returns w := by
  obtain ⟨jobs, horizon, hreturns⟩ := h
  refine ⟨jobs + 1, max horizon d.time, fun jobs' hjobs horizon' hhorizon => ?_⟩
  obtain ⟨jobs', rfl⟩ : ∃ k, jobs' = k + 1 := ⟨jobs' - 1, by omega⟩
  rw [World.runFor, World.next?_of_due hq (by omega)]
  exact hreturns jobs' (by omega) horizon' (by omega)

theorem OnWay.returns (h : l.OnWay written lost left p main loop w) (hw : w.InTime) :
    l.Returns w := by
  induction left using Nat.strongRecOn generalizing written lost p main loop w with
  | _ left ihMain =>
    generalize hbefore : loopLeft (main.time * 1000000) p.periodic = before
    induction before using Nat.strongRecOn generalizing written p loop w with
    | _ before ihLoop =>
      obtain ⟨d, rest, hq⟩ : ∃ d rest, w.queue = d :: rest := by
        refine List.exists_cons_of_ne_nil fun hnil => ?_
        have hlength := h.queue.length_eq
        rw [hnil] at hlength
        cases hlength
      have hd : d ∈ main :: loop := h.queue.mem_iff.1 (hq ▸ List.mem_cons_self)
      refine .of_doAt hq ?_
      have hnextInTime := hw.doAt hq
      rcases List.mem_cons.1 hd with rfl | hloop
      · rcases h.doAt_main d.time with ⟨left', p', main', loop', hleft, hnext, -⟩ | ⟨hover, -⟩
        · exact ihMain left' hleft hnext hnextInTime
        · exact .of_over hover
      · -- the job comes first, so it is due no later than the one besides
        have htime : d.time ≤ main.time := by
          have hmain : main ∈ d :: rest := hq ▸ h.queue.mem_iff.2 List.mem_cons_self
          rcases List.mem_cons.1 hmain with heq | hrest
          · exact Nat.le_of_eq (congrArg Due.time heq.symm)
          · have hsorted := hw.sorted
            rw [hq] at hsorted
            exact (List.pairwise_cons.1 hsorted).1 main hrest
        obtain ⟨p', loop', hnext, hfewer⟩ := h.doAt_loop hloop d.time
        have hless := hfewer (main.time * 1000000) (Nat.mul_le_mul_right _ htime)
        rw [hbefore] at hless
        exact ihLoop _ hless hnext hnextInTime rfl

/-! ## The beginning -/

theorem onWay_alone (l : Lone) : l.OnWay 0 0 7 { actor := l.actor } ⟨l.actor.start, 0, .start⟩ []
    (World.alone l.actor l.store) where
  players := rfl
  actor := rfl
  place := rfl
  errand := .start
  looping := .stopped
  fresh := fun _ => rfl
  queue := .refl _
  tended := l.tended_store
  results := rfl

theorem inTime_alone (l : Lone) : (World.alone l.actor l.store).InTime :=
  ⟨List.pairwise_singleton _ _, fun _ _ => Nat.zero_le _⟩

end Lone

/-! ## The theorem -/

/-- In whatever order its jobs are done, a lone registrar is one of seven jobs at most away from the
end of its removal, or it has cleaned up; it writes the entry once at most and removes it once at
most.  The run by times comes to the clean end. -/
theorem lone_cleans_up {a : Actor} {identity : DriverIdentity} {interval : Duration} {stop : Nat}
    {s : MemoryStore} {n : StoredNode} {m : DriverMap}
    (hwork : a.work = .runUntil identity interval stop) (hkey : a.reconciler.key ≠ "")
    (hbudget : 2 ≤ a.reconciler.retry.budget)
    (hdelay : ∀ n, a.reconciler.retry.delay n ≠ .undefined) (hs : s.Synced)
    (hn : s.nodes.get? a.node = some n)
    (hm : DriverMap.decode (s.value? a.node a.reconciler.key) = .ok m) (hforeign : s.foreign = [])
    (hfailures : s.failures = []) :
    (∀ steps, (World.alone a s).CanPlay steps →
      (((World.alone a s).play steps).results = [] ∧
          (∃ d ∈ ((World.alone a s).play steps).queue, d.job.besides = true) ∧
          (steps.countP fun step => step.1.job.besides) < 7 ∨
        CleanedUp a identity s m ((World.alone a s).play steps)) ∧
      (World.alone a s).tally .cycle Call.accepted steps ≤ 1 ∧
      (World.alone a s).tally .own Call.accepted steps ≤ 1 ∧
      (World.alone a s).tally .own Call.refused steps ≤
        (World.alone a s).tally .cycle Call.accepted steps ∧
      ((World.alone a s).play steps).store.writes =
        s.writes + (World.alone a s).tally .cycle Call.accepted steps +
          (World.alone a s).tally .own Call.accepted steps) ∧
    ∃ jobs horizon, ∀ jobs', jobs ≤ jobs' → ∀ horizon', horizon ≤ horizon' →
      (∃ steps, (World.alone a s).CanPlay steps ∧
        (World.alone a s).play steps = World.runFor jobs' horizon' (World.alone a s)) ∧
      CleanedUp a identity s m (World.runFor jobs' horizon' (World.alone a s)) := by
  let l : Lone := ⟨a, identity, interval, stop, s, n, m, hwork, hkey, hbudget, hdelay, hs, hn, hm,
    hforeign, hfailures⟩
  have hstart : l.Tracked 0 0 0 0 (World.alone a s) := .onWay l.onWay_alone rfl (Nat.le_refl 7)
  constructor
  · intro steps hsteps
    have hplayed := hstart.play hsteps
    simp only [Nat.zero_add] at hplayed
    cases hplayed with
    | onWay h hremoved hdone =>
      have hleft := h.errand.left_pos h.tended
      have hmain := h.queue.mem_iff.2 List.mem_cons_self
      refine ⟨Or.inl ⟨h.results, ⟨_, hmain, h.errand.besides⟩, by omega⟩, h.tended.few, ?_,
        h.errand.lost_le h.tended, ?_⟩
      · rw [hremoved]
        exact Nat.zero_le 1
      · rw [hremoved]
        exact h.tended.writes
    | ended h =>
      exact ⟨Or.inr h.cleanedUp, h.cleared.few, h.cleared.once, h.lost_le, h.cleared.writes⟩
  · obtain ⟨jobs, horizon, hreturns⟩ := l.onWay_alone.returns l.inTime_alone
    refine ⟨jobs, horizon, fun jobs' hjobs horizon' hhorizon => ⟨?_, ?_⟩⟩
    · exact World.exists_play_runFor jobs' horizon' (World.alone a s)
    · exact hreturns jobs' hjobs horizon' hhorizon

/-- A node where an earlier registrar has left an entry of the driver. -/
def staleNode : MemoryStore :=
  MemoryStore.empty.insertNode "n"
    (some (TextMap.empty.insert standardKey "\x7b\"driver\":\"old\"\x7d"))

/-- The cycle writes between the read and the write of the removal, which needs a second attempt. -/
theorem lone_cleans_up_of_stale :
    World.hasty.work = .runUntil ⟨"driver", "id"⟩ (.ofSeconds 60) 1 ∧
    World.hasty.reconciler.key ≠ "" ∧ 2 ≤ World.hasty.reconciler.retry.budget ∧
    (∀ n, World.hasty.reconciler.retry.delay n ≠ .undefined) ∧
    staleNode.Synced ∧ (∃ n, staleNode.nodes.get? "n" = some n) ∧
    DriverMap.decode (staleNode.value? "n" standardKey) = .ok (.ofList [("driver", "old")]) ∧
    staleNode.foreign = [] ∧ staleNode.failures = [] ∧
    ∃ steps, (World.alone World.hasty staleNode).CanPlay steps ∧
      ((World.alone World.hasty staleNode).play steps).results = [.ok (.updated 2)] ∧
      CleanedUp World.hasty ⟨"driver", "id"⟩ staleNode (.ofList [("driver", "old")])
        ((World.alone World.hasty staleNode).play steps) := by
  have hwork : World.hasty.work = .runUntil ⟨"driver", "id"⟩ (.ofSeconds 60) 1 := rfl
  have hkey : World.hasty.reconciler.key ≠ "" := by decide
  have hbudget : 2 ≤ World.hasty.reconciler.retry.budget := by decide
  have hdelay : ∀ n, World.hasty.reconciler.retry.delay n ≠ .undefined :=
    EditTask.delay_standard_ne_undefined
  have hm : DriverMap.decode (staleNode.value? "n" standardKey) =
      .ok (.ofList [("driver", "old")]) := by decide +kernel
  obtain ⟨steps, hcan, hplay⟩ :=
    World.exists_play_runFor 10 21 (World.alone World.hasty staleNode)
  have hresults : ((World.alone World.hasty staleNode).play steps).results =
      [.ok (.updated 2)] := by
    rw [hplay]
    decide +kernel
  have hs : staleNode.Synced := MemoryStore.synced_empty.insertNode "n" _
  have hclean := (lone_cleans_up hwork hkey hbudget hdelay hs rfl hm rfl rfl).1 steps hcan
  refine ⟨hwork, hkey, hbudget, hdelay, hs, ⟨_, rfl⟩, hm, rfl, rfl, steps, hcan, hresults, ?_⟩
  refine hclean.1.resolve_left fun hopen => ?_
  exact nomatch hresults.symm.trans hopen.1

end DriverRegistration.Timeline
