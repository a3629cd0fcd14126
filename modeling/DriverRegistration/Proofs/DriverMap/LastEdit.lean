import DriverRegistration.Proofs.DriverMap.Codec
import DriverRegistration.Proofs.DriverMap.Edits
import Mathlib.Control.Monad.Basic
import Mathlib.Data.List.Induction

/-!
# The last edit of a driver

Edits that are applied in turn to the map of a text leave for every driver what the last edit that
names it makes of its entry (`get?_runs`).  Everything else follows: what an edit reports as changed
is what changes in the text, an edit that is made again changes nothing, and the text depends on the
last edits alone (`last_edit_decides`).
-/

namespace DriverRegistration.DriverEdit

open DriverMap (encode decode)

/-- The map after an edit, which may have found nothing to change. -/
def applied (e : DriverEdit) (m : DriverMap) : DriverMap := (e.apply m).getD m

/-- The map after edits that are applied in turn. -/
def appliedAll (es : List DriverEdit) (m : DriverMap) : DriverMap :=
  es.foldl (fun m e => e.applied m) m

/-- The text after edits that are applied in turn to the map of a text. -/
def editedText (es : List DriverEdit) (raw : Option String) : Except CorruptMap String :=
  (decode raw).map fun m => encode (appliedAll es m)

/-- The last edit that names a driver. -/
def lastEdit (es : List DriverEdit) (k : String) : Option DriverEdit :=
  es.reverse.find? fun e => e.driver = k

theorem lastEdit_concat (es : List DriverEdit) (e : DriverEdit) (k : String) :
    lastEdit (es ++ [e]) k = if e.driver = k then some e else lastEdit es k := by
  simp only [lastEdit, List.reverse_append, List.reverse_cons, List.reverse_nil, List.nil_append,
    List.cons_append, List.find?_cons]
  by_cases hk : e.driver = k
  · simp [hk]
  · simp [hk]

/-- The last edit that names a driver decides about its entry. -/
theorem get?_runs (es : List DriverEdit) (m : DriverMap) (k : String) :
    (runs es m).get? k = match lastEdit es k with
      | some e => e.target
      | none => m.get? k := by
  induction es using List.reverseRecOn with
  | nil => rfl
  | append_singleton es e ih =>
    rw [runs_concat, get?_run, lastEdit_concat]
    by_cases hk : e.driver = k
    · rw [if_pos hk.symm, if_pos hk]
    · rw [if_neg (Ne.symm hk), if_neg hk, ih]

/-! ## What an edit reports -/

theorem applied_eq_run (e : DriverEdit) (m : DriverMap) : e.applied m = e.run m := by
  unfold applied apply
  cases h : e.holds m with
  | true => exact (run_eq_self h).symm
  | false => rfl

theorem appliedAll_eq_runs (es : List DriverEdit) (m : DriverMap) :
    appliedAll es m = runs es m := by
  have hfun : (fun m e => applied e m) = fun m e => run e m :=
    funext fun m => funext fun e => applied_eq_run e m
  rw [appliedAll, runs, hfun]

theorem isSome_apply (e : DriverEdit) (m : DriverMap) : (e.apply m).isSome = !e.holds m := by
  unfold apply
  cases e.holds m with
  | true => rfl
  | false => rfl

/-- An edit reports a change exactly if it changes the text. -/
theorem isSome_apply_iff (e : DriverEdit) (m : DriverMap) :
    (e.apply m).isSome = true ↔ encode m ≠ encode (e.run m) := by
  rw [isSome_apply, Bool.not_eq_true', ← run_ne_self_iff]
  constructor
  · intro hne heq
    exact hne (DriverMap.encode_inj heq).symm
  · intro hne heq
    exact hne (congrArg encode heq.symm)

theorem getElem?_runAll (before after : List DriverEdit) (e : DriverEdit) (m : DriverMap) :
    (runAll (before ++ e :: after) m)[before.length]? =
      some ⟨e.driver, (e.apply (runs before m)).isSome, encode (runs (before ++ [e]) m)⟩ := by
  induction before generalizing m with
  | nil =>
    rw [isSome_apply]
    rfl
  | cons e' before ih =>
    rw [List.cons_append, runAll, List.length_cons, List.getElem?_cons_succ, ih]
    rfl

/-! ## The laws -/

variable {es es' : List DriverEdit} {m : DriverMap}

/-- Edits with the same last edit for every driver lead to the same map. -/
theorem runs_eq_of_lastEdit (h : ∀ k, lastEdit es k = lastEdit es' k) (m : DriverMap) :
    runs es m = runs es' m := by
  apply TextMap.ext_get?
  intro k
  rw [get?_runs, get?_runs, h k]

theorem lastEdit_pair (e e' : DriverEdit) (k : String) :
    lastEdit [e, e'] k =
      if e'.driver = k then some e' else if e.driver = k then some e else none :=
  (lastEdit_concat [e] e' k).trans (congrArg _ (lastEdit_concat [] e k))

theorem lastEdit_swap {e e' : DriverEdit} (h : e.driver ≠ e'.driver) (k : String) :
    lastEdit [e, e'] k = lastEdit [e', e] k := by
  rw [lastEdit_pair, lastEdit_pair]
  by_cases hk : e.driver = k
  · have hk' : e'.driver ≠ k := fun hk' => h (hk.trans hk'.symm)
    rw [if_neg hk', if_pos hk, if_pos hk]
  · rw [if_neg hk, if_neg hk]

/-- An entry that was not there is recorded and dropped again. -/
theorem runs_upsert_remove {name : String} (h : m.get? name = none) (nodeId : String) :
    runs [.upsert name nodeId, .remove name] m = m := by
  apply TextMap.ext_get?
  intro k
  rw [get?_runs, lastEdit_pair]
  by_cases hk : name = k
  · subst hk
    simp [driver, target, h]
  · simp [driver, hk]

/-- Of the edits that are applied to a text in turn, the last one that names a driver decides about
its entry, so edits that agree in the last ones lead to the same text. -/
theorem last_edit_decides {raw : Option String} (h : decode raw = .ok m) :
    (∀ es, editedText es raw = .ok (encode (appliedAll es m)) ∧
      decode (some (encode (appliedAll es m))) = .ok (appliedAll es m) ∧
      ∀ k, (appliedAll es m).get? k = match lastEdit es k with
        | some e => e.target
        | none => m.get? k) ∧
    (∀ before (e : DriverEdit) after, ∃ step,
      (runAll (before ++ e :: after) m)[before.length]? = some step ∧
      step.driver = e.driver ∧ step.changed = (e.apply (appliedAll before m)).isSome ∧
      .ok step.encoded = editedText (before ++ [e]) raw ∧
      (step.changed = true ↔ editedText before raw ≠ editedText (before ++ [e]) raw)) ∧
    (∀ before (e : DriverEdit), e.apply (appliedAll (before ++ [e]) m) = none) ∧
    (∀ es es', (∀ k, lastEdit es k = lastEdit es' k) → editedText es raw = editedText es' raw) ∧
    (∀ e e' : DriverEdit, e.driver ≠ e'.driver → editedText [e, e'] raw = editedText [e', e] raw) ∧
    ∀ name nodeId, m.get? name = none →
      editedText [.upsert name nodeId, .remove name] raw = .ok (encode m) := by
  have htext (es) : editedText es raw = .ok (encode (runs es m)) := by
    rw [editedText, h, ← appliedAll_eq_runs]
    rfl
  simp only [appliedAll_eq_runs]
  refine ⟨?_, ?_, ?_, ?_, ?_, ?_⟩
  · intro es
    exact ⟨htext es, DriverMap.decode_encode _, get?_runs es m⟩
  · intro before e after
    refine ⟨_, getElem?_runAll before after e m, rfl, rfl, (htext _).symm, ?_⟩
    rw [htext, htext, ne_eq, Except.ok.injEq, runs_concat]
    exact isSome_apply_iff e (runs before m)
  · intro before e
    rw [runs_concat, apply_eq_none_iff]
    exact holds_run e (runs before m)
  · intro es es' hlast
    rw [htext, htext, runs_eq_of_lastEdit hlast]
  · intro e e' hne
    rw [htext, htext, runs_eq_of_lastEdit (lastEdit_swap hne)]
  · intro name nodeId hname
    rw [htext, runs_upsert_remove hname]

/-- An entry is recorded in a text with blanks, recorded again, and dropped. -/
theorem last_edit_decides_of_spaced :
    decode (some "\x7b \"b\" : \"1\" \x7d") = .ok (.ofList [("b", "1")]) ∧
      apply (.upsert "a" "2") (appliedAll ([] ++ [.upsert "a" "2"]) (.ofList [("b", "1")])) = none ∧
      editedText [.upsert "a" "2", .remove "a"] (some "\x7b \"b\" : \"1\" \x7d") =
        .ok (encode (.ofList [("b", "1")])) := by
  have hraw : decode (some "\x7b \"b\" : \"1\" \x7d") = .ok (.ofList [("b", "1")]) := by
    decide +kernel
  obtain ⟨-, -, hagain, -, -, hrestored⟩ := last_edit_decides hraw
  exact ⟨hraw, hagain [] (.upsert "a" "2"), hrestored "a" "2" (by decide)⟩

end DriverRegistration.DriverEdit
