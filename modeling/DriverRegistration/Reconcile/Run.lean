import DriverRegistration.Reconcile.Task

/-!
# Edits that nothing comes between

`EditTask.run` makes an edit against a store, from the first read to the end, with no step of anyone
else in between.  The attempts that are left bound the recursion.
-/

namespace DriverRegistration.EditTask

variable {σ : Type}

/-- One attempt: a read and, where one is due, a write. -/
def cycle (store : NodeStore σ) (t : EditTask) (attempt : Nat) (s : σ) : Progress × σ :=
  let (p, s) := t.advance store (.reading attempt) s
  match p.phase with
  | .writing n record =>
    let (q, s) := t.advance store (.writing n record) s
    (p.append q, s)
  | _ => (p, s)

/-- Attempts from a given one on, as long as they lose and so many are left. -/
def attempts (store : NodeStore σ) (t : EditTask) : Nat → Nat → σ → Progress × σ
  | 0, attempt, s => ({ phase := .reading attempt }, s)
  | left + 1, attempt, s =>
    let (p, s) := t.cycle store attempt s
    match p.phase with
    | .pausing _ =>
      let (q, s) := attempts store t left (attempt + 1) s
      (p.append q, s)
    | _ => (p, s)

/-- Make an edit. -/
def run (store : NodeStore σ) (t : EditTask) (s : σ) : Progress × σ :=
  attempts store t t.retry.budget 1 s

end DriverRegistration.EditTask
