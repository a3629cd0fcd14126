import DriverRegistration.Text.Utf8

/-!
# Finite maps keyed by texts

A `TextMap` holds its entries in strictly increasing UTF-8 byte order of their keys, so that two
maps with the same look-ups are equal (`ext_get?`) and everything written from a map depends on the
mapping alone.  Driver maps, node annotations and manifests are maps of this kind.

Each operation has one equation through the look-up: `get?_empty`, `get?_insert`, `get?_erase`.
-/

namespace DriverRegistration

open Text

/-- A finite map from texts to `β`, listed in strictly increasing byte order of the keys. -/
structure TextMap (β : Type) where
  /-- The entries, one per key. -/
  entries : List (String × β)
  sorted : entries.Pairwise fun a b => utf8 a.1 < utf8 b.1

namespace TextMap

variable {β : Type}

theorem ext_entries {m n : TextMap β} (h : m.entries = n.entries) : m = n := by
  cases m; cases n; cases h; rfl

instance [DecidableEq β] : DecidableEq (TextMap β) := fun m n =>
  decidable_of_iff (m.entries = n.entries) ⟨ext_entries, fun h => h ▸ rfl⟩

instance [Repr β] : Repr (TextMap β) where
  reprPrec m n := reprPrec m.entries n

/-- The map without entries. -/
def empty : TextMap β := ⟨[], .nil⟩

instance : Inhabited (TextMap β) := ⟨empty⟩

instance : EmptyCollection (TextMap β) := ⟨empty⟩

/-- The value that a key is mapped to. -/
def get? (m : TextMap β) (k : String) : Option β := m.entries.lookup k

/-- Whether a key is mapped. -/
def contains (m : TextMap β) (k : String) : Bool := (m.get? k).isSome

/-- Whether the map has no entry. -/
def isEmpty (m : TextMap β) : Bool := m.entries.isEmpty

/-! ## Insertion -/

/-- Place an entry into an ordered list of entries, over an entry of the same key. -/
def insertEntry (k : String) (v : β) : List (String × β) → List (String × β)
  | [] => [(k, v)]
  | e :: es =>
    if k = e.1 then (k, v) :: es
    else if utf8 k < utf8 e.1 then (k, v) :: e :: es
    else e :: insertEntry k v es

theorem mem_insertEntry {k : String} {v : β} {es : List (String × β)} {e : String × β}
    (h : e ∈ insertEntry k v es) : e = (k, v) ∨ e ∈ es := by
  induction es with
  | nil => simpa [insertEntry] using h
  | cons d ds ih =>
    simp only [insertEntry] at h
    split at h
    · rcases List.mem_cons.1 h with h | h
      · exact .inl h
      · exact .inr (List.mem_cons_of_mem _ h)
    · split at h
      · rcases List.mem_cons.1 h with h | h
        · exact .inl h
        · exact .inr h
      · rcases List.mem_cons.1 h with h | h
        · exact .inr (h ▸ List.mem_cons_self)
        · exact (ih h).imp id (List.mem_cons_of_mem _)

theorem sorted_insertEntry {k : String} {v : β} {es : List (String × β)}
    (h : es.Pairwise fun a b => utf8 a.1 < utf8 b.1) :
    (insertEntry k v es).Pairwise fun a b => utf8 a.1 < utf8 b.1 := by
  induction es with
  | nil => exact .cons (by simp) .nil
  | cons d ds ih =>
    obtain ⟨hd, hds⟩ := List.pairwise_cons.1 h
    simp only [insertEntry]
    split
    · next hk => exact .cons (fun e he => by simpa [hk] using hd e he) hds
    · next hk =>
      split
      · next hlt =>
        refine .cons (fun e he => ?_) h
        rcases List.mem_cons.1 he with rfl | he
        · exact hlt
        · exact List.lt_trans hlt (hd e he)
      · next hlt =>
        refine .cons (fun e he => ?_) (ih hds)
        rcases mem_insertEntry he with rfl | he
        · exact utf8_lt_of_ne hk hlt
        · exact hd e he

/-- Map `k` to `v`, over whatever `k` was mapped to. -/
def insert (m : TextMap β) (k : String) (v : β) : TextMap β :=
  ⟨insertEntry k v m.entries, sorted_insertEntry m.sorted⟩

/-- Drop the entry of a key. -/
def erase (m : TextMap β) (k : String) : TextMap β :=
  ⟨m.entries.filter (·.1 ≠ k), m.sorted.filter _⟩

/-- The map that a list of entries describes, a later entry over an earlier one of its key. -/
def ofList (es : List (String × β)) : TextMap β :=
  es.foldl (fun m e => m.insert e.1 e.2) empty

/-! ## Look-ups -/

@[simp] theorem get?_empty (k : String) : (empty : TextMap β).get? k = none := rfl

theorem lookup_insertEntry (k j : String) (v : β) (es : List (String × β)) :
    (insertEntry k v es).lookup j = if j = k then some v else es.lookup j := by
  induction es with
  | nil => by_cases h : j = k <;> simp [insertEntry, List.lookup_cons, h, beq_eq_false_iff_ne.2]
  | cons d ds ih =>
    obtain ⟨dk, dv⟩ := d
    simp only [insertEntry]
    split
    · next hk =>
      subst hk
      by_cases h : j = k <;> simp [List.lookup_cons, h, beq_eq_false_iff_ne.2]
    · next hk =>
      split
      · by_cases h : j = k <;> simp [List.lookup_cons, h, beq_eq_false_iff_ne.2]
      · by_cases h : j = dk
        · subst h
          simp [Ne.symm hk]
        · simp [List.lookup_cons, beq_eq_false_iff_ne.2 h, ih]

theorem get?_insert (m : TextMap β) (k j : String) (v : β) :
    (m.insert k v).get? j = if j = k then some v else m.get? j :=
  lookup_insertEntry k j v m.entries

theorem lookup_filter_ne (k j : String) (es : List (String × β)) :
    (es.filter (·.1 ≠ k)).lookup j = if j = k then none else es.lookup j := by
  induction es with
  | nil => simp
  | cons d ds ih =>
    obtain ⟨dk, dv⟩ := d
    by_cases hd : dk = k
    · subst hd
      simp only [ne_eq, not_true_eq_false, decide_false, Bool.false_eq_true, not_false_eq_true,
        List.filter_cons_of_neg, ih]
      by_cases h : j = dk <;> simp [List.lookup_cons, h, beq_eq_false_iff_ne.2]
    · rw [List.filter_cons_of_pos (by simpa using hd)]
      by_cases h : j = dk
      · subst h; simp [hd]
      · simpa [List.lookup_cons, beq_eq_false_iff_ne.2 h] using ih

theorem get?_erase (m : TextMap β) (k j : String) :
    (m.erase k).get? j = if j = k then none else m.get? j :=
  lookup_filter_ne k j m.entries

theorem mem_of_get?_eq_some {m : TextMap β} {k : String} {v : β} (h : m.get? k = some v) :
    (k, v) ∈ m.entries := by
  obtain ⟨es, _⟩ := m
  induction es with
  | nil => simp [get?] at h
  | cons d ds ih =>
    rename_i hs
    obtain ⟨dk, dv⟩ := d
    by_cases hk : k = dk
    · simp_all [get?]
    · simp only [get?, List.lookup_cons, beq_eq_false_iff_ne.2 hk] at h
      exact List.mem_cons_of_mem _ (ih (List.pairwise_cons.1 hs).2 h)

theorem get?_of_mem {m : TextMap β} {k : String} {v : β} (h : (k, v) ∈ m.entries) :
    m.get? k = some v := by
  obtain ⟨es, hs⟩ := m
  induction es with
  | nil => simp at h
  | cons d ds ih =>
    obtain ⟨dk, dv⟩ := d
    obtain ⟨hd, hds⟩ := List.pairwise_cons.1 hs
    rcases List.mem_cons.1 h with h | h
    · cases h; simp [get?]
    · have hne : k ≠ dk := fun e => List.lt_irrefl _ (e ▸ hd _ h)
      simpa [get?, List.lookup_cons, beq_eq_false_iff_ne.2 hne] using ih hds h

theorem get?_eq_some_iff {m : TextMap β} {k : String} {v : β} :
    m.get? k = some v ↔ (k, v) ∈ m.entries :=
  ⟨mem_of_get?_eq_some, get?_of_mem⟩

/-- Two ordered lists with the same members are equal. -/
theorem entries_ext {ms ns : List (String × β)}
    (hms : ms.Pairwise fun a b => utf8 a.1 < utf8 b.1)
    (hns : ns.Pairwise fun a b => utf8 a.1 < utf8 b.1) (h : ∀ e, e ∈ ms ↔ e ∈ ns) : ms = ns := by
  induction ms generalizing ns with
  | nil =>
    cases ns with
    | nil => rfl
    | cons e es => exact absurd ((h e).2 List.mem_cons_self) (by simp)
  | cons d ds ih =>
    cases ns with
    | nil => exact absurd ((h d).1 List.mem_cons_self) (by simp)
    | cons e es =>
      obtain ⟨hd, hds⟩ := List.pairwise_cons.1 hms
      obtain ⟨he, hes⟩ := List.pairwise_cons.1 hns
      have hde : d = e := by
        rcases List.mem_cons.1 ((h d).1 List.mem_cons_self) with h₁ | h₁
        · exact h₁
        · rcases List.mem_cons.1 ((h e).2 List.mem_cons_self) with h₂ | h₂
          · exact h₂.symm
          · exact absurd (List.lt_trans (he d h₁) (hd e h₂)) (List.lt_irrefl _)
      subst hde
      refine congrArg (d :: ·) (ih hds hes fun x => ⟨fun hx => ?_, fun hx => ?_⟩)
      · rcases List.mem_cons.1 ((h x).1 (List.mem_cons_of_mem _ hx)) with h₁ | h₁
        · exact absurd (h₁ ▸ hd x hx) (List.lt_irrefl _)
        · exact h₁
      · rcases List.mem_cons.1 ((h x).2 (List.mem_cons_of_mem _ hx)) with h₁ | h₁
        · exact absurd (h₁ ▸ he x hx) (List.lt_irrefl _)
        · exact h₁

/-- Two maps with the same look-ups are equal. -/
theorem ext_get? {m n : TextMap β} (h : ∀ k, m.get? k = n.get? k) : m = n :=
  ext_entries <| entries_ext m.sorted n.sorted fun ⟨k, v⟩ => by
    rw [← get?_eq_some_iff, ← get?_eq_some_iff, h]

/-- Re-inserting what is already there changes nothing. -/
theorem insert_eq_self {m : TextMap β} {k : String} {v : β} (h : m.get? k = some v) :
    m.insert k v = m :=
  ext_get? fun j => by rw [get?_insert]; split <;> simp_all

/-- Dropping what is not there changes nothing. -/
theorem erase_eq_self {m : TextMap β} {k : String} (h : m.get? k = none) : m.erase k = m :=
  ext_get? fun j => by rw [get?_erase]; split <;> simp_all

end TextMap

end DriverRegistration
