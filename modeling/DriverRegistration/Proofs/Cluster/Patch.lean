import DriverRegistration.Cluster.NodeObject
import DriverRegistration.Cluster.Request
import DriverRegistration.Proofs.Json.MergePatch
import DriverRegistration.Proofs.Reconcile.Proposal

/-!
# Node objects under the patches of an edit

The patch that writes a record touches two members of the metadata of a node, the annotations and
the version.  A merge never drops an annotation that the patch does not name, but what an edit
proposes names every annotation of the record that it was made from (`EditTask.keeps_proposal`).
The object with the patch merged into it therefore holds exactly the proposed annotations
(`texts_merge_patchOf`), as if they had been replaced.
-/

namespace DriverRegistration

open Json.Value (patched)

/-! ## What an edit proposes -/

/-- Every annotation of a record has a value among some others. -/
def NodeRecord.KeptIn (r : NodeRecord) (m : TextMap String) : Prop :=
  ∀ k, (r.annotations.getD .empty).get? k ≠ none → m.get? k ≠ none

theorem keys_rebind (annotations : Option (TextMap String)) (key value k : String)
    (h : (annotations.getD .empty).get? k ≠ none) :
    (rebind annotations key value).get? k ≠ none := by
  rw [get?_rebind_ite]
  split
  · exact Option.some_ne_none value
  · exact h

/-- A proposal has the name and the version of the record, and keeps every annotation. -/
theorem EditTask.keeps_proposal {t : EditTask} {r w : NodeRecord}
    (h : t.proposal r = .ok (some w)) :
    w.name = r.name ∧ w.version = r.version ∧ ∃ m, w.annotations = some m ∧ r.KeptIn m := by
  obtain ⟨m, -, -, rfl⟩ := proposal_eq_some_iff.1 h
  exact ⟨rfl, rfl, _, rfl, keys_rebind r.annotations t.key _⟩

namespace Cluster.NodeObject

/-! ## Members of the metadata -/

def meta? (v : Json.Value) (k : String) : Option Json.Value :=
  (v.get? "metadata").bind (·.get? k)

theorem record_eq (v : Json.Value) :
    record v = ⟨((meta? v "name").bind (·.text?)).getD "",
      (meta? v "annotations").bind (·.textMap?), (meta? v "resourceVersion").bind (·.text?)⟩ := rfl

/-- The object of a node: it has the name and some version, and its annotations, where there are
any, are texts.  All its other members are arbitrary. -/
structure IsNode (name : String) (v : Json.Value) : Prop where
  name : meta? v "name" = some (.text name)
  version : ∃ token, meta? v "resourceVersion" = some (.text token)
  annotations : meta? v "annotations" = none ∨ meta? v "annotations" = some .null ∨
    ∃ a m, meta? v "annotations" = some a ∧ a.Texts m

section IsNode

variable {name : String} {v : Json.Value}

theorem IsNode.record_name (h : IsNode name v) : (record v).name = name := by
  rw [record_eq, h.name]
  rfl

theorem version_record {token : String} (h : meta? v "resourceVersion" = some (.text token)) :
    (record v).version = some token := by
  rw [record_eq, h]
  rfl

theorem IsNode.record_version (h : IsNode name v) : ∃ token, (record v).version = some token := by
  obtain ⟨token, htoken⟩ := h.version
  exact ⟨token, version_record htoken⟩

theorem annotations_record {a : Json.Value} {m : TextMap String}
    (ha : meta? v "annotations" = some a) (htexts : a.Texts m) :
    (record v).annotations = some m := by
  rw [record_eq, ha]
  exact htexts.textMap?

/-- The annotations of a node as members, none where there is no object of them. -/
theorem IsNode.members_annotations (h : IsNode name v) :
    ((((meta? v "annotations").getD .null).members).map Prod.fst).Nodup ∧
      ∀ k, ((meta? v "annotations").getD .null).get? k =
        (((record v).annotations.getD .empty).get? k).map .text := by
  rcases h.annotations with ha | ha | ⟨a, m, ha, htexts⟩
  · rw [record_eq, ha]
    exact ⟨List.nodup_nil, fun k => rfl⟩
  · rw [record_eq, ha]
    exact ⟨List.nodup_nil, fun k => rfl⟩
  · rw [annotations_record ha htexts, ha]
    exact ⟨htexts.nodup_members, htexts.get?⟩

end IsNode

/-! ## Patches of the metadata -/

/-- A patch of members of the metadata. -/
def ofMetadata (ps : List (String × Json.Value)) : Json.Value := .object [("metadata", .object ps)]

theorem get?_merge_ofMetadata (ps : List (String × Json.Value)) (v : Json.Value) {k : String}
    (hk : k ≠ "metadata") : (v.merge (ofMetadata ps)).get? k = v.get? k := by
  have hskip : [("metadata", Json.Value.object ps)].lookup k = none := by
    rw [List.lookup_cons, beq_eq_false_iff_ne.2 hk]
    rfl
  rw [ofMetadata, Json.Value.get?_merge_object (by simp), hskip]
  rfl

theorem meta?_merge_ofMetadata {ps : List (String × Json.Value)} (hps : (ps.map Prod.fst).Nodup)
    (v : Json.Value) (k : String) :
    meta? (v.merge (ofMetadata ps)) k = patched (meta? v k) (ps.lookup k) := by
  have hinner : (v.merge (ofMetadata ps)).get? "metadata" =
      some (((v.get? "metadata").getD .null).merge (.object ps)) := by
    rw [ofMetadata, Json.Value.get?_merge_object (by simp), List.lookup_cons_self]
    rfl
  have hold : ((v.get? "metadata").getD .null).get? k = meta? v k := by
    rw [meta?]
    cases v.get? "metadata" with
    | none => rfl
    | some _ => rfl
  rw [meta?, hinner, Option.bind_some, Json.Value.get?_merge_object hps, hold]

/-- An object at another version. -/
def withVersion (token : String) (v : Json.Value) : Json.Value :=
  v.merge (ofMetadata [("resourceVersion", .text token)])

theorem meta?_withVersion (token : String) (v : Json.Value) :
    meta? (withVersion token v) "resourceVersion" = some (.text token) := by
  rw [withVersion, meta?_merge_ofMetadata (by simp), List.lookup_cons_self]
  rfl

theorem meta?_withVersion_of_ne (token : String) (v : Json.Value) {k : String}
    (hk : k ≠ "resourceVersion") : meta? (withVersion token v) k = meta? v k := by
  rw [withVersion, meta?_merge_ofMetadata (by simp), List.lookup_cons, beq_eq_false_iff_ne.2 hk]
  rfl

theorem record_withVersion (token : String) (v : Json.Value) :
    record (withVersion token v) = { record v with version := some token } := by
  rw [record_eq, meta?_withVersion, meta?_withVersion_of_ne token v (by decide),
    meta?_withVersion_of_ne token v (by decide)]
  rfl

theorem IsNode.withVersion {name : String} {v : Json.Value} (h : IsNode name v) (token : String) :
    IsNode name (withVersion token v) where
  name := (meta?_withVersion_of_ne token v (by decide)).trans h.name
  version := ⟨token, meta?_withVersion token v⟩
  annotations := by
    rw [meta?_withVersion_of_ne token v (by decide)]
    exact h.annotations

/-! ## The patch of a record -/

section Record

variable {name : String} {v : Json.Value} {r : NodeRecord} {m : TextMap String} {token : String}

theorem patchOf_eq (r : NodeRecord) :
    Request.patchOf r = ofMetadata
      [("annotations", .ofTextMap? r.annotations), ("resourceVersion", .ofText? r.version)] := rfl

theorem meta?_merge_patchOf (r : NodeRecord) (v : Json.Value) (k : String) :
    meta? (v.merge (Request.patchOf r)) k = patched (meta? v k)
      ([("annotations", .ofTextMap? r.annotations),
        ("resourceVersion", .ofText? r.version)].lookup k) := by
  rw [patchOf_eq, meta?_merge_ofMetadata (by simp)]

theorem get?_merge_patchOf_of_ne (r : NodeRecord) (v : Json.Value) {k : String}
    (hk : k ≠ "metadata") : (v.merge (Request.patchOf r)).get? k = v.get? k := by
  rw [patchOf_eq, get?_merge_ofMetadata _ v hk]

theorem meta?_merge_patchOf_of_ne (r : NodeRecord) (v : Json.Value) {k : String}
    (ha : k ≠ "annotations") (hv : k ≠ "resourceVersion") :
    meta? (v.merge (Request.patchOf r)) k = meta? v k := by
  rw [meta?_merge_patchOf, List.lookup_cons, beq_eq_false_iff_ne.2 ha, List.lookup_cons,
    beq_eq_false_iff_ne.2 hv]
  rfl

theorem meta?_merge_patchOf_version (hv : r.version = some token) (v : Json.Value) :
    meta? (v.merge (Request.patchOf r)) "resourceVersion" = some (.text token) := by
  rw [meta?_merge_patchOf, hv]
  rfl

/-- The annotations of a node with a record merged into it are those of the record, if the record
kept those of the node. -/
theorem texts_merge_patchOf (h : IsNode name v) (hm : r.annotations = some m)
    (hkept : (record v).KeptIn m) :
    ∃ a, meta? (v.merge (Request.patchOf r)) "annotations" = some a ∧ a.Texts m := by
  obtain ⟨hnodup, hget⟩ := h.members_annotations
  refine ⟨((meta? v "annotations").getD .null).merge (.ofTextMap m), ?_,
    Json.Value.texts_merge hnodup fun k hk => hkept k ?_⟩
  · rw [meta?_merge_patchOf, hm, List.lookup_cons_self]
    rfl
  · rw [hget] at hk
    exact fun hnone => hk (by rw [hnone]; rfl)

theorem IsNode.merge_patchOf (h : IsNode name v) (hm : r.annotations = some m)
    (hkept : (record v).KeptIn m) (hv : r.version = some token) :
    IsNode name (v.merge (Request.patchOf r)) where
  name := (meta?_merge_patchOf_of_ne r v (by decide) (by decide)).trans h.name
  version := ⟨token, meta?_merge_patchOf_version hv v⟩
  annotations := by
    obtain ⟨a, ha, htexts⟩ := texts_merge_patchOf h hm hkept
    exact .inr (.inr ⟨a, m, ha, htexts⟩)

/-- The version that a patch names is the one that the record was read at. -/
theorem version_record_patchOf (r : NodeRecord) :
    (record (Request.patchOf r)).version = r.version := by
  cases hv : r.version with
  | none =>
    rw [record_eq, patchOf_eq, hv]
    rfl
  | some token =>
    rw [record_eq, patchOf_eq, hv]
    rfl

end Record

end Cluster.NodeObject

end DriverRegistration
