import DriverRegistration.Cluster.Store
import DriverRegistration.Proofs.Cluster.Patch
import DriverRegistration.Proofs.Node.Versions

/-!
# What is asked of the cluster's interface

An `ApiServer` is seen from a single node: the object that it keeps, the versions that the node has
had, and what it makes of a request.  `ApiServer.Lawful` is what a registrar relies on: a merge
patch is taken exactly at the version that it names, and whoever changes the node gives it a version
that it never had.

The node store in front of such a server is then described by its answers alone (`get_missing`,
`get_present`, `update_current`, `update_stale`).
-/

namespace DriverRegistration

/-! ## Targets of requests -/

namespace Uri

theorem inPath_eq (c : Char) :
    inPath c =
      decide (0x20 < c.toNat ∧ c.toNat ≠ 0x7F ∧ c.toNat ≠ 0x60 ∧ c ∉ "#<>?".toList) := by
  rw [Bool.eq_iff_iff]
  simp only [inPath, String.contains_char_eq, Bool.and_eq_true, decide_eq_true_eq,
    Bool.not_eq_true', decide_eq_false_iff_not, and_assoc]

/-- A path is taken apart, also before an empty query. -/
theorem ofPath_append {cs rest : List Char} (h : cs.all inPath = true)
    (hrest : rest = [] ∨ rest = ['?']) : ∃ u, ofPath (cs ++ rest) = .ok u := by
  have hends : ∀ c ∈ cs, (c ≠ '?' && c ≠ '#') = true := by
    intro c hc
    have hin : inPath c = true := List.all_eq_true.1 h c hc
    rw [inPath_eq] at hin
    obtain ⟨-, -, -, hmem⟩ := of_decide_eq_true hin
    rw [Bool.and_eq_true]
    exact ⟨decide_eq_true fun heq => hmem (heq ▸ by decide),
      decide_eq_true fun heq => hmem (heq ▸ by decide)⟩
  have hpath : (cs ++ rest).takeWhile (fun c => c ≠ '?' && c ≠ '#') = cs := by
    rw [List.takeWhile_append_of_pos hends]
    rcases hrest with rfl | rfl <;> simp
  unfold ofPath
  simp only [hpath, List.drop_left, h]
  rcases hrest with rfl | rfl
  · exact ⟨_, rfl⟩
  · exact ⟨_, rfl⟩

theorem parse_of_path {s : String} {c : Char} {cs : List Char} (hs : s.toList = '/' :: c :: cs)
    (hlimit : Text.byteLength s.toList ≤ limit) : parse s = ofPath s.toList := by
  rw [parse, if_neg (Nat.not_lt_of_le hlimit), hs]
  rfl

end Uri

namespace Cluster

open NodeObject (IsNode record withVersion)

variable {σ : Type}

/-! ## Requests that can be made -/

/-- The request that sends a merge patch to a node. -/
def Patches (name : String) (patch : Json.Value) (q : Request) : Prop :=
  ∃ target, targetOf (nodesPath ++ name ++ "?") = .ok target ∧ q = ⟨.patch, target, some patch⟩

/-- A node can be read and written by its name. -/
def Addressable (name : String) : Prop :=
  (∃ q, Request.read name = .ok q) ∧ ∀ patch, ∃ q, Patches name patch q

theorem all_inPath_nodesPath : nodesPath.toList.all Uri.inPath = true := by
  rw [funext Uri.inPath_eq]
  decide

/-- A name whose characters may stand in a path addresses a node, unless it is far too long. -/
theorem addressable_of_inPath {name : String} (hne : name ≠ "")
    (h : name.toList.all Uri.inPath = true)
    (hlimit : Text.byteLength (nodesPath ++ name ++ "?").toList ≤ Uri.limit) :
    Addressable name := by
  have hpath : (nodesPath ++ name).toList.all Uri.inPath = true := by
    rw [String.toList_append, List.all_append, all_inPath_nodesPath, h]
    rfl
  have htarget {rest : String} (hrest : rest.toList = [] ∨ rest.toList = ['?'])
      (hbytes : Text.byteLength (nodesPath ++ name ++ rest).toList ≤ Uri.limit) :
      ∃ target, targetOf (nodesPath ++ name ++ rest) = .ok target := by
    obtain ⟨u, hu⟩ := Uri.ofPath_append hpath hrest
    have hstart : (nodesPath ++ name ++ rest).toList =
        '/' :: 'a' :: ("pi/v1/nodes/".toList ++ name.toList ++ rest.toList) := by
      rw [String.toList_append, String.toList_append]
      rfl
    rw [← String.toList_append, ← Uri.parse_of_path hstart hbytes] at hu
    exact ⟨u.text, by rw [targetOf, hu]; rfl⟩
  have hshorter : Text.byteLength (nodesPath ++ name ++ "").toList ≤ Uri.limit := by
    rw [String.toList_append, Text.byteLength_append] at hlimit
    rw [String.append_empty]
    exact Nat.le_trans (Nat.le_add_right _ _) hlimit
  obtain ⟨target, hread⟩ := @htarget "" (.inl rfl) hshorter
  obtain ⟨target', hwrite⟩ := @htarget "?" (.inr rfl) hlimit
  rw [String.append_empty] at hread
  refine ⟨⟨⟨.get, target, none⟩, ?_⟩, fun patch => ⟨_, target', hwrite, rfl⟩⟩
  rw [Request.read, if_neg hne, hread]
  rfl

theorem Addressable.write {name : String} (h : Addressable name) {r : NodeRecord}
    (hr : r.name = name) : ∃ q, Request.write r = .ok q ∧ Patches name (Request.patchOf r) q := by
  obtain ⟨⟨q, hread⟩, hpatch⟩ := h
  obtain ⟨_, target, htarget, rfl⟩ := hpatch (Request.patchOf r)
  have hname : r.name ≠ "" := by
    intro hempty
    rw [Request.read, if_pos (hr.symm.trans hempty)] at hread
    cases hread
  refine ⟨_, ?_, target, htarget, rfl⟩
  rw [Request.write, if_neg hname, hr, htarget]
  rfl

theorem change_of_read {name : String} {q : Request} (h : Request.read name = .ok q) :
    q.change = none := by
  unfold Request.read at h
  split at h
  · cases h
  · cases htarget : targetOf (nodesPath ++ name) with
    | error f => rw [htarget] at h; cases h
    | ok target => rw [htarget] at h; cases h; rfl

/-! ## A server -/

/-- A server that keeps the object of a node. -/
structure ApiServer (σ : Type) where
  service : Service σ
  node? : σ → Option Json.Value
  /-- The versions that the node has had. -/
  given : σ → String → Prop
  /-- Let another client change the node, and its annotations in some way. -/
  foreign : ForeignWrite → σ → σ

namespace ApiServer

/-- The annotations of the node, none where it has no map of them. -/
def annotations? (server : ApiServer σ) (s : σ) : Option (TextMap String) :=
  (server.node? s).map fun v => (record v).annotations.getD .empty

/-- The answer to a request about a node that is refused with some code. -/
def Refuses (server : ApiServer σ) (q : Request) (s : σ) (code : Nat) : Prop :=
  ∃ document, (server.service q s).1 = .error (.refused document) ∧ document.code = code

/-- What a registrar relies on. -/
structure Lawful (server : ApiServer σ) (name : String) : Prop where
  given_service : ∀ q s token, server.given s token → server.given (server.service q s).2 token
  given_foreign : ∀ w s token, server.given s token → server.given (server.foreign w s) token
  /-- A node that is not there is not found, neither by a read nor by a patch. -/
  missing : ∀ q s, (Request.read name = .ok q ∨ ∃ patch, Patches name patch q) →
    server.node? s = none →
      server.Refuses q s Refusal.missingCode ∧ server.node? (server.service q s).2 = none
  /-- A read answers with an object that shows the node. -/
  read : ∀ q s v, Request.read name = .ok q → server.node? s = some v →
    (∃ shown, (server.service q s).1 = .ok shown ∧ record shown = record v) ∧
      server.node? (server.service q s).2 = some v
  /-- A patch that names the version of the node is merged into it, and gives it a version. -/
  current : ∀ patch q s v token, Patches name patch q → server.node? s = some v →
    (record v).version = some token → (record patch).version = some token →
    IsNode name (v.merge patch) →
      ∃ shown token', (server.service q s).1 = .ok shown ∧
        server.node? (server.service q s).2 = some (withVersion token' (v.merge patch)) ∧
        server.given (server.service q s).2 token' ∧ (v.merge patch ≠ v → ¬ server.given s token')
  /-- A patch that names another version is a conflict. -/
  stale : ∀ patch q s v token token', Patches name patch q → server.node? s = some v →
    (record v).version = some token → (record patch).version = some token' → token' ≠ token →
      server.Refuses q s Refusal.conflictCode ∧ server.node? (server.service q s).2 = some v
  foreign_missing : ∀ w s, server.node? s = none → server.node? (server.foreign w s) = none
  /-- Another client that changes a node gives it a version that it never had. -/
  foreign_present : ∀ w s v, server.node? s = some v → IsNode name v →
    ∃ v' token, server.node? (server.foreign w s) = some v' ∧ IsNode name v' ∧
      (record v').annotations.getD .empty = w ((record v).annotations.getD .empty) ∧
      (record v').version = some token ∧ ¬ server.given s token ∧
      server.given (server.foreign w s) token

/-! ## The store in front of a server -/

/-- The node store that asks a server. -/
def store (server : ApiServer σ) : NodeStore σ := Cluster.store server.service

section Store

variable {server : ApiServer σ} {name : String} {s : σ}

theorem Refuses.storeError {q : Request} {code : Nat} (h : server.Refuses q s code)
    (node : String) :
    ∃ document : ErrorDocument, document.code = code ∧
      meaning node (server.service q s).1 =
        .error ((Refusal.refused document).storeError node) := by
  obtain ⟨document, hanswer, hcode⟩ := h
  exact ⟨document, hcode, by rw [hanswer]; rfl⟩

theorem get_eq {q : Request} (hq : Request.read name = .ok q) :
    server.store.get name s =
      (meaning name (server.service q s).1, (server.service q s).2) := by
  simp only [store, Cluster.store, Service.send, hq]

theorem update_eq {r : NodeRecord} {q : Request} (hq : Request.write r = .ok q) :
    server.store.update r s =
      (meaning r.name (server.service q s).1, (server.service q s).2) := by
  simp only [store, Cluster.store, Service.send, hq]

theorem given_get (h : server.Lawful name) (haddr : Addressable name) {token : String}
    (hgiven : server.given s token) :
    server.given (server.store.get name s).2 token := by
  obtain ⟨q, hq⟩ := haddr.1
  rw [get_eq hq]
  exact h.given_service q s token hgiven

theorem get_missing (h : server.Lawful name) (haddr : Addressable name)
    (hnode : server.node? s = none) :
    (server.store.get name s).1 = .error (.notFound name) ∧
      server.node? (server.store.get name s).2 = none := by
  obtain ⟨q, hq⟩ := haddr.1
  obtain ⟨hrefuses, hnode'⟩ := h.missing q s (.inl hq) hnode
  obtain ⟨document, hcode, hanswer⟩ := hrefuses.storeError name
  rw [get_eq hq, hanswer]
  refine ⟨congrArg Except.error ?_, hnode'⟩
  simp [Refusal.storeError, hcode, Refusal.missingCode, Refusal.conflictCode]

theorem get_present (h : server.Lawful name) (haddr : Addressable name) {v : Json.Value}
    (hnode : server.node? s = some v) :
    (server.store.get name s).1 = .ok (record v) ∧
      server.node? (server.store.get name s).2 = some v := by
  obtain ⟨q, hq⟩ := haddr.1
  obtain ⟨⟨shown, hanswer, hshown⟩, hnode'⟩ := h.read q s v hq hnode
  rw [get_eq hq, hanswer]
  exact ⟨congrArg Except.ok hshown, hnode'⟩

/-- A record that keeps the annotations of the node is written at the version of the node. -/
theorem update_current (h : server.Lawful name) (haddr : Addressable name) {v : Json.Value}
    {r : NodeRecord} {m : TextMap String} {token : String} (hnode : server.node? s = some v)
    (hv : IsNode name v) (htoken : (record v).version = some token) (hname : r.name = name)
    (hm : r.annotations = some m) (hkept : (record v).KeptIn m)
    (hversion : r.version = some token) :
    ∃ r' v' token', (server.store.update r s).1 = .ok r' ∧
      server.node? (server.store.update r s).2 = some v' ∧ IsNode name v' ∧
      (record v').annotations = some m ∧ (record v').version = some token' ∧
      server.given (server.store.update r s).2 token' := by
  obtain ⟨q, hq, hpatch⟩ := haddr.write hname
  have hmerged : IsNode name (v.merge (Request.patchOf r)) := hv.merge_patchOf hm hkept hversion
  have hnamed : (record (Request.patchOf r)).version = some token :=
    (NodeObject.version_record_patchOf r).trans hversion
  obtain ⟨shown, token', hanswer, hnode', hgiven, -⟩ :=
    h.current _ q s v token hpatch hnode htoken hnamed hmerged
  obtain ⟨a, ha, htexts⟩ := NodeObject.texts_merge_patchOf hv hm hkept
  rw [update_eq hq, hanswer]
  refine ⟨_, _, token', rfl, hnode', hmerged.withVersion token', ?_, ?_, hgiven⟩
  · rw [NodeObject.record_withVersion]
    exact NodeObject.annotations_record ha htexts
  · rw [NodeObject.record_withVersion]

/-- A record that was read at another version is not written. -/
theorem update_stale (h : server.Lawful name) (haddr : Addressable name) {v : Json.Value}
    {r : NodeRecord} {token token' : String} (hnode : server.node? s = some v)
    (htoken : (record v).version = some token) (hname : r.name = name)
    (hversion : r.version = some token') (hne : token' ≠ token) :
    (∃ text, (server.store.update r s).1 = .error (.conflict name text)) ∧
      server.node? (server.store.update r s).2 = some v := by
  obtain ⟨q, hq, hpatch⟩ := haddr.write hname
  have hnamed : (record (Request.patchOf r)).version = some token' :=
    (NodeObject.version_record_patchOf r).trans hversion
  obtain ⟨hrefuses, hnode'⟩ := h.stale _ q s v token token' hpatch hnode htoken hnamed hne
  obtain ⟨document, hcode, hanswer⟩ := hrefuses.storeError r.name
  rw [update_eq hq, hanswer]
  refine ⟨⟨document.message, congrArg Except.error ?_⟩, hnode'⟩
  simp [Refusal.storeError, hcode, hname]

theorem given_update (h : server.Lawful name) (haddr : Addressable name) {r : NodeRecord}
    (hname : r.name = name) {token : String} (hgiven : server.given s token) :
    server.given (server.store.update r s).2 token := by
  obtain ⟨q, hq, -⟩ := haddr.write hname
  rw [update_eq hq]
  exact h.given_service q s token hgiven

end Store

/-! ## A server that counts -/

/-- An object with other annotations. -/
def withAnnotations (m : TextMap String) (v : Json.Value) : Json.Value :=
  (v.merge (NodeObject.ofMetadata [("annotations", .null)])).merge
    (NodeObject.ofMetadata [("annotations", .ofTextMap m)])

theorem meta?_withAnnotations_of_ne (m : TextMap String) (v : Json.Value) {k : String}
    (hk : k ≠ "annotations") :
    NodeObject.meta? (withAnnotations m v) k = NodeObject.meta? v k := by
  rw [withAnnotations, NodeObject.meta?_merge_ofMetadata (by simp),
    NodeObject.meta?_merge_ofMetadata (by simp), List.lookup_cons, beq_eq_false_iff_ne.2 hk,
    List.lookup_cons, beq_eq_false_iff_ne.2 hk]
  rfl

theorem texts_withAnnotations (m : TextMap String) (v : Json.Value) :
    ∃ a, NodeObject.meta? (withAnnotations m v) "annotations" = some a ∧ a.Texts m := by
  refine ⟨Json.Value.null.merge (.ofTextMap m), ?_,
    Json.Value.texts_merge (v := .null) List.nodup_nil fun k hk => absurd rfl hk⟩
  rw [withAnnotations, NodeObject.meta?_merge_ofMetadata (by simp),
    NodeObject.meta?_merge_ofMetadata (by simp)]
  rfl

theorem isNode_withAnnotations {name : String} {v : Json.Value} (h : IsNode name v)
    (m : TextMap String) : IsNode name (withAnnotations m v) where
  name := (meta?_withAnnotations_of_ne m v (by decide)).trans h.name
  version := by
    rw [meta?_withAnnotations_of_ne m v (by decide)]
    exact h.version
  annotations := by
    obtain ⟨a, ha, htexts⟩ := texts_withAnnotations m v
    exact .inr (.inr ⟨a, m, ha, htexts⟩)

/-- A server that numbers the changes of its node. -/
def counting : ApiServer (Option Json.Value × Nat) where
  service q s :=
    match s.1, q.change with
    | none, _ => (.error (.refused ⟨"Failure", "no such node", "NotFound", Refusal.missingCode⟩), s)
    | some v, none => (.ok v, s)
    | some v, some patch =>
      if (record patch).version = (record v).version then
        let v' := withVersion (toString (s.2 + 1)) (v.merge patch)
        (.ok v', some v', s.2 + 1)
      else (.error (.refused ⟨"Failure", "modified", "Conflict", Refusal.conflictCode⟩), s)
  node? s := s.1
  given s token := ∃ i ≤ s.2, token = toString i
  foreign write s :=
    match s.1 with
    | none => s
    | some v =>
      (some (withVersion (toString (s.2 + 1))
        (withAnnotations (write ((record v).annotations.getD .empty)) v)), s.2 + 1)

theorem not_given_counting (s : Option Json.Value × Nat) :
    ¬ counting.given s (toString (s.2 + 1)) := by
  rintro ⟨i, hi, heq⟩
  have hsame : s.2 + 1 = i := toString_nat_inj heq
  omega

theorem lawful_counting (name : String) : counting.Lawful name where
  given_service q s token h := by
    obtain ⟨i, hi, rfl⟩ := h
    obtain ⟨node, changes⟩ := s
    unfold counting
    dsimp only
    split
    · exact ⟨i, hi, rfl⟩
    · exact ⟨i, hi, rfl⟩
    · split
      · exact ⟨i, Nat.le_succ_of_le hi, rfl⟩
      · exact ⟨i, hi, rfl⟩
  given_foreign write s token h := by
    obtain ⟨i, hi, rfl⟩ := h
    obtain ⟨node, changes⟩ := s
    cases node with
    | none => exact ⟨i, hi, rfl⟩
    | some v => exact ⟨i, Nat.le_succ_of_le hi, rfl⟩
  missing q s _ hnode := by
    obtain ⟨node, changes⟩ := s
    obtain rfl : node = none := hnode
    exact ⟨⟨_, rfl, rfl⟩, rfl⟩
  read q s v hq hnode := by
    obtain ⟨node, changes⟩ := s
    obtain rfl : node = some v := hnode
    simp only [counting, change_of_read hq]
    exact ⟨⟨v, rfl, rfl⟩, trivial⟩
  current patch q s v token hq hnode hversion hnamed _ := by
    obtain ⟨node, changes⟩ := s
    obtain rfl : node = some v := hnode
    obtain ⟨target, -, rfl⟩ := hq
    refine ⟨withVersion (toString (changes + 1)) (v.merge patch), toString (changes + 1), ?_, ?_,
      ?_, fun _ => not_given_counting (some v, changes)⟩
    · simp only [counting, hnamed, hversion, if_true]
    · simp only [counting, hnamed, hversion, if_true]
    · simp only [counting, hnamed, hversion, if_true]
      exact ⟨changes + 1, Nat.le_refl _, rfl⟩
  stale patch q s v token token' hq hnode hversion hnamed hne := by
    obtain ⟨node, changes⟩ := s
    obtain rfl : node = some v := hnode
    obtain ⟨target, -, rfl⟩ := hq
    have hdiffer : (record patch).version ≠ (record v).version := by
      rw [hversion, hnamed]
      exact fun heq => hne (Option.some.inj heq)
    simp only [Refuses, counting, hdiffer, if_false]
    exact ⟨⟨_, rfl, rfl⟩, trivial⟩
  foreign_missing write s hnode := by
    obtain ⟨node, changes⟩ := s
    obtain rfl : node = none := hnode
    rfl
  foreign_present write s v hnode hv := by
    obtain ⟨node, changes⟩ := s
    obtain rfl : node = some v := hnode
    obtain ⟨a, ha, htexts⟩ := texts_withAnnotations (write ((record v).annotations.getD .empty)) v
    refine ⟨_, toString (changes + 1), rfl, (isNode_withAnnotations hv _).withVersion _, ?_, ?_,
      not_given_counting (some v, changes), changes + 1, Nat.le_refl _, rfl⟩
    · rw [NodeObject.record_withVersion, NodeObject.annotations_record ha htexts]
      rfl
    · rw [NodeObject.record_withVersion]

end ApiServer

end Cluster

end DriverRegistration
