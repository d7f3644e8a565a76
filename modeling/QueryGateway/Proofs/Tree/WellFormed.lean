import QueryGateway.Config.View
import QueryGateway.Proofs.Tree.Fields

/-!
# Well-formed trees

In a well-formed tree the keys of every map ascend, so that each key occurs once. What a path
leads to in a well-formed tree is well formed again.
-/

namespace QueryGateway

/-- Whether the keys of every map in a tree ascend. -/
inductive Tree.WellFormed : Tree → Prop
  | null : WellFormed .null
  | bool (b : Bool) : WellFormed (.bool b)
  | int (n : Int) : WellFormed (.int n)
  | real (x : Binary64) : WellFormed (.real x)
  | text (s : String) : WellFormed (.text s)
  | list {items : List Tree} (hitems : ∀ t ∈ items, WellFormed t) : WellFormed (.list items)
  | map {fields : Fields} (hkeys : fields.Ascending) (hvalues : ∀ p ∈ fields, WellFormed p.2) :
      WellFormed (.map fields)

/-- A tree that is neither a list nor a map. -/
def Tree.IsScalar : Tree → Prop
  | .list _ => False
  | .map _ => False
  | _ => True

namespace Tree

/-- Scalars have no keys. -/
theorem IsScalar.wellFormed {t : Tree} (ht : t.IsScalar) : t.WellFormed := by
  cases t with
  | null => exact .null
  | bool b => exact .bool b
  | int n => exact .int n
  | real x => exact .real x
  | text s => exact .text s
  | list items => exact ht.elim
  | map fields => exact ht.elim

namespace WellFormed

variable {t node : Tree} {fields : Fields}

/-- The keys of a well-formed map ascend. -/
theorem ascending (h : (Tree.map fields).WellFormed) : fields.Ascending := by
  cases h with
  | map hkeys _ => exact hkeys

/-- A field of a well-formed tree is well formed. -/
theorem field? (ht : t.WellFormed) {key : String} (h : t.field? key = some node) :
    node.WellFormed := by
  cases ht with
  | map _ hvalues =>
    obtain ⟨front, back, rfl, -⟩ := List.lookup_eq_some_iff.mp h
    exact hvalues (key, node) (List.mem_append_right front List.mem_cons_self)
  | _ => cases h

/-- Setting a key to a well-formed tree keeps a map well formed. -/
theorem insert (h : (Tree.map fields).WellFormed) (key : String) (ht : t.WellFormed) :
    (Tree.map (fields.insert key t)).WellFormed := by
  cases h with
  | map hkeys hvalues =>
    refine .map (hkeys.insert key t) fun p hp => ?_
    rcases Fields.mem_insert hp with rfl | hp
    · exact ht
    · exact hvalues p hp

/-- Setting keys to well-formed trees keeps a map well formed. -/
theorem insertAll {pairs : List (String × Tree)} (hpairs : ∀ p ∈ pairs, p.2.WellFormed)
    (h : (Tree.map fields).WellFormed) : (Tree.map (fields.insertAll pairs)).WellFormed := by
  induction pairs generalizing fields with
  | nil => exact h
  | cons p pairs ih =>
    obtain ⟨hp, hpairs⟩ := List.forall_mem_cons.mp hpairs
    exact ih hpairs (h.insert p.1 hp)

/-- Well-formed trees with keys make a well-formed map. -/
theorem ofList {pairs : List (String × Tree)} (hpairs : ∀ p ∈ pairs, p.2.WellFormed) :
    (Tree.map (Fields.ofList pairs)).WellFormed :=
  insertAll hpairs (.map .nil (by simp))

/-- What an index selects is well formed. -/
theorem select (ht : t.WellFormed) {s : Path.Segment} (h : s.select t = .ok node) :
    node.WellFormed := by
  rw [Path.Segment.select] at h
  split at h
  · obtain rfl := Except.ok.inj h
    exact ht
  · split at h
    · next items =>
      cases ht with
      | list hitems =>
        split at h
        · next item hitem =>
          obtain rfl := Except.ok.inj h
          exact hitems _ (List.mem_of_getElem? hitem)
        · cases h
    · cases h

/-- What a chain of segments leads to is well formed. -/
theorem walk (ht : t.WellFormed) {segments : List (List Char)}
    (h : Path.walk t segments = .ok (some node)) : node.WellFormed := by
  induction segments generalizing t with
  | nil =>
    have hnode : some t = some node := Except.ok.inj (by simpa only [Path.walk] using h)
    obtain rfl := Option.some.inj hnode
    exact ht
  | cons raw rest ih =>
    unfold Path.walk at h
    split at h
    · cases h
    · split at h
      · cases h
      · next s hs =>
        split at h
        · cases h
        · next child hchild =>
          have hwell : child.WellFormed := by
            rw [Path.Segment.child?] at hchild
            split at hchild
            · obtain rfl := Option.some.inj hchild
              exact ht
            · exact ht.field? hchild
          split at h
          · cases h
          · next next hnext => exact ih (hwell.select hnext) h

/-- The value of an alternative is well formed. -/
theorem resolve (ht : t.WellFormed) {alternative : List Char}
    (h : Path.resolve t alternative = .ok (some node)) : node.WellFormed := by
  rw [Path.resolve] at h
  split at h
  · cases h
  · split at h
    · cases h
    · next found hwalk =>
      obtain ⟨n, rfl, hn⟩ := Option.bind_eq_some_iff.mp (Except.ok.inj h)
      rw [Path.nonEmpty] at hn
      split at hn
      · cases hn
      · obtain rfl := Option.some.inj hn
        exact ht.walk hwalk

/-- What an expression denotes in a well-formed tree is well formed. -/
theorem get (ht : t.WellFormed) {expr : String} (h : Path.get t expr = .ok (some node)) :
    node.WellFormed := by
  rw [Path.get] at h
  generalize Path.alternatives expr = alternatives at h
  induction alternatives with
  | nil => cases h
  | cons alternative rest ih =>
    unfold Path.firstValue at h
    split at h
    · cases h
    · next v hv =>
      obtain rfl := Option.some.inj (Except.ok.inj h)
      exact ht.resolve hv
    · exact ih h

end WellFormed

end Tree

/-- A sub-view of a well-formed view is well formed. -/
theorem View.wellFormed_get {v node : View} (hv : v.tree.WellFormed) {expr : String}
    (h : v.get expr = .ok node) : node.tree.WellFormed := by
  rw [View.get] at h
  cases hget : Path.get v.tree expr with
  | error e =>
    rw [hget] at h
    cases h
  | ok found =>
    rw [hget] at h
    obtain rfl := Except.ok.inj h
    cases found with
    | none => exact .null
    | some t => exact hv.get hget

end QueryGateway
