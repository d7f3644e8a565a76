import QueryGateway.Proofs.Config.Entries
import QueryGateway.Proofs.Tree.Fields

/-!
# Locality of readings

What is read at a plain key depends on the field of the key only. So a field can be set without
a change of what is read at the others.
-/

namespace QueryGateway

namespace Path

variable {t t' : Tree} {k : String}

/-- A segment with a plain name leads to the same node where the fields are the same. -/
theorem walk_congr (ht : t ≠ .null) (ht' : t' ≠ .null) (hk : IsPlain k)
    (hfield : t.field? k = t'.field? k) {seg : List Char}
    (hname : seg.takeWhile (· != '[') = k.toList) : walk t [seg] = walk t' [seg] := by
  have hread : Segment.read? seg = some ⟨k, readIndex? (seg.drop k.toList.length)⟩ := by
    rw [Segment.read?, hname, if_neg (by simpa using hk.ne_nil), String.ofList_toList]
  have hchild (n : Tree) (index : Option Nat) : (Segment.mk k index).child? n = n.field? k :=
    if_neg (by simpa using hk.ne_currentNode)
  rw [walk_singleton ht hread, walk_singleton ht' hread, hchild, hchild, hfield]

/-- A plain key leads to the same node where the fields are the same. -/
theorem get_congr (hk : IsPlain k) (hfield : t.field? k = t'.field? k) : get t k = get t' k := by
  rw [get_of_isPlain t hk, get_of_isPlain t' hk, hfield]

/-- So does a plain key with an index. -/
theorem get_itemExpr_congr (ht : t ≠ .null) (ht' : t' ≠ .null) (hk : IsPlain k)
    (hfield : t.field? k = t'.field? k) (i : Nat) :
    get t (Cursor.itemExpr k i) = get t' (Cursor.itemExpr k i) := by
  have hexpr : alternatives k = [] ++ [k.toList] := hk.alternatives_eq
  have hne : Text.trim k.toList ≠ [] := by
    rw [hk.trimmed]
    exact hk.ne_nil
  have hsplit : Text.splitAt '.' (Text.trim k.toList) = [] ++ [k.toList] := hk.splitAt_dot
  have hname : (k.toList ++ bracketed i).takeWhile (· != '[') = k.toList :=
    takeWhile_name hk.no_bracket (by rintro c ⟨⟩; rfl)
  rw [get, get, alternatives_itemExpr hexpr, List.nil_append, firstValue_singleton,
    firstValue_singleton, resolve_bracketed hne hk.trimRight_eq hsplit,
    resolve_bracketed hne hk.trimRight_eq hsplit]
  -- the chain has one segment, before which both trees are where they start
  exact congrArg (andThen · fun node => .ok (nonEmpty node)) (walk_congr ht ht' hk hfield hname)

end Path

namespace View

variable {v w : View} {k : String}

/-- Whether two views are read alike at a key. -/
structure SameAt (v w : View) (k : String) : Prop where
  text : ∀ dflt, v.text k dflt = w.text k dflt
  items : v.items k = w.items k

/-- Views are read alike at a plain key where they have the same field. -/
theorem sameAt_of_field? (hv : v.tree ≠ .null) (hw : w.tree ≠ .null) (hk : Path.IsPlain k)
    (hfield : v.tree.field? k = w.tree.field? k) : SameAt v w k where
  text dflt := by
    rw [View.text, View.text, Path.getText, Path.getText, Path.get_congr hk hfield]
  items := by
    have hsize : v.size k = w.size k := by
      rw [size, size, Path.size, Path.size, Path.get_congr hk hfield]
    have hitem (i : Nat) : v.get (Cursor.itemExpr k i) = w.get (Cursor.itemExpr k i) := by
      rw [View.get, View.get, Path.get_itemExpr_congr hv hw hk hfield]
    rw [View.items, View.items, cursor, cursor, hsize]
    cases w.size k with
    | error e => rfl
    | ok n => exact congrArg Except.ok (List.map_congr_left fun i _ => hitem i)

/-- Setting a field changes nothing at the other plain keys. -/
theorem sameAt_insert (fields : Fields) {key : String} (value : Tree) (hk : Path.IsPlain k)
    (hne : k ≠ key) : SameAt ⟨.map (fields.insert key value)⟩ ⟨.map fields⟩ k :=
  sameAt_of_field? Tree.noConfusion Tree.noConfusion hk (Fields.get?_insert_of_ne hne)

end View

end QueryGateway
