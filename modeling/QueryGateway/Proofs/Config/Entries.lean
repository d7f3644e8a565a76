import QueryGateway.Proofs.Config.Iteration
import QueryGateway.Proofs.Endpoint.Built
import QueryGateway.Proofs.Path.Plain

/-!
# Lists of entries

Several settings of an endpoint are lists of short texts, which are read item by item. At a
plain key, the texts that are read are those of the items of the list, in their order.
-/

namespace QueryGateway

namespace Path

variable {k : String}

/-- A plain key has one alternative with one segment. -/
theorem IsPlain.splitAt_dot (hk : IsPlain k) :
    Text.splitAt '.' (Text.trim k.toList) = [k.toList] := by
  rw [hk.trimmed, Text.splitAt_of_notMem hk.no_dot]

/-- A plain key is its only alternative. -/
theorem IsPlain.alternatives_eq (hk : IsPlain k) : alternatives k = [k.toList] :=
  Text.splitAt_of_notMem hk.no_comma

/-- A plain key does not end in a blank. -/
theorem IsPlain.trimRight_eq (hk : IsPlain k) : Text.trimRight k.toList = k.toList := by
  have hlast := (Text.trim_eq_self_iff.mp hk.trimmed).2
  exact Text.trimRight_eq_self_iff.mpr hlast

/-- An index behind a plain key applies to the list of the key. -/
theorem IsPlain.takesIndex (hk : IsPlain k) (t : Tree) : TakesIndex t k where
  earlier := by simp [hk.alternatives_eq]
  unbracketed := by
    have hlast : lastSegment k = k.toList := by
      simp [lastSegment, hk.alternatives_eq, hk.splitAt_dot]
    rw [hlast]
    exact hk.no_bracket

/-- The text of a node at the expression for the node itself. -/
theorem text_currentNode (t : Tree) : View.text ⟨t⟩ currentNode "" = valueText (some t) := by
  have hget : get t currentNode = .ok (nonEmpty t) := by
    have hchain : IsChain currentNode := ⟨by decide, by decide, by decide⟩
    have hread : Segment.read? currentNode.toList = some ⟨currentNode, none⟩ := by decide
    rw [get_of_isChain t hchain, Text.splitAt_of_notMem (by decide)]
    by_cases hnull : t = .null
    · subst hnull
      rfl
    · rw [walk_singleton hnull hread]
      rfl
  rw [View.text, getText, hget]
  cases hempty : t.isEmpty <;> simp [nonEmpty, valueText, Except.map, hempty]

end Path

namespace View

variable {v : View} {k : String}

/-- The texts of the items of the list at a key. -/
def entriesAt (v : View) (k : String) : List String :=
  (v.itemsAt k).map fun t => Path.valueText (some t)

/-- The items at a plain key are the views of the items of its list. -/
theorem items_of_isPlain (hk : Path.IsPlain k) (hlimit : (v.itemsAt k).length ≤ Path.indexLimit)
    {items : List (Except Path.Failure View)} (hitems : v.items k = .ok items) :
    items = (v.itemsAt k).map fun t => .ok (Cursor.itemView t) := by
  obtain ⟨c, hcursor, rfl⟩ := exists_of_map_eq_ok hitems
  obtain rfl := Cursor.eq_of_cursor hcursor
  rw [Cursor.items]
  apply List.ext_getElem
  · simp [Cursor.remaining]
  · intro i hi _
    have hi : i < (v.itemsAt k).length := by simpa [Cursor.remaining] using hi
    have hne : v.itemsAt k ≠ [] := by
      intro hnil
      rw [hnil] at hi
      cases hi
    have hget := Path.get_itemExpr hk.trimRight_eq (Cursor.get_of_itemsAt hne)
      (hk.takesIndex v.tree) hi (by omega)
    simp [View.get, hget, Cursor.itemView, Except.map]

end View

/-- The text of the view of an item. -/
theorem Cursor.text_itemView (t : Tree) :
    (itemView t).text Path.currentNode "" = Path.valueText (some t) := by
  have hnull : Tree.null.isEmpty = true := rfl
  rw [itemView, Path.text_currentNode]
  cases hempty : t.isEmpty <;> simp [Path.nonEmpty, Path.valueText, hempty, hnull]

namespace Endpoint

/-- What is read of the items at a plain key is read of their texts, one after the other. -/
theorem mapM_of_readItems {α : Type} {v : View} {k : String} (hk : Path.IsPlain k)
    (hlimit : (v.itemsAt k).length ≤ Path.indexLimit) {read : String → Except ConfigFailure α}
    {values : List α} (h : readItems v k read = .ok values) :
    (v.entriesAt k).mapM read = .ok values := by
  obtain ⟨items, hitems, hread⟩ := exists_of_bind_eq_ok h
  obtain rfl := View.items_of_isPlain hk hlimit (eq_ok_of_mapError hitems)
  rw [View.entriesAt, List.mapM_map]
  rw [List.mapM_map] at hread
  refine Eq.trans (congrArg (fun f => (v.itemsAt k).mapM f) (funext fun t => ?_)) hread
  exact congrArg read (Cursor.text_itemView t).symm

end Endpoint

end QueryGateway
