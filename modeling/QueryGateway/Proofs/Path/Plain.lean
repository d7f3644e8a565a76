import QueryGateway.Proofs.Path.Indexing

/-!
# Plain keys

A key that has none of the marks of path expressions is the path to its own field. Where it
leads to an empty node, its text is empty.
-/

namespace QueryGateway

namespace Path

/-- An expression that is a key as it stands. -/
structure IsPlain (e : String) : Prop extends IsChain e where
  no_dot : '.' ∉ e.toList
  no_bracket : '[' ∉ e.toList
  ne_currentNode : e ≠ currentNode

instance (e : String) : Decidable (IsPlain e) :=
  decidable_of_iff
    ((e.toList ≠ [] ∧ ',' ∉ e.toList ∧ Text.trim e.toList = e.toList) ∧
      '.' ∉ e.toList ∧ '[' ∉ e.toList ∧ e ≠ currentNode)
    ⟨fun ⟨⟨hne, hcomma, htrim⟩, hdot, hbracket, hcurrent⟩ =>
      ⟨⟨hne, hcomma, htrim⟩, hdot, hbracket, hcurrent⟩,
    fun h => ⟨⟨h.ne_nil, h.no_comma, h.trimmed⟩, h.no_dot, h.no_bracket, h.ne_currentNode⟩⟩

/-- A plain key leads to its field, unless that is empty. -/
theorem get_of_isPlain (t : Tree) {k : String} (hk : IsPlain k) :
    get t k = .ok ((t.field? k).bind nonEmpty) := by
  have hread : Segment.read? k.toList = some ⟨k, none⟩ := by
    rw [read?_of_notMem hk.ne_nil hk.no_bracket, String.ofList_toList]
  have hchild : (Segment.mk k none).child? t = t.field? k :=
    if_neg (by simpa using hk.ne_currentNode)
  rw [get_of_isChain t hk.toIsChain, Text.splitAt_of_notMem hk.no_dot]
  by_cases hnull : t = .null
  · subst hnull
    rfl
  · rw [walk_singleton hnull hread, hchild]
    cases t.field? k <;> rfl

/-- The text of a value: the empty one for an empty value, and for none. -/
def valueText : Option Tree → String
  | none => ""
  | some t => if t.isEmpty then "" else t.toText

end Path

/-- A plain key has the text of its field. -/
theorem View.text_of_isPlain (v : View) {k : String} (hk : Path.IsPlain k) :
    v.text k "" = Path.valueText (v.tree.field? k) := by
  rw [View.text, Path.getText, Path.get_of_isPlain v.tree hk]
  cases v.tree.field? k with
  | none => rfl
  | some t =>
    cases hnode : t.isEmpty <;> simp [Path.nonEmpty, Path.valueText, Except.map, hnode]

end QueryGateway
