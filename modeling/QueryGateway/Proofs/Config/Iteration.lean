import QueryGateway.Proofs.Path.Indexing

/-!
# Walking lists

A cursor counts the items of the list at an expression and then resolves each of them with
an expression of its own. This module says what a list answers to the same questions, and
for which expressions the two agree: the index behind the expression has to apply to the
list, which it does not if an earlier alternative leads to the list or if the last segment
has an index already.
-/

namespace QueryGateway

namespace Cursor

/-! ## Questions and answers -/

/-- What a cursor can be asked for: the next item, the number of items left, or a restart. -/
inductive Step where
  | next
  | count
  | reset
  deriving DecidableEq, Repr

/-- What a cursor answers. -/
inductive Answer where
  | item (found : Except Path.Failure View)
  | finished
  | left (n : Nat)
  | restarted

/-- The answer of a cursor to a question, and the cursor after it. -/
def step (c : Cursor) : Step → Answer × Cursor
  | .next =>
    match c.next? with
    | some (found, after) => (.item found, after)
    | none => (.finished, c)
  | .count => (.left c.remaining, c)
  | .reset => (.restarted, c.reset)

/-- The answers of a cursor to a sequence of questions. -/
def run (c : Cursor) : List Step → List Answer
  | [] => []
  | s :: steps => (c.step s).1 :: (c.step s).2.run steps

/-- The view of an item. An empty item gives the empty view. -/
def itemView (t : Tree) : View :=
  ⟨(Path.nonEmpty t).getD .null⟩

/-- The answers of a list to a sequence of questions, where some items were taken since the
start or the last restart. -/
def answers (items : List Tree) : Nat → List Step → List Answer
  | _, [] => []
  | taken, .next :: steps =>
    match items[taken]? with
    | some t => .item (.ok (itemView t)) :: answers items (taken + 1) steps
    | none => .finished :: answers items taken steps
  | taken, .count :: steps => .left (items.length - taken) :: answers items taken steps
  | _, .reset :: steps => .restarted :: answers items 0 steps

/-- Whether a cursor at its start gives the answers of a list, whatever it is asked. -/
def Follows (c : Cursor) (items : List Tree) : Prop :=
  ∀ steps, c.run steps = answers items 0 steps

/-- Whether a cursor stands for a list: it has as many items, and each of them is found at
its own expression. -/
structure Represents (c : Cursor) (items : List Tree) : Prop where
  size_eq : c.size = items.length
  get_item : ∀ i, (hi : i < items.length) →
    c.view.get (itemExpr c.expr i) = .ok (itemView items[i])

variable {c : Cursor} {items : List Tree}

/-- A step leaves the list that a cursor stands for. -/
theorem Represents.step (hc : c.Represents items) (s : Step) : (c.step s).2.Represents items := by
  cases s with
  | next =>
    rw [Cursor.step, next?]
    split
    · next found after hnext =>
      split at hnext
      · obtain ⟨-, rfl⟩ := Prod.mk.inj (Option.some.inj hnext)
        exact ⟨hc.size_eq, hc.get_item⟩
      · cases hnext
    · exact hc
  | count => exact hc
  | reset => exact ⟨hc.size_eq, hc.get_item⟩

/-- A cursor gives the answers of the list that it stands for. -/
theorem Represents.run (hc : c.Represents items) (steps : List Step) :
    c.run steps = answers items c.index steps := by
  induction steps generalizing c with
  | nil => rfl
  | cons s steps ih =>
    rw [Cursor.run, ih (hc.step s)]
    cases s with
    | next =>
      by_cases hi : c.index < items.length
      · have hsize : c.index < c.size := by rw [hc.size_eq]; exact hi
        simp [answers, Cursor.step, next?, hsize, hi, hc.get_item]
      · have hsize : ¬ c.index < c.size := by rw [hc.size_eq]; exact hi
        have hnone : items[c.index]? = none := List.getElem?_eq_none (by omega)
        simp [answers, Cursor.step, next?, hsize, hnone]
    | count => simp [answers, Cursor.step, remaining, hc.size_eq]
    | reset => rfl

end Cursor

/-! ## The list at an expression -/

/-- The items of the list at an expression; an absent list has none. -/
def View.itemsAt (v : View) (expr : String) : List Tree :=
  match Path.get v.tree expr with
  | .ok (some (.list items)) => items
  | _ => []

namespace Cursor

variable {v : View} {expr : String} {c : Cursor}

/-- A cursor starts at the first of the items of its list. -/
theorem eq_of_cursor (hcursor : v.cursor expr = .ok c) :
    c = ⟨v, expr, (v.itemsAt expr).length, 0⟩ := by
  rw [View.cursor, View.size, Path.size] at hcursor
  rw [View.itemsAt]
  rcases hget : Path.get v.tree expr with e | _ | t <;> rw [hget] at hcursor
  · cases hcursor
  · exact (Except.ok.inj hcursor).symm
  · cases t with
    | list items => exact (Except.ok.inj hcursor).symm
    | _ => cases hcursor

/-- A list with items is what its expression denotes. -/
theorem get_of_itemsAt (hitems : v.itemsAt expr ≠ []) :
    Path.get v.tree expr = .ok (some (.list (v.itemsAt expr))) := by
  rw [View.itemsAt] at hitems ⊢
  split at hitems
  · next items hget => rw [hget]
  · exact absurd rfl hitems

/-- The view of a list with items is no view of one of its items. -/
theorem itemView_ne {items : List Tree} {t : Tree} (ht : t ∈ items) :
    itemView t ≠ ⟨.list items⟩ := by
  intro h
  have htree : (Path.nonEmpty t).getD .null = .list items := congrArg View.tree h
  rw [Path.nonEmpty] at htree
  split at htree
  · cases htree
  · exact Path.ne_list_of_mem ht htree

/-- **When iteration agrees with resolution.** For an expression that does not end in a
blank, a cursor gives the answers of the list at the expression exactly if that list has no
items or an index that is written behind the expression applies to it. -/
theorem follows_iff_takesIndex (hcursor : v.cursor expr = .ok c)
    (hright : Text.trimRight expr.toList = expr.toList)
    (hlimit : (v.itemsAt expr).length ≤ Path.indexLimit) :
    c.Follows (v.itemsAt expr) ↔ v.itemsAt expr = [] ∨ Path.TakesIndex v.tree expr := by
  have hc := eq_of_cursor hcursor
  constructor
  · intro hrun
    by_cases hitems : v.itemsAt expr = []
    · exact .inl hitems
    · refine .inr (Classical.byContradiction fun htakes => ?_)
      -- the first item would be the list as a whole
      have hfirst : 0 < (v.itemsAt expr).length := List.length_pos_iff.mpr hitems
      have hwhole : v.get (itemExpr expr 0) = .ok ⟨.list (v.itemsAt expr)⟩ := by
        rw [View.get, Path.get_itemExpr_of_not_takesIndex hright (get_of_itemsAt hitems) htakes]
        rfl
      have hnext := hrun [.next]
      simp only [hc, run, step, next?, answers, hfirst, if_pos, hwhole,
        List.getElem?_eq_getElem hfirst, List.cons.injEq, Answer.item.injEq, Except.ok.injEq,
        and_true] at hnext
      exact itemView_ne (List.getElem_mem hfirst) hnext.symm
  · intro h
    have hrepresents : c.Represents (v.itemsAt expr) := by
      rw [hc]
      refine ⟨rfl, fun i hi => ?_⟩
      have hitems : v.itemsAt expr ≠ [] := by
        intro hnil
        rw [hnil] at hi
        cases hi
      have htakes := h.resolve_left hitems
      rw [View.get, Path.get_itemExpr hright (get_of_itemsAt hitems) htakes hi (by omega)]
      rfl
    have hindex : c.index = 0 := by rw [hc]
    intro steps
    rw [hrepresents.run, hindex]

/-- A list behind an absent alternative is walked item by item, and again after a restart. -/
theorem follows_fallback_list :
    let v : View := ⟨.map [("a", .text ""), ("b", .list [.text "x", .list []])]⟩
    ∃ c, v.cursor " a,b" = .ok c ∧ Text.trimRight " a,b".toList = " a,b".toList ∧
      (v.itemsAt " a,b").length ≤ Path.indexLimit ∧ Path.TakesIndex v.tree " a,b" ∧
      c.run [.next, .count, .next, .next, .reset, .next] =
        [.item (.ok ⟨.text "x"⟩), .left 1, .item (.ok ⟨.null⟩), .finished, .restarted,
          .item (.ok ⟨.text "x"⟩)] := by
  intro v
  have hright : Text.trimRight " a,b".toList = " a,b".toList := by decide
  have hlimit : (v.itemsAt " a,b").length ≤ Path.indexLimit := by decide
  have htakes : Path.TakesIndex v.tree " a,b" := by
    refine ⟨?_, by decide⟩
    have halternatives : (Path.alternatives " a,b").dropLast = [" a".toList] := by decide
    rw [halternatives, List.forall_mem_singleton]
    rfl
  refine ⟨_, rfl, hright, hlimit, htakes, ?_⟩
  rw [(follows_iff_takesIndex rfl hright hlimit).mpr (.inr htakes)]
  rfl

/-- Lists that are not walked item by item: one that an earlier alternative leads to, one
behind an index, and one whose expression ends in a blank. -/
theorem not_follows_unindexable :
    let v : View :=
      ⟨.map [("a", .list [.text "x", .text "y"]), ("m", .list [.list [.text "x", .text "y"]])]⟩
    (∃ c, v.cursor "a,b" = .ok c ∧ ¬ c.Follows (v.itemsAt "a,b")) ∧
      (∃ c, v.cursor "m[0]" = .ok c ∧ ¬ c.Follows (v.itemsAt "m[0]")) ∧
      ∃ c, v.cursor "a " = .ok c ∧ ¬ c.Follows (v.itemsAt "a ") := by
  refine ⟨⟨_, rfl, fun h => ?_⟩, ⟨_, rfl, fun h => ?_⟩, ⟨_, rfl, fun h => ?_⟩⟩ <;>
    nomatch h [.next]

end Cursor

end QueryGateway
