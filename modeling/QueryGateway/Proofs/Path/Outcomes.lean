import Mathlib.Data.List.Forall2
import QueryGateway.Proofs.Path.Steps

/-!
# Outcomes of path expressions

The outcome of an expression is a fact about the tree. A value is the node that the steps of an
alternative lead to, a failure is an index that does not fit the node it is applied to, and all
alternatives before that one are absent: each leads to an empty node or meets a dead end.
-/

namespace QueryGateway.Path

/-! ## Chains of segments -/

/-- The texts of the segments of an alternative. -/
def chain (alternative : List Char) : List (List Char) :=
  Text.splitAt '.' (Text.trim alternative)

/-- The steps of a chain of segments lead to a node. -/
def LeadsTo (t : Tree) (raws : List (List Char)) (node : Tree) : Prop :=
  ∃ segments : List Segment, List.Forall₂ Segment.WrittenAs segments raws ∧
    t.descend? (segments.flatMap Segment.steps) = some node

/-- A chain leads to no value: to an empty node, or to a dead end. -/
inductive IsAbsent (t : Tree) (raws : List (List Char)) : Prop
  | atEmpty {node : Tree} (hnode : LeadsTo t raws node) (hempty : node ∈ Tree.emptyNodes)
  | atDeadEnd {before after : List (List Char)} {raw : List Char} {node : Tree}
    (hraws : raws = before ++ raw :: after) (hnode : LeadsTo t before node)
    (hend : DeadEnd node raw)

/-- A chain fails at the index of one of its segments. -/
def FailsWith (t : Tree) (raws : List (List Char)) (f : Failure) : Prop :=
  ∃ before raw after node, raws = before ++ raw :: after ∧ LeadsTo t before node ∧
    Misstep node raw f

section

variable {t node next : Tree} {raw : List Char} {raws : List (List Char)} {s : Segment}
  {f : Failure}

theorem leadsTo_nil (t : Tree) : LeadsTo t [] t :=
  ⟨[], .nil, rfl⟩

/-- A chain leads on from the node that its first segment leads to. -/
theorem leadsTo_cons_iff : LeadsTo t (raw :: raws) node ↔
    ∃ (s : Segment) (next : Tree), s.WrittenAs raw ∧ t.descend? s.steps = some next ∧
      LeadsTo next raws node := by
  constructor
  · rintro ⟨segments, hsegments, hnode⟩
    cases hsegments with
    | @cons s _ segments _ hs hsegments =>
      rw [List.flatMap_cons, Tree.descend?_append] at hnode
      obtain ⟨next, hnext, hrest⟩ := Option.bind_eq_some_iff.mp hnode
      exact ⟨s, next, hs, hnext, segments, hsegments, hrest⟩
  · rintro ⟨s, next, hs, hnext, segments, hsegments, hnode⟩
    refine ⟨s :: segments, .cons hs hsegments, ?_⟩
    rw [List.flatMap_cons, Tree.descend?_append, hnext]
    exact hnode

theorem LeadsTo.cons (hs : s.WrittenAs raw) (hnext : t.descend? s.steps = some next)
    (hnode : LeadsTo next raws node) : LeadsTo t (raw :: raws) node :=
  leadsTo_cons_iff.mpr ⟨s, next, hs, hnext, hnode⟩

theorem IsAbsent.cons (hs : s.WrittenAs raw) (hnext : t.descend? s.steps = some next)
    (h : IsAbsent next raws) : IsAbsent t (raw :: raws) := by
  cases h with
  | atEmpty hnode hempty => exact .atEmpty (hnode.cons hs hnext) hempty
  | atDeadEnd hraws hnode hend =>
    exact .atDeadEnd (by rw [hraws, List.cons_append]) (hnode.cons hs hnext) hend

theorem FailsWith.cons (hs : s.WrittenAs raw) (hnext : t.descend? s.steps = some next)
    (h : FailsWith next raws f) : FailsWith t (raw :: raws) f := by
  obtain ⟨before, failing, after, node, rfl, hnode, hf⟩ := h
  exact ⟨raw :: before, failing, after, node, rfl, hnode.cons hs hnext, hf⟩

/-- Each chain leads to a value, is absent or fails. -/
theorem chain_cases (t : Tree) (raws : List (List Char)) :
    (∃ node, LeadsTo t raws node ∧ node ∉ Tree.emptyNodes) ∨ IsAbsent t raws ∨
      ∃ f, FailsWith t raws f := by
  induction raws generalizing t with
  | nil =>
    by_cases hempty : t ∈ Tree.emptyNodes
    · exact .inr (.inl (.atEmpty (leadsTo_nil t) hempty))
    · exact .inl ⟨t, leadsTo_nil t, hempty⟩
  | cons raw raws ih =>
    rcases step_cases t raw with ⟨-, s, next, hs, hnext⟩ | hend | ⟨f, hf⟩
    · rcases ih next with ⟨node, hnode, hempty⟩ | habsent | ⟨f, hf⟩
      · exact .inl ⟨node, hnode.cons hs hnext, hempty⟩
      · exact .inr (.inl (habsent.cons hs hnext))
      · exact .inr (.inr ⟨f, hf.cons hs hnext⟩)
    · exact .inr (.inl (.atDeadEnd (List.nil_append _).symm (leadsTo_nil t) hend))
    · exact .inr (.inr ⟨f, [], raw, raws, t, rfl, leadsTo_nil t, hf⟩)

/-! ## The value of a chain -/

/-- The value at the end of a chain: its node, unless that is empty. -/
def chainValue (t : Tree) (raws : List (List Char)) : Except Failure (Option Tree) :=
  andThen (walk t raws) fun node => .ok (nonEmpty node)

/-- The value of an alternative is that of its chain. -/
theorem resolve_trim (t : Tree) (alternative : List Char) :
    resolve t (Text.trim alternative) = chainValue t (chain alternative) := by
  by_cases hnil : Text.trim alternative = []
  · -- the only segment of a blank alternative has no name
    have hend : DeadEnd t [] := .unnamed (by simp)
    have hchain : chain alternative = [[]] := by
      rw [chain, hnil]
      rfl
    rw [hnil, hchain, chainValue, walk_cons_of_deadEnd hend]
    rfl
  · exact resolve_of_ne_nil t hnil

/-- A walk ends where the steps of its chain lead. At null it may end before. -/
theorem walk_of_leadsTo (h : LeadsTo t raws node) :
    walk t raws = .ok (some node) ∨ node = .null ∧ walk t raws = .ok none := by
  induction raws generalizing t with
  | nil =>
    obtain ⟨segments, hsegments, hnode⟩ := h
    cases hsegments
    exact .inl (congrArg Except.ok hnode)
  | cons raw raws ih =>
    by_cases ht : t = .null
    · subst ht
      obtain ⟨segments, -, hnode⟩ := h
      exact .inr ⟨Tree.eq_null_of_descend? hnode, rfl⟩
    · obtain ⟨s, next, hs, hnext, hrest⟩ := leadsTo_cons_iff.mp h
      rw [walk_cons_of_descend? ht hs hnext]
      exact ih hrest

/-- The value of a chain whose steps lead to a node. -/
theorem chainValue_of_leadsTo (h : LeadsTo t raws node) :
    chainValue t raws = .ok (nonEmpty node) := by
  rw [chainValue]
  rcases walk_of_leadsTo h with hwalk | ⟨rfl, hwalk⟩
  · rw [hwalk]
    rfl
  · rw [hwalk]
    rfl

theorem nonEmpty_of_mem (h : node ∈ Tree.emptyNodes) : nonEmpty node = none :=
  if_pos (Tree.isEmpty_iff_mem.mpr h)

theorem nonEmpty_of_notMem (h : node ∉ Tree.emptyNodes) : nonEmpty node = some node :=
  if_neg (mt Tree.isEmpty_iff_mem.mp h)

/-- An absent chain has no value. -/
theorem chainValue_of_isAbsent (h : IsAbsent t raws) : chainValue t raws = .ok none := by
  cases h with
  | atEmpty hnode hempty => rw [chainValue_of_leadsTo hnode, nonEmpty_of_mem hempty]
  | @atDeadEnd before after raw node hraws hnode hend =>
    rw [chainValue, hraws, walk_append]
    rcases walk_of_leadsTo hnode with hwalk | ⟨-, hwalk⟩
    · have hstop := walk_cons_of_deadEnd hend after
      rw [hwalk]
      simp only [andThen, hstop]
    · rw [hwalk]
      rfl

/-- A failing chain has its failure. -/
theorem chainValue_of_failsWith (h : FailsWith t raws f) : chainValue t raws = .error f := by
  obtain ⟨before, raw, after, node, rfl, hnode, hf⟩ := h
  have hwalk : walk t before = .ok (some node) :=
    (walk_of_leadsTo hnode).resolve_right fun hnull => hf.1 hnull.1
  have hstop := walk_cons_of_misstep hf after
  rw [chainValue, walk_append, hwalk]
  simp only [andThen, hstop]

/-- The values of a chain are the nodes that it leads to. -/
theorem chainValue_eq_some_iff {v : Tree} : chainValue t raws = .ok (some v) ↔
    LeadsTo t raws v ∧ v ∉ Tree.emptyNodes := by
  constructor
  · intro h
    rcases chain_cases t raws with ⟨node, hnode, hempty⟩ | habsent | ⟨f, hf⟩
    · rw [chainValue_of_leadsTo hnode, nonEmpty_of_notMem hempty] at h
      obtain rfl := Option.some.inj (Except.ok.inj h)
      exact ⟨hnode, hempty⟩
    · rw [chainValue_of_isAbsent habsent] at h
      cases h
    · rw [chainValue_of_failsWith hf] at h
      cases h
  · rintro ⟨hnode, hempty⟩
    rw [chainValue_of_leadsTo hnode, nonEmpty_of_notMem hempty]

/-- A chain without a value is absent. -/
theorem chainValue_eq_none_iff : chainValue t raws = .ok none ↔ IsAbsent t raws := by
  constructor
  · intro h
    rcases chain_cases t raws with ⟨node, hnode, hempty⟩ | habsent | ⟨f, hf⟩
    · rw [chainValue_of_leadsTo hnode, nonEmpty_of_notMem hempty] at h
      cases h
    · exact habsent
    · rw [chainValue_of_failsWith hf] at h
      cases h
  · exact chainValue_of_isAbsent

/-- The failures of a chain are those of its segments. -/
theorem chainValue_eq_error_iff : chainValue t raws = .error f ↔ FailsWith t raws f := by
  constructor
  · intro h
    rcases chain_cases t raws with ⟨node, hnode, hempty⟩ | habsent | ⟨g, hg⟩
    · rw [chainValue_of_leadsTo hnode] at h
      cases h
    · rw [chainValue_of_isAbsent habsent] at h
      cases h
    · rw [chainValue_of_failsWith hg] at h
      obtain rfl := Except.error.inj h
      exact hg
  · exact chainValue_of_failsWith

end

/-! ## The alternative that decides -/

/-- The first alternative that is not absent has a property. -/
def Decides (t : Tree) (expr : String) (P : List (List Char) → Prop) : Prop :=
  ∃ earlier alternative later, alternatives expr = earlier ++ alternative :: later ∧
    (∀ a ∈ earlier, IsAbsent t (chain a)) ∧ P (chain alternative)

/-- A search that finds something finds it in the first alternative that is not absent. -/
theorem firstValue_eq_iff {t : Tree} {xs : List (List Char)}
    {found : Except Failure (Option Tree)} (hfound : found ≠ .ok none) :
    firstValue t xs = found ↔ ∃ earlier x later, xs = earlier ++ x :: later ∧
      (∀ a ∈ earlier, IsAbsent t (chain a)) ∧ chainValue t (chain x) = found := by
  constructor
  · intro h
    induction xs with
    | nil => exact absurd h.symm hfound
    | cons x xs ih =>
      rw [firstValue, resolve_trim] at h
      rcases hx : chainValue t (chain x) with e | _ | v <;> rw [hx] at h
      · exact ⟨[], x, xs, rfl, by simp, hx.trans h⟩
      · obtain ⟨earlier, y, later, rfl, habsent, hy⟩ := ih h
        have hall : ∀ a ∈ x :: earlier, IsAbsent t (chain a) :=
          List.forall_mem_cons.mpr ⟨chainValue_eq_none_iff.mp hx, habsent⟩
        exact ⟨x :: earlier, y, later, rfl, hall, hy⟩
      · exact ⟨[], x, xs, rfl, by simp, hx.trans h⟩
  · rintro ⟨earlier, x, later, rfl, habsent, rfl⟩
    have hearlier : firstValue t earlier = .ok none := by
      rw [firstValue_eq_none_iff]
      intro a ha
      rw [resolve_trim]
      exact chainValue_of_isAbsent (habsent a ha)
    rw [firstValue_append, hearlier, orElse, firstValue, resolve_trim]
    rcases hx : chainValue t (chain x) with e | _ | v
    · rfl
    · exact absurd hx hfound
    · rfl

/-- A failing chain has a segment whose index does not fit the node it is applied to. -/
theorem FailsWith.exists_misindexed {t : Tree} {raws : List (List Char)} {f : Failure}
    (h : FailsWith t raws f) : ∃ (raw : List Char) (s : Segment) (i : Nat) (node : Tree),
      raw ∈ raws ∧ s.WrittenAs raw ∧ s.index = some i ∧ Misindexed s.name i node f := by
  obtain ⟨before, raw, after, -, rfl, -, -, s, i, node, hs, hindex, -, hf⟩ := h
  exact ⟨raw, s, i, node, by simp, hs, hindex, hf⟩

/-- A segment with an index has a bracket. -/
theorem Segment.WrittenAs.bracket_mem {s : Segment} {raw : List Char} {i : Nat}
    (hs : s.WrittenAs raw) (hindex : s.index = some i) : '[' ∈ raw := by
  obtain ⟨tail, rfl, -, -, -, htail⟩ := hs
  obtain ⟨digits, rest, rfl, -⟩ := (htail i).mp hindex
  simp

/-- The segments of an expression have only characters of it. -/
theorem mem_of_mem_chain {expr : String} {alternative raw : List Char} {c : Char}
    (halternative : alternative ∈ alternatives expr) (hraw : raw ∈ chain alternative)
    (hc : c ∈ raw) : c ∈ expr.toList := by
  have hmem : c ∈ Text.trim alternative := Text.mem_of_mem_splitAt hraw hc
  exact Text.mem_of_mem_splitAt halternative (Text.mem_of_mem_trim hmem)

/-! ## The outcome -/

/-- What the outcome of an expression says about a tree. A value is a node that is not empty
and that the keys and indexes of an alternative lead to. A failure names the kind of the node
that an index was applied to, or the index and the length of the list. Either comes from the
first alternative that is not absent. -/
structure Justified (t : Tree) (expr : String) : Prop where
  value_iff : ∀ v, get t expr = .ok (some v) ↔
    Decides t expr fun raws => LeadsTo t raws v ∧ v ∉ Tree.emptyNodes
  failure_iff : ∀ f, get t expr = .error f ↔ Decides t expr fun raws => FailsWith t raws f
  absent_iff : get t expr = .ok none ↔ ∀ a ∈ alternatives expr, IsAbsent t (chain a)
  no_reading : ∀ value target, get t expr ≠ .error (.unreadable value target)
  unbracketed : '[' ∉ expr.toList → ∃ found, get t expr = .ok found

/-- **Outcomes are justified by the tree.** For every tree and every text, well formed or not,
the value or failure of the text as an expression is a fact about the nodes of the tree. -/
theorem get_justified (t : Tree) (expr : String) : Justified t expr := by
  have hfailure (f : Failure) :
      get t expr = .error f ↔ Decides t expr fun raws => FailsWith t raws f := by
    rw [get, firstValue_eq_iff (by simp)]
    simp only [chainValue_eq_error_iff, Decides]
  refine ⟨fun v => ?_, hfailure, ?_, fun value target hget => ?_, fun hbracket => ?_⟩
  · rw [get, firstValue_eq_iff (by simp)]
    simp only [chainValue_eq_some_iff, Decides]
  · rw [get, firstValue_eq_none_iff]
    simp only [resolve_trim, chainValue_eq_none_iff]
  · -- an index does not read the text of a node
    obtain ⟨_, _, _, -, -, hfails⟩ := (hfailure _).mp hget
    obtain ⟨_, _, _, _, -, -, -, hf⟩ := hfails.exists_misindexed
    cases hf
  · rcases hget : get t expr with f | found
    · obtain ⟨earlier, alternative, later, hexpr, -, hfails⟩ := (hfailure f).mp hget
      obtain ⟨raw, s, i, -, hraw, hs, hindex, -⟩ := hfails.exists_misindexed
      have halternative : alternative ∈ alternatives expr := by simp [hexpr]
      exact absurd (mem_of_mem_chain halternative hraw (hs.bracket_mem hindex)) hbracket
    · exact ⟨found, rfl⟩

end QueryGateway.Path
