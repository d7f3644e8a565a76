import QueryGateway.Proofs.Path.Indexing

/-!
# Steps through trees

A chain of segments is a way through a tree: each segment stands for a step to a field, or for
none at the current node, and then perhaps for a step to an item. This module reads the text of
segments as such steps. At each segment a walk goes on to the next node, ends without a node,
or fails at the index.
-/

namespace QueryGateway

/-! ## Nodes below a node -/

/-- A step from a node of a tree to one directly below it. -/
inductive Tree.Step where
  | key (name : String)
  | item (index : Nat)
  deriving DecidableEq, Repr

namespace Tree

/-- The node that a step leads to. -/
def child? : Tree → Step → Option Tree
  | t, .key name => t.field? name
  | .list items, .item i => items[i]?
  | _, .item _ => none

/-- The node that steps lead to one after the other. -/
def descend? : Tree → List Step → Option Tree
  | t, [] => some t
  | t, step :: steps => (t.child? step).bind fun child => child.descend? steps

/-- Steps after steps go on from the node that the first ones lead to. -/
theorem descend?_append (t : Tree) (xs ys : List Step) :
    t.descend? (xs ++ ys) = (t.descend? xs).bind fun node => node.descend? ys := by
  induction xs generalizing t with
  | nil => rfl
  | cons step xs ih =>
    rw [List.cons_append, descend?, descend?, Option.bind_assoc]
    exact congrArg _ (funext ih)

/-- Nothing lies below null. -/
theorem eq_null_of_descend? {steps : List Step} {node : Tree}
    (h : Tree.null.descend? steps = some node) : node = .null := by
  cases steps with
  | nil => exact (Option.some.inj h).symm
  | cons step steps => cases step <;> cases h

/-- The nodes that count as absent. -/
def emptyNodes : List Tree :=
  [.null, .text "", .list [], .map []]

theorem isEmpty_iff_mem {t : Tree} : t.isEmpty = true ↔ t ∈ emptyNodes := by
  cases t <;> simp [isEmpty, emptyNodes]

end Tree

namespace Path

/-! ## The text of a segment -/

/-- A text begins with an index: a numeral in brackets for a number below the limit. -/
def BeginsWithIndex (s : List Char) (i : Nat) : Prop :=
  ∃ digits rest, s = '[' :: digits ++ ']' :: rest ∧ Number.IsNumeral digits i ∧ i < indexLimit

/-- Just the indexes are read. -/
theorem readIndex?_eq_some_iff {s : List Char} {i : Nat} :
    readIndex? s = some i ↔ BeginsWithIndex s i := by
  constructor
  · intro h
    cases s with
    | nil => cases h
    | cons c rest =>
      by_cases hc : c = '['
      · subst hc
        rw [readIndex?] at h
        obtain ⟨⟨digits, after⟩, hcut, hrest⟩ := Option.bind_eq_some_iff.mp h
        obtain ⟨n, hread, hlimit⟩ := Option.bind_eq_some_iff.mp hrest
        split at hlimit
        · next hn =>
          obtain rfl := Option.some.inj hlimit
          have htext := congrArg ('[' :: ·) (Text.eq_of_cut hcut)
          exact ⟨digits, after, htext, Number.readNat?_eq_some_iff.mp hread, hn⟩
        · cases hlimit
      · have hnone : readIndex? (c :: rest) = none := by
          rw [readIndex?]
          rintro rest' ⟨⟩
          exact hc rfl
        rw [hnone] at h
        cases h
  · rintro ⟨digits, rest, rfl, hdigits, hi⟩
    rw [readIndex?_of_isNumeral hdigits, if_pos hi]

/-- A segment is written as a text: a name without brackets that is not empty, then nothing or
a bracket. It has an index exactly if the text behind the name begins with one. -/
def Segment.WrittenAs (s : Segment) (raw : List Char) : Prop :=
  ∃ tail, raw = s.name.toList ++ tail ∧ s.name.toList ≠ [] ∧ '[' ∉ s.name.toList ∧
    (∀ c ∈ tail.head?, c = '[') ∧ ∀ i, s.index = some i ↔ BeginsWithIndex tail i

/-- Every text is a name up to the first bracket and what stands from there on. -/
theorem exists_name_append (raw : List Char) :
    ∃ name tail, raw = name ++ tail ∧ '[' ∉ name ∧ ∀ c ∈ tail.head?, c = '[' := by
  refine ⟨raw.takeWhile (· != '['), raw.dropWhile (· != '['),
    List.takeWhile_append_dropWhile.symm, ?_, ?_⟩
  · intro hmem
    have hne := List.all_eq_true.mp List.all_takeWhile _ hmem
    simp at hne
  · intro c hc
    have hstop := List.head?_dropWhile_not (· != '[') raw
    rw [hc] at hstop
    simpa using hstop

/-- Just the segments are read from their texts. -/
theorem read?_eq_some_iff {raw : List Char} {s : Segment} :
    Segment.read? raw = some s ↔ s.WrittenAs raw := by
  constructor
  · intro h
    obtain ⟨name, tail, rfl, hname, htail⟩ := exists_name_append raw
    rw [read?_append hname htail] at h
    split at h
    · cases h
    · next hne =>
      obtain rfl := Option.some.inj h
      have htoList : (String.ofList name).toList = name := String.toList_ofList
      refine ⟨tail, by rw [htoList], ?_, by rw [htoList]; exact hname, htail,
        fun i => readIndex?_eq_some_iff⟩
      rw [htoList]
      simpa using hne
  · rintro ⟨tail, rfl, hne, hname, htail, hindex⟩
    have hread : readIndex? tail = s.index :=
      Option.ext fun i => readIndex?_eq_some_iff.trans (hindex i).symm
    rw [read?_append hname htail, if_neg (by simpa using hne), hread, String.ofList_toList]

/-- A text is no segment exactly if its name is missing. -/
theorem read?_eq_none_iff {raw : List Char} :
    Segment.read? raw = none ↔ ∀ c ∈ raw.head?, c = '[' := by
  obtain ⟨name, tail, rfl, hname, htail⟩ := exists_name_append raw
  rw [read?_append hname htail]
  cases name with
  | nil => simpa using htail
  | cons c name =>
    have hc : c ≠ '[' := fun h => hname (by simp [h])
    simp [hc]

/-! ## The steps of a segment -/

/-- The step to the field that the name of a segment stands for: none at the current node. -/
def Segment.nameSteps (s : Segment) : List Tree.Step :=
  if s.name = currentNode then [] else [.key s.name]

/-- The steps of a segment: by its name, and then by its index. -/
def Segment.steps (s : Segment) : List Tree.Step :=
  s.nameSteps ++ (s.index.map Tree.Step.item).toList

/-- The name of a segment leads along its steps. -/
theorem child?_eq_descend? (s : Segment) (t : Tree) : s.child? t = t.descend? s.nameSteps := by
  rw [Segment.child?, Segment.nameSteps]
  by_cases hname : s.name = currentNode
  · rw [if_pos (by simpa using hname), if_pos hname]
    rfl
  · rw [if_neg (by simpa using hname), if_neg hname]
    simp [Tree.descend?, Tree.child?]

/-- How an index fails at a node: the node is no list, or the list is too short. The failure
says which name and kind, or which index and length. -/
inductive Misindexed (name : String) (i : Nat) (node : Tree) : Failure → Prop
  | notAList (hnode : ∀ items, node ≠ .list items) :
    Misindexed name i node (.notAList name node.kind)
  | outOfRange {items : List Tree} (hnode : node = .list items) (hi : items.length ≤ i) :
    Misindexed name i node (.outOfRange i items.length)

/-- The index of a segment leads along its step. -/
theorem select_of_descend? {s : Segment} {node next : Tree}
    (h : node.descend? (s.index.map Tree.Step.item).toList = some next) :
    s.select node = .ok next := by
  rw [Segment.select]
  cases hindex : s.index with
  | none =>
    rw [hindex] at h
    obtain rfl := Option.some.inj h
    rfl
  | some i =>
    rw [hindex] at h
    obtain ⟨child, hchild, hnext⟩ := Option.bind_eq_some_iff.mp h
    obtain rfl := Option.some.inj hnext
    cases node with
    | list items =>
      have hitem : items[i]? = some child := hchild
      simp only [hitem]
    | _ => cases hchild

/-- A failing index selects nothing. -/
theorem select_of_misindexed {s : Segment} {i : Nat} {node : Tree} {f : Failure}
    (hindex : s.index = some i) (h : Misindexed s.name i node f) : s.select node = .error f := by
  rw [Segment.select, hindex]
  cases h with
  | notAList hnode =>
    cases node with
    | list items => exact absurd rfl (hnode items)
    | _ => rfl
  | @outOfRange items hnode hi =>
    have hitem : items[i]? = none := List.getElem?_eq_none hi
    simp only [hnode, hitem]

/-- An index selects an item, or it fails. -/
theorem select_cases (s : Segment) (node : Tree) :
    (∃ next, node.descend? (s.index.map Tree.Step.item).toList = some next) ∨
      ∃ i f, s.index = some i ∧ Misindexed s.name i node f := by
  cases hindex : s.index with
  | none => exact .inl ⟨node, rfl⟩
  | some i =>
    cases node with
    | list items =>
      by_cases hi : i < items.length
      · exact .inl ⟨items[i], by simp [Tree.descend?, Tree.child?, hi]⟩
      · exact .inr ⟨i, _, rfl, .outOfRange rfl (by omega)⟩
    | _ => exact .inr ⟨i, _, rfl, .notAList (by simp)⟩

/-! ## One segment of a walk -/

/-- A text leads on from no node: the node is null, the text has no name, or there is no field
with that name. -/
inductive DeadEnd (t : Tree) (raw : List Char) : Prop
  | null (ht : t = .null)
  | unnamed (hraw : ∀ c ∈ raw.head?, c = '[')
  | missing {s : Segment} (hs : s.WrittenAs raw) (hname : t.descend? s.nameSteps = none)

/-- A segment fails at its index, where its name leads to a node that the index does not fit. -/
def Misstep (t : Tree) (raw : List Char) (f : Failure) : Prop :=
  t ≠ .null ∧ ∃ (s : Segment) (i : Nat) (node : Tree), s.WrittenAs raw ∧ s.index = some i ∧
    t.descend? s.nameSteps = some node ∧ Misindexed s.name i node f

variable {t next : Tree} {raw : List Char} {s : Segment} {f : Failure}

/-- Each text leads on, is a dead end or fails. -/
theorem step_cases (t : Tree) (raw : List Char) :
    (t ≠ .null ∧ ∃ (s : Segment) (next : Tree), s.WrittenAs raw ∧ t.descend? s.steps = some next) ∨
      DeadEnd t raw ∨ ∃ f, Misstep t raw f := by
  by_cases ht : t = .null
  · exact .inr (.inl (.null ht))
  cases hread : Segment.read? raw with
  | none => exact .inr (.inl (.unnamed (read?_eq_none_iff.mp hread)))
  | some s =>
    have hs : s.WrittenAs raw := read?_eq_some_iff.mp hread
    cases hname : t.descend? s.nameSteps with
    | none => exact .inr (.inl (.missing hs hname))
    | some node =>
      rcases select_cases s node with ⟨next, hnext⟩ | ⟨i, f, hindex, hf⟩
      · refine .inl ⟨ht, s, next, hs, ?_⟩
        rw [Segment.steps, Tree.descend?_append, hname]
        exact hnext
      · exact .inr (.inr ⟨f, ht, s, i, node, hs, hindex, hname, hf⟩)

/-- A walk goes on from the node that a segment leads to. -/
theorem walk_cons_of_descend? (ht : t ≠ .null) (hs : s.WrittenAs raw)
    (hnext : t.descend? s.steps = some next) (rest : List (List Char)) :
    walk t (raw :: rest) = walk next rest := by
  rw [Segment.steps, Tree.descend?_append] at hnext
  obtain ⟨node, hnode, hselect⟩ := Option.bind_eq_some_iff.mp hnext
  rw [walk]
  · simp only [read?_eq_some_iff.mpr hs, child?_eq_descend?, hnode, select_of_descend? hselect]
  · exact ht

/-- A walk ends at a dead end. -/
theorem walk_cons_of_deadEnd (h : DeadEnd t raw) (rest : List (List Char)) :
    walk t (raw :: rest) = .ok none := by
  by_cases ht : t = .null
  · subst ht
    rfl
  rw [walk]
  · cases h with
    | null hnull => exact absurd hnull ht
    | unnamed hraw => simp only [read?_eq_none_iff.mpr hraw]
    | missing hs hname => simp only [read?_eq_some_iff.mpr hs, child?_eq_descend?, hname]
  · exact ht

/-- A walk fails where a segment does. -/
theorem walk_cons_of_misstep (h : Misstep t raw f) (rest : List (List Char)) :
    walk t (raw :: rest) = .error f := by
  obtain ⟨ht, s, i, node, hs, hindex, hname, hf⟩ := h
  rw [walk]
  · simp only [read?_eq_some_iff.mpr hs, child?_eq_descend?, hname, select_of_misindexed hindex hf]
  · exact ht

end Path

end QueryGateway
