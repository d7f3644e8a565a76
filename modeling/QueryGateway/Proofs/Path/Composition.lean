import QueryGateway.Config.View
import QueryGateway.Proofs.Text.Splitting

/-!
# Composition of path expressions

A list of alternatives is searched like two shorter lists one after the other, and a dotted
path leads where its second half leads from the node of its first half. Views are opened the
same way: a path within a sub-view is a longer path within the view.
-/

namespace QueryGateway.Path

/-! ## Searches one after the other -/

/-- A search that goes on with another one if it finds nothing. -/
def orElse (found next : Except Failure (Option Tree)) : Except Failure (Option Tree) :=
  match found with
  | .ok none => next
  | found => found

/-- A search that goes on from the node it finds. -/
def andThen (found : Except Failure (Option Tree))
    (next : Tree → Except Failure (Option Tree)) : Except Failure (Option Tree) :=
  match found with
  | .error e => .error e
  | .ok none => .ok none
  | .ok (some v) => next v

/-- The grouping of three searches does not matter. -/
theorem orElse_assoc (a b c : Except Failure (Option Tree)) :
    orElse (orElse a b) c = orElse a (orElse b c) := by
  rcases a with e | _ | v <;> rfl

/-- Alternatives are searched in their order. -/
theorem firstValue_append (t : Tree) (xs ys : List (List Char)) :
    firstValue t (xs ++ ys) = orElse (firstValue t xs) (firstValue t ys) := by
  induction xs with
  | nil => rfl
  | cons x xs ih =>
    rw [List.cons_append, firstValue, firstValue]
    rcases resolve t (Text.trim x) with e | _ | v
    · rfl
    · exact ih
    · rfl

/-- A chain of segments is walked like two shorter chains one after the other. -/
theorem walk_append (t : Tree) (xs ys : List (List Char)) :
    walk t (xs ++ ys) = andThen (walk t xs) fun node => walk node ys := by
  induction xs generalizing t with
  | nil => rfl
  | cons x xs ih =>
    cases t with
    | null => rfl
    | _ =>
      simp only [List.cons_append, walk]
      cases Segment.read? x with
      | none => rfl
      | some s =>
        dsimp only
        cases s.child? _ with
        | none => rfl
        | some node =>
          dsimp only
          cases s.select node with
          | error e => rfl
          | ok next => exact ih next

/-! ## Chains -/

/-- An expression with one alternative, which is not empty and has no blanks around it. -/
structure IsChain (e : String) : Prop where
  ne_nil : e.toList ≠ []
  no_comma : ',' ∉ e.toList
  trimmed : Text.trim e.toList = e.toList

/-- The name of the first segment of a chain, which a dot or a bracket ends. -/
def firstName (e : String) : List Char :=
  (e.toList.takeWhile (· != '.')).takeWhile (· != '[')

/-- The value of a single alternative. -/
theorem firstValue_singleton (t : Tree) (alternative : List Char) :
    firstValue t [alternative] = resolve t (Text.trim alternative) := by
  rw [firstValue]
  rcases resolve t (Text.trim alternative) with e | _ | v <;> rfl

/-- The value of an alternative is the node at its end, unless that is empty. -/
theorem resolve_of_ne_nil (t : Tree) {alternative : List Char} (hne : alternative ≠ []) :
    resolve t alternative =
      andThen (walk t (Text.splitAt '.' alternative)) fun node => .ok (nonEmpty node) := by
  rw [resolve, if_neg (by simpa using hne)]
  rcases walk t (Text.splitAt '.' alternative) with e | _ | node <;> rfl

/-- The value of a chain is the node at its end, unless that is empty. -/
theorem get_of_isChain (t : Tree) {e : String} (he : IsChain e) :
    get t e = andThen (walk t (Text.splitAt '.' e.toList)) fun node => .ok (nonEmpty node) := by
  rw [get, alternatives, Text.splitAt_of_notMem he.no_comma, firstValue_singleton, he.trimmed,
    resolve_of_ne_nil t he.ne_nil]

/-- Two chains with a dot between them are a chain. -/
theorem IsChain.dotted {e₁ e₂ : String} (h₁ : IsChain e₁) (h₂ : IsChain e₂) :
    IsChain (e₁ ++ "." ++ e₂) := by
  have htext : (e₁ ++ "." ++ e₂).toList = e₁.toList ++ '.' :: e₂.toList := by simp
  refine ⟨?_, ?_, ?_⟩ <;> rw [htext]
  · simp
  · simp [h₁.no_comma, h₂.no_comma]
  · exact Text.trim_append_cons '.' h₁.ne_nil h₂.ne_nil h₁.trimmed h₂.trimmed

/-- The chain of the segments of two chains. -/
theorem splitAt_dotted (e₁ e₂ : String) :
    Text.splitAt '.' (e₁ ++ "." ++ e₂).toList =
      Text.splitAt '.' e₁.toList ++ Text.splitAt '.' e₂.toList := by
  rw [← Text.splitAt_append]
  simp

/-- An empty node has no fields. -/
theorem field?_of_isEmpty {t : Tree} (ht : t.isEmpty = true) (key : String) :
    t.field? key = none := by
  cases t with
  | map fields =>
    rw [Tree.isEmpty, List.isEmpty_iff] at ht
    rw [ht]
    rfl
  | _ => rfl

/-- A list is none of its own items. -/
theorem ne_list_of_mem {t : Tree} {items : List Tree} (ht : t ∈ items) : t ≠ .list items := by
  rintro rfl
  have hsize := List.sizeOf_lt_of_mem ht
  rw [Tree.list.sizeOf_spec] at hsize
  omega

/-- The name of a segment that can be read. -/
theorem name_of_read? {raw : List Char} {s : Segment} (hs : Segment.read? raw = some s) :
    s.name.toList = raw.takeWhile (· != '[') := by
  dsimp only [Segment.read?] at hs
  split at hs
  · cases hs
  · obtain rfl := Option.some.inj hs
    exact String.toList_ofList

/-- No chain leads on from an empty node, unless it begins with the current node. -/
theorem walk_of_isEmpty {t : Tree} (ht : t.isEmpty = true) {e : String}
    (hname : firstName e ≠ currentNode.toList) :
    walk t (Text.splitAt '.' e.toList) = .ok none := by
  have hfirst := Text.head?_splitAt '.' e.toList
  rcases hsplit : Text.splitAt '.' e.toList with _ | ⟨raw, rest⟩
  · rw [hsplit] at hfirst
    cases hfirst
  · rw [hsplit, List.head?_cons, Option.some_inj] at hfirst
    have hstop (s : Segment) (hs : Segment.read? raw = some s) : s.child? t = none := by
      have hne : s.name ≠ currentNode := by
        intro h
        apply hname
        rw [← h, name_of_read? hs, hfirst, firstName]
      rw [Segment.child?, if_neg (by simpa using hne)]
      exact field?_of_isEmpty ht s.name
    cases t with
    | null => rfl
    | _ =>
      rw [walk]
      · cases hs : Segment.read? raw with
        | none => rfl
        | some s => simp only [hstop s hs]
      · rintro ⟨⟩

/-- Nothing is found below nothing. -/
theorem get_null {e : String} (he : IsChain e) : get .null e = .ok none := by
  rw [get_of_isChain .null he]
  obtain ⟨raw, rest, hsplit⟩ :=
    List.exists_cons_of_ne_nil (Text.pieces_ne_nil (· == '.') e.toList)
  have hparts : Text.splitAt '.' e.toList = raw :: rest := hsplit
  rw [hparts, walk]
  rfl

/-- A dotted path leads where its second half leads from the node of its first half. -/
theorem get_dotted (t : Tree) {e₁ e₂ : String} (h₁ : IsChain e₁) (h₂ : IsChain e₂)
    (hname : firstName e₂ ≠ currentNode.toList) :
    get t (e₁ ++ "." ++ e₂) = andThen (get t e₁) fun v => get v e₂ := by
  rw [get_of_isChain t (h₁.dotted h₂), splitAt_dotted, walk_append, get_of_isChain t h₁]
  rcases walk t (Text.splitAt '.' e₁.toList) with e | _ | node
  · rfl
  · rfl
  · by_cases hnode : node.isEmpty = true
    · -- the first half ends at an empty node, which counts as absent there
      have hwalk := walk_of_isEmpty hnode hname
      simp [andThen, nonEmpty, hnode, hwalk]
    · simp [andThen, nonEmpty, hnode, get_of_isChain node h₂]

/-! ## The laws -/

/-- The laws by which the values of composite expressions follow from those of their parts. -/
structure Compositional (t : Tree) : Prop where
  fallback : ∀ e₁ e₂ : String, get t (e₁ ++ "," ++ e₂) = orElse (get t e₁) (get t e₂)
  grouping : ∀ e₁ e₂ e₃ : String, get t (e₁ ++ "," ++ (e₂ ++ "," ++ e₃)) =
    orElse (orElse (get t e₁) (get t e₂)) (get t e₃)
  dotted : ∀ e₁ e₂ : String, IsChain e₁ → IsChain e₂ → firstName e₂ ≠ currentNode.toList →
    get t (e₁ ++ "." ++ e₂) = andThen (get t e₁) fun v => get v e₂
  subView : ∀ e₁ e₂ : String, IsChain e₁ → IsChain e₂ → firstName e₂ ≠ currentNode.toList →
    ((View.mk t).get e₁ >>= fun v => v.get e₂) = (View.mk t).get (e₁ ++ "." ++ e₂)

/-- Alternatives after a comma count where those before it lead nowhere. -/
theorem get_fallback (t : Tree) (e₁ e₂ : String) :
    get t (e₁ ++ "," ++ e₂) = orElse (get t e₁) (get t e₂) := by
  rw [get, get, get, ← firstValue_append, alternatives, alternatives, alternatives,
    ← Text.splitAt_append]
  simp

/-- **Path expressions are compositional.** For every tree, a comma tries its right side
where the left one finds nothing, and a dot continues on its right side at the node that the
left one finds; failures end both. -/
theorem get_compositional (t : Tree) : Compositional t where
  fallback := get_fallback t
  grouping e₁ e₂ e₃ := by rw [get_fallback, get_fallback, orElse_assoc]
  dotted e₁ e₂ := get_dotted t
  subView e₁ e₂ h₁ h₂ hname := by
    rw [View.get, View.get, get_dotted t h₁ h₂ hname]
    rcases hfound : get t e₁ with e | _ | v
    · rfl
    · have hnull := get_null h₂
      simp [Except.map, bind, Except.bind, View.get, hnull, andThen]
    · rfl

end QueryGateway.Path
