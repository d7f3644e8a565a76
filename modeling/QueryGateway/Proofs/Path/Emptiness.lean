import QueryGateway.Path.Typed
import QueryGateway.Proofs.Path.Outcomes
import QueryGateway.Proofs.Tree.Fields

/-!
# Empty values

A field with an empty value is as good as none: an expression without indexes that does not ask for
the current node denotes the same in both maps. At the end of an alternative the value itself
counts as absent, and before the end nothing lies below it, of whichever kind it is. An index
would fail at the value, and the current node is no longer empty with it.
-/

namespace QueryGateway.Path

/-! ## Keys -/

/-- The text of a segment that can only be a key: it has no index, and it does not stand for the
current node. -/
structure IsKey (raw : List Char) : Prop where
  unbracketed : '[' ∉ raw
  ne_currentNode : raw ≠ currentNode.toList

variable {raw : List Char} {raws : List (List Char)} {fields : Fields} {key : String}
  {value : Tree} {expr : String}

/-- A key leads to its field. -/
theorem IsKey.child? (hraw : IsKey raw) (t : Tree) :
    (Segment.mk (String.ofList raw) none).child? t = t.field? (String.ofList raw) := by
  have hne : String.ofList raw ≠ currentNode := by
    rw [Ne, ← String.toList_inj, String.toList_ofList]
    exact hraw.ne_currentNode
  exact if_neg (by simpa using hne)

/-- A walk through a map goes on below the field of a key. -/
theorem IsKey.walk_cons (hraw : IsKey raw) (hne : raw ≠ []) (fields : Fields)
    (rest : List (List Char)) :
    walk (.map fields) (raw :: rest) =
      match fields.get? (String.ofList raw) with
      | none => .ok none
      | some node => walk node rest := by
  have hfield : (Tree.map fields).field? (String.ofList raw) =
      fields.get? (String.ofList raw) := rfl
  rw [walk]
  · simp only [read?_of_notMem hne hraw.unbracketed, hraw.child?, hfield]
    cases fields.get? (String.ofList raw) <;> rfl
  · rintro ⟨⟩

/-- Below an empty value there are no keys. -/
theorem IsKey.deadEnd_of_isEmpty (hraw : IsKey raw) (hvalue : value.isEmpty = true) :
    DeadEnd value raw := by
  by_cases hne : raw = []
  · exact .unnamed (by simp [hne])
  · have hs := read?_eq_some_iff.mp (read?_of_notMem hne hraw.unbracketed)
    refine .missing hs ?_
    rw [← child?_eq_descend?, hraw.child?, field?_of_isEmpty hvalue]

/-! ## Chains of keys -/

/-- A chain of keys has no value in an empty one, however long it is. -/
theorem chainValue_of_isEmpty (hvalue : value.isEmpty = true) (hraws : ∀ raw ∈ raws, IsKey raw) :
    chainValue value raws = .ok none := by
  cases raws with
  | nil =>
    have hnode : value ∈ Tree.emptyNodes := Tree.isEmpty_iff_mem.mp hvalue
    exact chainValue_of_isAbsent (.atEmpty (leadsTo_nil value) hnode)
  | cons raw rest =>
    have hend := (hraws raw List.mem_cons_self).deadEnd_of_isEmpty hvalue
    exact chainValue_of_isAbsent (.atDeadEnd rfl (leadsTo_nil value) hend)

/-- A chain of keys has the same value with a further field that is empty. -/
theorem chainValue_insert (hnew : fields.get? key = none) (hvalue : value.isEmpty = true)
    (hne : raws ≠ []) (hraws : ∀ raw ∈ raws, IsKey raw) :
    chainValue (.map (fields.insert key value)) raws = chainValue (.map fields) raws := by
  obtain ⟨raw, rest, rfl⟩ := List.exists_cons_of_ne_nil hne
  obtain ⟨hraw, hrest⟩ := List.forall_mem_cons.mp hraws
  by_cases hnil : raw = []
  · have hend (t : Tree) : DeadEnd t raw := .unnamed (by simp [hnil])
    rw [chainValue, chainValue, walk_cons_of_deadEnd (hend _), walk_cons_of_deadEnd (hend _)]
  · rw [chainValue, chainValue, hraw.walk_cons hnil, hraw.walk_cons hnil]
    by_cases hkey : String.ofList raw = key
    · -- the field is missing in one map and empty in the other
      rw [hkey, Fields.get?_insert_self, hnew]
      exact chainValue_of_isEmpty hvalue hrest
    · rw [Fields.get?_insert_of_ne hkey]

/-! ## Expressions -/

/-- Whether an expression is read alike in two trees: each of its alternatives has the same value,
so that the same one decides, and all readings of the expression have the same result. -/
structure ReadAlike (t t' : Tree) (expr : String) : Prop where
  alternative : ∀ a ∈ alternatives expr, resolve t (Text.trim a) = resolve t' (Text.trim a)
  get : get t expr = get t' expr
  size : size t expr = size t' expr
  text : ∀ dflt, getText t expr dflt = getText t' expr dflt
  int : ∀ dflt, getInt t expr dflt = getInt t' expr dflt
  long : ∀ dflt, getLong t expr dflt = getLong t' expr dflt
  bool : ∀ dflt, getBool t expr dflt = getBool t' expr dflt
  float : ∀ dflt, getFloat t expr dflt = getFloat t' expr dflt
  double : ∀ dflt, getDouble t expr dflt = getDouble t' expr dflt

/-- A search finds the same where each alternative has the same value. -/
theorem firstValue_congr {t t' : Tree} {xs : List (List Char)}
    (h : ∀ x ∈ xs, resolve t (Text.trim x) = resolve t' (Text.trim x)) :
    firstValue t xs = firstValue t' xs := by
  induction xs with
  | nil => rfl
  | cons x xs ih =>
    obtain ⟨hx, hxs⟩ := List.forall_mem_cons.mp h
    rw [firstValue, firstValue, hx, ih hxs]

/-- An expression is read alike where each of its alternatives has the same value. -/
theorem readAlike_of_alternatives {t t' : Tree} (h : ∀ a ∈ alternatives expr,
    resolve t (Text.trim a) = resolve t' (Text.trim a)) : ReadAlike t t' expr := by
  have hget : Path.get t expr = Path.get t' expr := firstValue_congr h
  have htext (dflt : String) : getText t expr dflt = getText t' expr dflt := by
    rw [getText, getText, hget]
  have has {α : Type} (dflt : α) (target : Target) (read? : String → Option α) :
      getAs t expr dflt target read? = getAs t' expr dflt target read? := by
    rw [getAs, getAs, htext]
  exact ⟨h, hget, by rw [Path.size, Path.size, hget], htext, fun _ => has .., fun _ => has ..,
    fun _ => has .., fun _ => has .., fun _ => has ..⟩

/-- **Empty means absent.** If a map lacks a key, setting the key to an empty value changes neither
which alternative of an expression decides nor what is read at the expression, provided that it
has no index and no segment for the current node. -/
theorem readAlike_insert_isEmpty (hnew : fields.get? key = none) (hvalue : value.isEmpty = true)
    (hbracket : '[' ∉ expr.toList) (hcurrent : ∀ a ∈ alternatives expr,
      currentNode.toList ∉ chain a) :
    ReadAlike (.map (fields.insert key value)) (.map fields) expr := by
  apply readAlike_of_alternatives
  intro a ha
  have hraws : ∀ raw ∈ chain a, IsKey raw := fun raw hraw =>
    ⟨fun hmem => hbracket (mem_of_mem_chain ha hraw hmem), fun h => hcurrent a ha (h ▸ hraw)⟩
  rw [resolve_trim, resolve_trim]
  exact chainValue_insert hnew hvalue (Text.pieces_ne_nil _ _) hraws

/-- An empty map in front of and below alternatives that lead elsewhere. -/
theorem readAlike_insert_isEmpty_map :
    let fields : Fields := [("b", .text "12")]
    fields.get? "a" = none ∧ (Tree.map []).isEmpty = true ∧ '[' ∉ "a.k, a ,b".toList ∧
      (∀ a ∈ alternatives "a.k, a ,b", currentNode.toList ∉ chain a) ∧
      Path.get (.map (fields.insert "a" (.map []))) "a.k, a ,b" = .ok (some (.text "12")) ∧
      getInt (.map (fields.insert "a" (.map []))) "a.k, a ,b" 0 = .ok 12 := by
  intro fields
  have hbracket : '[' ∉ "a.k, a ,b".toList := by decide
  have hcurrent : ∀ a ∈ alternatives "a.k, a ,b", currentNode.toList ∉ chain a := by decide
  have halike : ReadAlike (.map (fields.insert "a" (.map []))) (.map fields) "a.k, a ,b" :=
    readAlike_insert_isEmpty rfl rfl hbracket hcurrent
  refine ⟨rfl, rfl, hbracket, hcurrent, ?_, ?_⟩
  · rw [halike.get]
    rfl
  · rw [halike.int]
    rfl

/-- An index fails at an empty list, and a map with an empty field is not empty itself. -/
example : Path.get (.map []) "a[0]" = .ok none ∧
    Path.get (.map [("a", .list [])]) "a[0]" = .error (.outOfRange 0 0) ∧
    Path.get (.map []) "_" = .ok none ∧
    Path.get (.map [("a", .null)]) "_" = .ok (some (.map [("a", .null)])) :=
  ⟨rfl, rfl, rfl, rfl⟩

end QueryGateway.Path
