import QueryGateway.Proofs.Path.Composition

/-!
# Indexes at the end of expressions

An index in brackets that is added to an expression extends the last segment of its last
alternative. It selects an item if that segment has no bracket before, and is passed over
otherwise; where an earlier alternative has a value, it is not even reached.
-/

namespace QueryGateway

namespace Number

/-- Decimal digits that denote a number; zeros may stand before it. -/
structure IsNumeral (digits : List Char) (n : Nat) : Prop where
  ne_nil : digits ≠ []
  all_digits : ∀ c ∈ digits, Text.isAsciiDigit c = true
  value : ofDigits digits = n

/-- Just the numerals are read. -/
theorem readNat?_eq_some_iff {s : List Char} {n : Nat} : readNat? s = some n ↔ IsNumeral s n := by
  have hdigits : (!s.isEmpty && s.all Text.isAsciiDigit) = true ↔
      s ≠ [] ∧ ∀ c ∈ s, Text.isAsciiDigit c = true := by simp
  rw [readNat?]
  constructor
  · intro h
    split at h
    · next hs =>
      obtain ⟨hne, hall⟩ := hdigits.mp hs
      exact ⟨hne, hall, Option.some.inj h⟩
    · cases h
  · rintro ⟨hne, hall, rfl⟩
    rw [if_pos (hdigits.mpr ⟨hne, hall⟩)]

instance (digits : List Char) (n : Nat) : Decidable (IsNumeral digits n) :=
  decidable_of_iff (readNat? digits = some n) readNat?_eq_some_iff

/-- The decimal digits of a number are a numeral for it. -/
theorem isNumeral_toDigits (n : Nat) : IsNumeral (Nat.toDigits 10 n) n := by
  refine ⟨Nat.toDigits_ne_nil, fun c hc => ?_, ?_⟩
  · have hdigit := Nat.isDigit_of_mem_toDigits (by decide) (by decide) hc
    simpa [Text.isAsciiDigit, Char.isDigit, Char.le_def] using hdigit
  · have hfold := Nat.ofDigitChars_ten_toDigits (n := n)
    rw [Nat.ofDigitChars_eq_foldl] at hfold
    simpa [ofDigits, Nat.mul_comm] using hfold

/-- Only digits stand in a numeral. -/
theorem IsNumeral.notMem {digits : List Char} {n : Nat} (h : IsNumeral digits n) {c : Char}
    (hc : Text.isAsciiDigit c = false) : c ∉ digits := by
  intro hmem
  rw [h.all_digits c hmem] at hc
  cases hc

end Number

namespace Path

/-- An index as it is written behind an expression. -/
def bracketed (i : Nat) : List Char :=
  '[' :: Nat.toDigits 10 i ++ [']']

/-- An index is written with digits and brackets only. -/
theorem notMem_bracketed {c : Char} (hc : Text.isAsciiDigit c = false) (hopen : c ≠ '[')
    (hclose : c ≠ ']') (i : Nat) : c ∉ bracketed i := by
  have hdigits : c ∉ Nat.toDigits 10 i := (Number.isNumeral_toDigits i).notMem hc
  simp [bracketed, hopen, hclose, hdigits]

/-- An index is closed by a bracket. -/
theorem getLast?_bracketed (i : Nat) : (bracketed i).getLast? = some ']' :=
  List.getLast?_concat

/-! ## The index of a segment -/

/-- The name of a segment reaches to its first bracket. -/
theorem takeWhile_name {name rest : List Char} (hname : '[' ∉ name)
    (hrest : ∀ c ∈ rest.head?, c = '[') : (name ++ rest).takeWhile (· != '[') = name := by
  apply Text.takeWhile_run
  · intro c hc
    rw [bne_iff_ne]
    rintro rfl
    exact hname hc
  · intro c hc
    simp [hrest c hc]

/-- A text is read as a segment by its name and what stands behind it. -/
theorem read?_append {name tail : List Char} (hname : '[' ∉ name)
    (htail : ∀ c ∈ tail.head?, c = '[') :
    Segment.read? (name ++ tail) =
      if name.isEmpty then none else some ⟨String.ofList name, readIndex? tail⟩ := by
  rw [Segment.read?, takeWhile_name hname htail, List.drop_left]

/-- A numeral in brackets is an index if its number is below the limit. -/
theorem readIndex?_of_isNumeral {digits : List Char} {i : Nat} (hdigits : Number.IsNumeral digits i)
    (rest : List Char) :
    readIndex? ('[' :: digits ++ ']' :: rest) = if i < indexLimit then some i else none := by
  rw [List.cons_append, readIndex?, Text.cut_append_cons (hdigits.notMem (by decide))]
  simp [Number.readNat?_eq_some_iff.mpr hdigits]

/-- An index below the limit is read back. -/
theorem readIndex?_bracketed {i : Nat} (hi : i < indexLimit) :
    readIndex? (bracketed i) = some i := by
  rw [bracketed, readIndex?_of_isNumeral (Number.isNumeral_toDigits i), if_pos hi]

/-- Behind a bracket an index is passed over. -/
theorem readIndex?_append_bracketed (s : List Char) (i : Nat) :
    readIndex? ('[' :: s ++ bracketed i) = readIndex? ('[' :: s) := by
  rw [List.cons_append, readIndex?, readIndex?]
  cases hcut : Text.cut ']' s with
  | some parts =>
    rw [Text.cut_append_of_some hcut]
    rfl
  | none =>
    have hinner : ']' ∉ Nat.toDigits 10 i := (Number.isNumeral_toDigits i).notMem (by decide)
    have hclose : Text.cut ']' (bracketed i) = some ('[' :: Nat.toDigits 10 i, []) :=
      Text.cut_append_cons (s := '[' :: Nat.toDigits 10 i) (by simp [hinner]) []
    have hdigits : Number.readNat? (s ++ '[' :: Nat.toDigits 10 i) = none := by
      simp [Number.readNat?, Text.isAsciiDigit]
    rw [Text.cut_append_of_none hcut, hclose]
    simp [hdigits]

/-- A segment without a bracket takes the index that is written behind it. -/
theorem read?_append_bracketed {seg : List Char} (hne : seg ≠ []) (hseg : '[' ∉ seg) {i : Nat}
    (hi : i < indexLimit) :
    Segment.read? (seg ++ bracketed i) = some ⟨String.ofList seg, some i⟩ := by
  have htail : ∀ c ∈ (bracketed i).head?, c = '[' := by
    rintro c ⟨⟩
    rfl
  rw [read?_append hseg htail, readIndex?_bracketed hi, if_neg (by simpa using hne)]

/-- A segment without a bracket has no index. -/
theorem read?_of_notMem {seg : List Char} (hne : seg ≠ []) (hseg : '[' ∉ seg) :
    Segment.read? seg = some ⟨String.ofList seg, none⟩ := by
  have htail : ∀ c ∈ ([] : List Char).head?, c = '[' := by simp
  have hread := read?_append hseg htail
  rwa [List.append_nil, if_neg (by simpa using hne)] at hread

/-- A segment with a bracket is read as before if an index is written behind it. -/
theorem read?_append_bracketed_of_mem {seg : List Char} (hseg : '[' ∈ seg) (i : Nat) :
    Segment.read? (seg ++ bracketed i) = Segment.read? seg := by
  obtain ⟨name, tail, rfl, hname⟩ := List.eq_append_cons_of_mem hseg
  have hhead (rest : List Char) : ∀ c ∈ ('[' :: tail ++ rest).head?, c = '[' := by
    rintro c ⟨⟩
    rfl
  have hbefore := read?_append hname (hhead [])
  rw [List.append_nil] at hbefore
  rw [List.append_assoc, read?_append hname (hhead _), readIndex?_append_bracketed, hbefore]

/-! ## The index of a chain -/

variable {t n : Tree} {items : List Tree} {seg : List Char} {i : Nat}

/-- Where one segment leads. -/
theorem walk_singleton {s : Segment} (hn : n ≠ .null) (hs : Segment.read? seg = some s) :
    walk n [seg] = match s.child? n with
      | none => .ok none
      | some node => (s.select node).map some := by
  cases n with
  | null => exact absurd rfl hn
  | _ =>
    simp only [walk, hs]
    cases s.child? _ with
    | none => rfl
    | some node =>
      dsimp only
      cases s.select node <;> rfl

/-- A segment that leads to a list leads to its items if it takes an index. -/
theorem walk_bracketed (hseg : '[' ∉ seg) (hwalk : walk n [seg] = .ok (some (.list items)))
    (hi : i < items.length) (hlimit : i < indexLimit) :
    walk n [seg ++ bracketed i] = .ok (some items[i]) := by
  have hn : n ≠ .null := by
    rintro rfl
    cases hwalk
  have hne : seg ≠ [] := by
    rintro rfl
    cases n <;> cases hwalk
  have hchild : (Segment.mk (String.ofList seg) (some i)).child? n =
      (Segment.mk (String.ofList seg) none).child? n := rfl
  rw [walk_singleton hn (read?_of_notMem hne hseg)] at hwalk
  rw [walk_singleton hn (read?_append_bracketed hne hseg hlimit), hchild]
  cases hnode : (Segment.mk (String.ofList seg) none).child? n with
  | none =>
    rw [hnode] at hwalk
    cases hwalk
  | some node =>
    rw [hnode] at hwalk
    obtain rfl : node = .list items := by simpa [Segment.select, Except.map] using hwalk
    simp [Segment.select, Except.map, hi]

/-- A segment with a bracket leads where it led if an index is written behind it. -/
theorem walk_bracketed_of_mem (hseg : '[' ∈ seg) (n : Tree) (i : Nat) :
    walk n [seg ++ bracketed i] = walk n [seg] := by
  cases n <;> simp only [walk, read?_append_bracketed_of_mem hseg]

/-! ## The index of an expression -/

/-- The last segment of an expression, which belongs to its last alternative. -/
def lastSegment (expr : String) : List Char :=
  (Text.splitAt '.' (Text.trim ((alternatives expr).getLastD []))).getLastD []

/-- Whether an index that is written behind an expression applies to what it denotes: the
alternatives before the last one are absent, and the last segment has no index yet. -/
structure TakesIndex (t : Tree) (expr : String) : Prop where
  earlier : ∀ a ∈ (alternatives expr).dropLast, resolve t (Text.trim a) = .ok none
  unbracketed : '[' ∉ lastSegment expr

/-- A search finds nothing exactly if every alternative is absent. -/
theorem firstValue_eq_none_iff (t : Tree) (xs : List (List Char)) :
    firstValue t xs = .ok none ↔ ∀ a ∈ xs, resolve t (Text.trim a) = .ok none := by
  induction xs with
  | nil => simp [firstValue]
  | cons x xs ih =>
    rw [firstValue, List.forall_mem_cons]
    rcases resolve t (Text.trim x) with e | _ | v <;> simp [ih]

/-- The expression of an item as alternatives. -/
theorem alternatives_itemExpr {expr : String} {earlier : List (List Char)} {last : List Char}
    (hexpr : alternatives expr = earlier ++ [last]) (i : Nat) :
    alternatives (Cursor.itemExpr expr i) = earlier ++ [last ++ bracketed i] := by
  have htext : (Cursor.itemExpr expr i).toList = expr.toList ++ bracketed i := by
    simp [Cursor.itemExpr, bracketed, toString, Nat.toList_repr]
  rw [alternatives, htext]
  exact (Text.splitAt_concat hexpr).2 _ (notMem_bracketed (by decide) (by decide) (by decide) i)

/-- The chain of a last alternative, and that of the expression of an item. -/
theorem resolve_bracketed {last : List Char} {segs : List (List Char)} (hne : Text.trim last ≠ [])
    (hright : Text.trimRight last = last)
    (hsplit : Text.splitAt '.' (Text.trim last) = segs ++ [seg]) (t : Tree) (i : Nat) :
    resolve t (Text.trim (last ++ bracketed i)) =
      andThen (andThen (walk t segs) fun n => walk n [seg ++ bracketed i])
        fun node => .ok (nonEmpty node) := by
  have htrim : Text.trim (last ++ bracketed i) = Text.trim last ++ bracketed i := by
    have hend : ∀ c ∈ (bracketed i).getLast?, Text.isBlank c = false := by
      rw [getLast?_bracketed]
      rintro c ⟨⟩
      decide
    exact Text.trim_append hne hright (List.cons_ne_nil _ _) hend
  have hextended : Text.splitAt '.' (Text.trim last ++ bracketed i) =
      segs ++ [seg ++ bracketed i] :=
    (Text.splitAt_concat hsplit).2 _ (notMem_bracketed (by decide) (by decide) (by decide) i)
  rw [htrim, resolve_of_ne_nil t (by simp [hne]), hextended, walk_append]

/-- A node that counts as present is the node itself. -/
theorem eq_of_nonEmpty {node v : Tree} (h : nonEmpty node = some v) : node = v := by
  rw [nonEmpty] at h
  split at h
  · cases h
  · exact Option.some.inj h

/-- A search that finds a list in its last alternative. -/
theorem exists_walk_of_resolve {last : List Char}
    (hlast : resolve t (Text.trim last) = .ok (some (.list items))) :
    Text.trim last ≠ [] ∧ ∃ segs seg n, Text.splitAt '.' (Text.trim last) = segs ++ [seg] ∧
      walk t segs = .ok (some n) ∧ walk n [seg] = .ok (some (.list items)) ∧ items ≠ [] := by
  have hne : Text.trim last ≠ [] := by
    intro hnil
    rw [hnil] at hlast
    cases hlast
  obtain ⟨segs, seg, hsplit⟩ := Text.exists_splitAt_eq_concat '.' (Text.trim last)
  rw [resolve_of_ne_nil t hne, hsplit, walk_append] at hlast
  refine ⟨hne, segs, seg, ?_⟩
  rcases hsegs : walk t segs with e | _ | n <;> rw [hsegs] at hlast
  · cases hlast
  · cases hlast
  · rw [andThen] at hlast
    rcases hseg : walk n [seg] with e | _ | node <;> rw [hseg] at hlast
    · cases hlast
    · cases hlast
    · have hnode : nonEmpty node = some (.list items) := Except.ok.inj hlast
      obtain rfl := eq_of_nonEmpty hnode
      refine ⟨n, hsplit, rfl, hseg, ?_⟩
      rintro rfl
      cases hnode

/-- An index that applies to a list selects one of its items. -/
theorem get_itemExpr {expr : String} (hright : Text.trimRight expr.toList = expr.toList)
    (hget : get t expr = .ok (some (.list items))) (htakes : TakesIndex t expr)
    (hi : i < items.length) (hlimit : i < indexLimit) :
    get t (Cursor.itemExpr expr i) = .ok (nonEmpty items[i]) := by
  obtain ⟨earlier, last, hexpr⟩ := Text.exists_splitAt_eq_concat ',' expr.toList
  have hparts : alternatives expr = earlier ++ [last] := hexpr
  have hearlier : firstValue t earlier = .ok none := by
    rw [firstValue_eq_none_iff]
    simpa [hparts] using htakes.earlier
  have hlast : resolve t (Text.trim last) = .ok (some (.list items)) := by
    rw [get, hparts, firstValue_append, hearlier, firstValue_singleton] at hget
    exact hget
  obtain ⟨hne, segs, seg, n, hsplit, hsegs, hseg, -⟩ := exists_walk_of_resolve hlast
  have hunbracketed : '[' ∉ seg := by simpa [lastSegment, hparts, hsplit] using htakes.unbracketed
  have hlastRight : Text.trimRight last = last :=
    Text.trimRight_of_isSuffix (Text.splitAt_concat hexpr).1 hright
  rw [get, alternatives_itemExpr hparts, firstValue_append, hearlier, firstValue_singleton,
    resolve_bracketed hne hlastRight hsplit, hsegs]
  simp only [orElse, andThen, walk_bracketed hunbracketed hseg hi hlimit]

/-- An index that does not apply to a list leaves the list as a whole. -/
theorem get_itemExpr_of_not_takesIndex {expr : String}
    (hright : Text.trimRight expr.toList = expr.toList)
    (hget : get t expr = .ok (some (.list items))) (htakes : ¬ TakesIndex t expr) (i : Nat) :
    get t (Cursor.itemExpr expr i) = .ok (some (.list items)) := by
  obtain ⟨earlier, last, hexpr⟩ := Text.exists_splitAt_eq_concat ',' expr.toList
  have hparts : alternatives expr = earlier ++ [last] := hexpr
  rw [get, alternatives_itemExpr hparts, firstValue_append, firstValue_singleton]
  rw [get, hparts, firstValue_append, firstValue_singleton] at hget
  rcases hearlier : firstValue t earlier with e | _ | v <;> rw [hearlier] at hget
  · cases hget
  · -- the list comes from the last alternative, whose last segment then has a bracket
    have hlast : resolve t (Text.trim last) = .ok (some (.list items)) := hget
    obtain ⟨hne, segs, seg, n, hsplit, hsegs, hseg, hitems⟩ := exists_walk_of_resolve hlast
    have hbracketed : '[' ∈ seg := by
      refine Decidable.byContradiction fun hseg => htakes ⟨?_, ?_⟩
      · rw [hparts, List.dropLast_concat]
        exact (firstValue_eq_none_iff t earlier).mp hearlier
      · simpa [lastSegment, hparts, hsplit] using hseg
    have hlastRight : Text.trimRight last = last :=
      Text.trimRight_of_isSuffix (Text.splitAt_concat hexpr).1 hright
    rw [resolve_bracketed hne hlastRight hsplit, hsegs]
    simp [orElse, andThen, walk_bracketed_of_mem hbracketed, hseg, nonEmpty, Tree.isEmpty, hitems]
  · exact hget

end Path

end QueryGateway
