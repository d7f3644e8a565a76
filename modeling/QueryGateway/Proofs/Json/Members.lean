import QueryGateway.Json.Reader
import QueryGateway.Proofs.Tree.WellFormed

/-!
# Members of objects

The members of an object are read one after the other, and of repeated keys the last one
stays. Here they are collected as they are written, with the repeated keys: the map that a
text denotes is made of these pairs, and every map that is read comes from such members. So
the trees that are read are well formed.
-/

namespace QueryGateway.Json

/-- The members up to the end of an object, in their order. The fuel bounds their number and
the depth what is nested in them. -/
def readMembers : Nat → Nat → Bool → Input → Except Failure (List (String × Tree) × Input)
  | 0, _, _, i => .error (i.fail .recursionLimit)
  | fuel + 1, depth, first, i => do
    match ← nextKey first i with
    | (none, after) => .ok ([], after)
    | (some i, _) =>
      let (key, after) ← readString i.advance
      let after ← readColon after
      let (t, after) ← readValue fuel depth after
      let (rest, after) ← readMembers fuel depth false after
      .ok ((key, t) :: rest, after)

/-- The members of the object that a text denotes, in their order and with repeated keys. -/
def members? (bytes : Bytes) : Option (List (String × Tree)) :=
  let i := (Input.mk bytes 1 0).skipBlanks
  if i.peek? = some 0x7B then
    match readMembers (2 * bytes.length + 1) (depthLimit - 1) true i.advance with
    | .ok (members, after) => if after.skipBlanks.peek? = none then some members else none
    | .error _ => none
  else none

/-- Reading fields is setting the members that are written, one after the other. -/
theorem readFields_eq (fuel depth : Nat) (first : Bool) (fields : Fields) (i : Input) :
    readFields fuel depth first fields i = (readMembers fuel depth first i).map
      fun (members, after) => (.map (fields.insertAll members), after) := by
  induction fuel generalizing first fields i with
  | zero => rfl
  | succ fuel ih =>
    rw [readFields, readMembers]
    rcases nextKey first i with e | ⟨_ | at_, after⟩
    · rfl
    · rfl
    · simp only [bind, Except.bind]
      rcases readString at_.advance with e | ⟨key, after⟩
      · rfl
      · dsimp only
        rcases readColon after with e | after
        · rfl
        · dsimp only
          rcases readValue fuel depth after with e | ⟨t, after⟩
          · rfl
          · dsimp only
            rw [ih]
            rcases readMembers fuel depth false after with e | ⟨rest, after⟩ <;> rfl

/-! ## The kinds of values -/

/-- Whether every tree that a calculation gives has a property. -/
def Gives (P : Tree → Prop) (x : Except Failure (Tree × Input)) : Prop :=
  ∀ t after, x = .ok (t, after) → P t

section

variable {P : Tree → Prop} {t : Tree} {i : Input}

/-- What a calculation gives has every weaker property as well. -/
theorem Gives.mono {Q : Tree → Prop} {x : Except Failure (Tree × Input)} (hx : Gives P x)
    (hPQ : ∀ t, P t → Q t) : Gives Q x :=
  fun t after h => hPQ t (hx t after h)

/-- A failure gives no tree. -/
theorem gives_error (e : Failure) : Gives P (.error e) := by
  intro t after h
  cases h

/-- A result gives its tree. -/
theorem gives_ok (ht : P t) : Gives P (.ok (t, i)) := by
  rintro t' after ⟨⟩
  exact ht

/-- A calculation gives what its second part gives after the first one. -/
theorem gives_bind {α : Type} {x : Except Failure α} {f : α → Except Failure (Tree × Input)}
    (hf : ∀ a, x = .ok a → Gives P (f a)) : Gives P (x >>= f) := by
  cases x with
  | error e => exact gives_error e
  | ok a => exact hf a rfl

/-- A choice gives what both its sides give. -/
theorem gives_ite {c : Prop} [Decidable c] {x y : Except Failure (Tree × Input)}
    (hx : Gives P x) (hy : Gives P y) : Gives P (if c then x else y) := by
  split
  · exact hx
  · exact hy

/-- A name gives its value. -/
theorem gives_readName (ht : P t) (rest : Bytes) (i : Input) : Gives P (readName t rest i) := by
  induction rest generalizing i with
  | nil => exact gives_ok ht
  | cons b rest ih =>
    rw [readName]
    split
    · exact gives_error _
    · exact gives_ite (ih _) (gives_error _)

end

section

variable (negative : Bool) (significand dropped : Nat) (exponent : Int) (i : Input)

/-- A real number is a scalar. -/
theorem gives_finish : Gives Tree.IsScalar (finish negative significand exponent i) := by
  rw [finish]
  split
  · exact gives_error _
  · exact gives_ok trivial

/-- A number with an exponent is a scalar. -/
theorem gives_readExponent :
    Gives Tree.IsScalar (readExponent negative significand exponent i) := by
  dsimp only [readExponent]
  split
  · exact gives_error _
  · split
    · exact gives_error _
    · split
      · exact gives_finish _ _ _ _
      · exact gives_ite (gives_error _) (gives_ok trivial)

/-- A number with a fraction is a scalar. -/
theorem gives_readFraction :
    Gives Tree.IsScalar (readFraction negative significand exponent i) := by
  dsimp only [readFraction]
  split
  · split <;> exact gives_error _
  · rw [readTail]
    split
    · exact gives_readExponent _ _ _ _
    · exact gives_readExponent _ _ _ _
    · exact gives_finish _ _ _ _

/-- What follows the integer digits of a number makes it a scalar. -/
theorem gives_readAfterInteger :
    Gives Tree.IsScalar (readAfterInteger negative significand dropped i) := by
  rw [readAfterInteger]
  split
  · exact gives_readFraction _ _ _ _
  · exact gives_readExponent _ _ _ _
  · exact gives_readExponent _ _ _ _
  · split
    · exact gives_finish _ _ _ _
    · split
      · exact gives_ok trivial
      · split
        · exact gives_finish _ _ _ _
        · exact gives_ok trivial

/-- A number is a scalar. -/
theorem gives_readNumber : Gives Tree.IsScalar (readNumber negative i) := by
  rw [readNumber]
  split
  · exact gives_error _
  · split
    · split
      · split
        · exact gives_error _
        · exact gives_readAfterInteger _ _ _ _
      · exact gives_readAfterInteger _ _ _ _
    · split
      · exact gives_readAfterInteger _ _ _ _
      · exact gives_error _

end

/-- What the first byte of a value says about its kind. -/
theorem gives_readValue {P : Tree → Prop} {fuel depth : Nat} {i : Input}
    (hscalar : ∀ t : Tree, t.IsScalar → P t)
    (hlist : i.skipBlanks.peek? = some 0x5B →
      Gives P (readItems fuel (depth - 1) true [] i.skipBlanks.advance))
    (hmap : i.skipBlanks.peek? = some 0x7B →
      Gives P (readFields fuel (depth - 1) true [] i.skipBlanks.advance)) :
    Gives P (readValue (fuel + 1) depth i) := by
  rw [readValue]
  dsimp only
  split
  · exact gives_error _
  · next b hb =>
    rw [hb] at hlist hmap
    repeat' split
    · exact gives_readName (hscalar .null trivial) _ _
    · exact gives_readName (hscalar (.bool true) trivial) _ _
    · exact gives_readName (hscalar (.bool false) trivial) _ _
    · exact (gives_readNumber _ _).mono hscalar
    · exact (gives_readNumber _ _).mono hscalar
    · exact gives_bind fun (s, after) _ => gives_ok (hscalar _ trivial)
    · exact gives_error _
    · next hbracket _ => exact hlist (congrArg some (beq_iff_eq.mp hbracket))
    · exact gives_error _
    · next hbrace _ => exact hmap (congrArg some (beq_iff_eq.mp hbrace))
    · exact gives_error _

/-- What is read up to the end of a list is a list. -/
theorem gives_readItems (fuel depth : Nat) (first : Bool) (items : List Tree) (i : Input) :
    Gives (fun t => ∃ items, t = .list items) (readItems fuel depth first items i) := by
  induction fuel generalizing first items i with
  | zero => exact gives_error _
  | succ fuel ih =>
    rw [readItems]
    refine gives_bind fun next _ => ?_
    rcases next with ⟨_ | at_, after⟩
    · exact gives_ok ⟨_, rfl⟩
    · exact gives_bind fun (t, after) _ => ih _ _ _

/-! ## Objects -/

/-- A value that does not begin with a brace is no map. -/
theorem gives_readValue_of_ne_brace {fuel depth : Nat} {i : Input}
    (hpeek : i.skipBlanks.peek? ≠ some 0x7B) :
    Gives (fun t => ∀ fields, t ≠ .map fields) (readValue (fuel + 1) depth i) := by
  apply gives_readValue
  · rintro t ht fields rfl
    exact ht
  · intro _ t after h fields hmap
    obtain ⟨items, rfl⟩ := gives_readItems _ _ _ _ _ t after h
    cases hmap
  · exact fun hbrace => absurd hbrace hpeek

/-- A value that begins with a brace has the members up to the closing one. -/
theorem readValue_of_brace {fuel depth : Nat} {i : Input} (hdepth : ¬ depth ≤ 1)
    (hpeek : i.skipBlanks.peek? = some 0x7B) :
    readValue (fuel + 1) depth i =
      (readMembers fuel (depth - 1) true i.skipBlanks.advance).map
        fun (members, after) => (.map (Fields.ofList members), after) := by
  rw [readValue]
  simp [hpeek, isDigitByte, hdepth, readFields_eq, Fields.ofList]

/-- **The object that a text denotes.** A text denotes a map exactly if it has members, and
then the map is made of them, so that of repeated keys the last one stays. -/
theorem read_eq_map_iff {bytes : Bytes} {fields : Fields} :
    read bytes = .ok (.map fields) ↔
      ∃ members, members? bytes = some members ∧ fields = Fields.ofList members := by
  rw [members?]
  split
  · next hpeek =>
    rw [read, readValue_of_brace (by decide) hpeek]
    rcases readMembers (2 * bytes.length + 1) (depthLimit - 1) true
        (Input.skipBlanks ⟨bytes, 1, 0⟩).advance with e | ⟨members, after⟩
    · simp [Except.map, bind, Except.bind]
    · rcases hafter : after.skipBlanks.peek? with _ | b
      · simp [Except.map, bind, Except.bind, hafter, eq_comm]
      · simp [Except.map, bind, Except.bind, hafter]
  · next hpeek =>
    constructor
    · intro h
      rw [read] at h
      rcases hread : readValue (2 * bytes.length + 2) depthLimit ⟨bytes, 1, 0⟩
        with e | ⟨t, after⟩ <;> rw [hread] at h
      · cases h
      · simp only [bind, Except.bind] at h
        split at h
        · obtain rfl := Except.ok.inj h
          exact absurd rfl (gives_readValue_of_ne_brace hpeek _ after hread fields)
        · cases h
    · rintro ⟨members, h, -⟩
      cases h

example : (members? (Utf8.ofString "\x7b\"b\": 1, \"a\": [2], \"b\": null\x7d")).map
    (·.map fun (k, t) => (k, t.toText)) = some [("b", "1"), ("a", "[2]"), ("b", "")] := by
  decide +kernel

/-! ## Well-formed documents -/

/-- Values are well formed, and lists and maps stay so with each further value. -/
theorem wellFormed_readers (fuel : Nat) :
    (∀ depth i, Gives Tree.WellFormed (readValue fuel depth i)) ∧
    (∀ depth first items i, (∀ t ∈ items, t.WellFormed) →
      Gives Tree.WellFormed (readItems fuel depth first items i)) ∧
    ∀ depth first fields i, (Tree.map fields).WellFormed →
      Gives Tree.WellFormed (readFields fuel depth first fields i) := by
  induction fuel with
  | zero =>
    exact ⟨fun _ _ => gives_error _, fun _ _ _ _ _ => gives_error _,
      fun _ _ _ _ _ => gives_error _⟩
  | succ fuel ih =>
    obtain ⟨hvalue, hitems, hfields⟩ := ih
    refine ⟨fun depth i => ?_, fun depth first items i hwell => ?_,
      fun depth first fields i hwell => ?_⟩
    · refine gives_readValue (fun t ht => ht.wellFormed) (fun _ => ?_) (fun _ => ?_)
      · exact hitems _ _ _ _ (by simp)
      · exact hfields _ _ _ _ (.map .nil (by simp))
    · rw [readItems]
      refine gives_bind fun next _ => ?_
      rcases next with ⟨_ | at_, after⟩
      · exact gives_ok (.list fun t ht => hwell t (List.mem_reverse.mp ht))
      · refine gives_bind fun (t, after) ht => hitems _ _ _ _ ?_
        exact List.forall_mem_cons.mpr ⟨hvalue _ _ t after ht, hwell⟩
    · rw [readFields]
      refine gives_bind fun next _ => ?_
      rcases next with ⟨_ | at_, after⟩
      · exact gives_ok hwell
      · refine gives_bind fun (key, after) _ => gives_bind fun after _ => ?_
        refine gives_bind fun (t, after) ht => hfields _ _ _ _ ?_
        exact hwell.insert key (hvalue _ _ t after ht)

/-- Every tree that is read is well formed. -/
theorem wellFormed_of_read {bytes : Bytes} {t : Tree} (h : read bytes = .ok t) :
    t.WellFormed := by
  rw [read] at h
  rcases hread : readValue (2 * bytes.length + 2) depthLimit ⟨bytes, 1, 0⟩
    with e | ⟨t', after⟩ <;> rw [hread] at h
  · cases h
  · simp only [bind, Except.bind] at h
    split at h
    · obtain rfl := Except.ok.inj h
      exact (wellFormed_readers _).1 _ _ _ _ hread
    · cases h

end QueryGateway.Json
