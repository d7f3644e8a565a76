import QueryGateway.Toml.Document
import QueryGateway.Proofs.Toml.Tables

/-!
# Well-formed documents

Every value that is read is well formed: scalars and dates are, and lists and tables are made
of values that are. So is the tree of a document, line by line.
-/

namespace QueryGateway.Toml

/-! ## Scalars -/

/-- Whether every tree that a calculation gives is well formed. -/
def GivesWellFormed (x : Option (Tree × List Char)) : Prop :=
  ∀ t rest, x = some (t, rest) → t.WellFormed

/-- A result gives its tree. -/
theorem givesWellFormed_some {t : Tree} (ht : t.WellFormed) (rest : List Char) :
    GivesWellFormed (some (t, rest)) := by
  rintro t' rest' ⟨⟩
  exact ht

/-- No result gives no tree. -/
theorem givesWellFormed_none : GivesWellFormed none := by
  intro t rest h
  cases h

/-- A calculation gives what its second part gives after the first one. -/
theorem givesWellFormed_bind {α : Type} {x : Option α} {f : α → Option (Tree × List Char)}
    (hf : ∀ a, x = some a → GivesWellFormed (f a)) : GivesWellFormed (x >>= f) := by
  cases x with
  | none => exact givesWellFormed_none
  | some a => exact hf a rfl

/-- A scalar that may be refused gives a well-formed tree. -/
theorem givesWellFormed_scalar {x : Option Tree} (hx : ∀ t, x = some t → t.IsScalar)
    (rest : List Char) : GivesWellFormed (x >>= fun t => some (t, rest)) :=
  givesWellFormed_bind fun t ht => givesWellFormed_some (hx t ht).wellFormed rest

/-- An integer is a scalar. -/
theorem isScalar_of_integerOf? {negative : Bool} {n : Nat} {t : Tree}
    (h : integerOf? negative n = some t) : t.IsScalar := by
  simp only [integerOf?, Option.ite_none_right_eq_some] at h
  obtain rfl := Option.some.inj h.2
  trivial

/-- A real is a scalar. -/
theorem isScalar_of_realOf? {negative : Bool} {whole fraction : List Char} {exponent : Int}
    {t : Tree} (h : realOf? negative whole fraction exponent = some t) : t.IsScalar := by
  dsimp only [realOf?] at h
  split at h
  · obtain rfl := Option.some.inj h
    trivial
  · split at h
    · obtain rfl := Option.some.inj h
      trivial
    · cases h

/-- A real with an exponent is well formed. -/
theorem givesWellFormed_readExponent? (negative : Bool) (whole fraction s : List Char) :
    GivesWellFormed (readExponent? negative whole fraction s) := by
  rw [readExponent?]
  split
  refine givesWellFormed_bind fun digits _ => ?_
  exact givesWellFormed_scalar (fun t => isScalar_of_realOf?) _

/-- A decimal number is well formed. -/
theorem givesWellFormed_readDecimal? (negative : Bool) (s : List Char) :
    GivesWellFormed (readDecimal? negative s) := by
  rw [readDecimal?]
  refine givesWellFormed_bind fun whole _ => ?_
  dsimp only
  split
  · refine givesWellFormed_bind fun fraction _ => ?_
    split
    · exact givesWellFormed_readExponent? _ _ _ _
    · exact givesWellFormed_readExponent? _ _ _ _
    · exact givesWellFormed_scalar (fun t => isScalar_of_realOf?) _
  · exact givesWellFormed_readExponent? _ _ _ _
  · exact givesWellFormed_readExponent? _ _ _ _
  · exact givesWellFormed_scalar (fun t => isScalar_of_integerOf?) _

/-- A number with a sign is well formed. -/
theorem givesWellFormed_readSigned? (negative : Bool) (s : List Char) :
    GivesWellFormed (readSigned? negative s) := by
  unfold readSigned?
  split
  · exact givesWellFormed_some .null _
  · exact givesWellFormed_some .null _
  · exact givesWellFormed_readDecimal? _ _

/-- An integer in another base is well formed. -/
theorem givesWellFormed_readInBase? (base : Nat) (s : List Char) :
    GivesWellFormed (readInBase? base s) := by
  rw [readInBase?]
  refine givesWellFormed_bind fun digits _ => ?_
  exact givesWellFormed_scalar (fun t => isScalar_of_integerOf?) _

/-- A number is well formed. -/
theorem givesWellFormed_readNumber? (s : List Char) : GivesWellFormed (readNumber? s) := by
  unfold readNumber?
  split
  · exact givesWellFormed_readInBase? _ _
  · exact givesWellFormed_readInBase? _ _
  · exact givesWellFormed_readInBase? _ _
  · exact givesWellFormed_readSigned? _ _
  · exact givesWellFormed_readSigned? _ _
  · exact givesWellFormed_readSigned? _ _

/-- A value that is no array and no inline table is well formed. -/
theorem givesWellFormed_readScalar? (s : List Char) : GivesWellFormed (readScalar? s) := by
  have hstring (s : List Char) :
      GivesWellFormed ((readString? s).map fun result => (.text result.1, result.2)) := by
    cases readString? s with
    | none => exact givesWellFormed_none
    | some result => exact givesWellFormed_some (.text _) _
  have hdate (text : List Char) : (dateTimeTree text).WellFormed :=
    .map (List.pairwise_singleton _ _) (by simp [Tree.WellFormed.text])
  unfold readScalar?
  split
  · exact hstring _
  · exact hstring _
  · exact givesWellFormed_some (.bool true) _
  · exact givesWellFormed_some (.bool false) _
  · split
    · exact givesWellFormed_some (hdate _) _
    · exact givesWellFormed_none
    · exact givesWellFormed_readNumber? _

/-! ## Arrays and inline tables -/

/-- Values are well formed, and arrays and inline tables stay so with each further value. -/
theorem givesWellFormed_readers (fuel : Nat) :
    (∀ depth s, GivesWellFormed (readValue? fuel depth s)) ∧
    (∀ depth items s, (∀ t ∈ items, t.WellFormed) →
      GivesWellFormed (readItems? fuel depth items s)) ∧
    ∀ depth table s, table.Sound → GivesWellFormed (readPairs? fuel depth table s) := by
  induction fuel with
  | zero =>
    exact ⟨fun _ _ => givesWellFormed_none, fun _ _ _ _ => givesWellFormed_none,
      fun _ _ _ _ => givesWellFormed_none⟩
  | succ fuel ih =>
    obtain ⟨hvalue, hitems, hpairs⟩ := ih
    refine ⟨fun depth s => ?_, fun depth items s hwell => ?_, fun depth table s hsound => ?_⟩
    · unfold readValue?
      split
      · split
        · exact givesWellFormed_none
        · exact hitems _ _ _ (by simp)
      · split
        · exact givesWellFormed_none
        · split
          · exact givesWellFormed_some (.map .nil (by simp)) _
          · exact hpairs _ _ _ (by simp [Table.Sound])
      · exact givesWellFormed_readScalar? _
    · unfold readItems?
      split
      · exact givesWellFormed_some (.list fun t ht => hwell t (List.mem_reverse.mp ht)) _
      · refine givesWellFormed_bind fun result ht => ?_
        obtain ⟨t, rest⟩ := result
        have hmore : ∀ u ∈ t :: items, u.WellFormed :=
          List.forall_mem_cons.mpr ⟨hvalue _ _ t rest ht, hwell⟩
        dsimp only
        split
        · exact hitems _ _ _ hmore
        · exact givesWellFormed_some (.list fun u hu => hmore u (List.mem_reverse.mp hu)) _
        · exact givesWellFormed_none
    · unfold readPairs?
      refine givesWellFormed_bind fun keys _ => givesWellFormed_bind fun rest _ => ?_
      refine givesWellFormed_bind fun result ht => givesWellFormed_bind fun table' htable => ?_
      obtain ⟨t, rest⟩ := result
      have hmore := hsound.insert (hvalue _ _ t rest ht) htable
      split
      · exact hpairs _ _ _ hmore
      · exact givesWellFormed_some hmore.wellFormed_toTree _
      · exact givesWellFormed_none

/-! ## Documents -/

namespace Document

/-- Whether every value in a document is well formed. -/
structure Sound (d : Document) : Prop where
  root : d.root.Sound
  current : d.current.Sound

variable {d d' : Document} {root : Table}

/-- The table of a sound document is sound. -/
theorem Sound.close (hd : d.Sound) (h : d.close = some root) : root.Sound := by
  rw [Document.close] at h
  split at h
  · obtain rfl := Option.some.inj h
    exact hd.current
  · refine hd.root.update (fun parent last hparent hlast => ?_) h
    split at hlast
    · obtain rfl := Option.some.inj hlast
      exact hparent.push _ (.table hd.current)
    · next items hitems _ =>
      obtain rfl := Option.some.inj hlast
      refine hparent.replace _ (.tables ?_)
      cases hparent.get? hitems with
      | tables hall =>
        exact List.forall_mem_append.mpr ⟨hall, List.forall_mem_singleton.mpr hd.current⟩
    · cases hlast

/-- Opening a table keeps a document sound. -/
theorem Sound.openTable (hd : d.Sound) {path : List String} (h : d.openTable path = some d') :
    d'.Sound := by
  obtain ⟨root, hclose, h⟩ := Option.bind_eq_some_iff.mp h
  obtain ⟨⟨entries, root'⟩, hvisit, h⟩ := Option.bind_eq_some_iff.mp h
  obtain rfl := Option.some.inj h
  obtain ⟨hentries, hroot⟩ := Table.Sound.visit (P := fun entries => ∀ p ∈ entries, p.2.Sound)
    (by
      intro parent a last hparent hlast
      split at hlast
      · obtain ⟨rfl, rfl⟩ := Prod.mk.inj (Option.some.inj hlast)
        exact ⟨by simp, hparent⟩
      · next entries hfound =>
        obtain ⟨rfl, rfl⟩ := Prod.mk.inj (Option.some.inj hlast)
        cases hparent.get? hfound with
        | table hall => exact ⟨hall, hparent.erase _⟩
      · cases hlast) (hd.close hclose) hvisit
  exact ⟨hroot, hentries⟩

/-- Opening an item of a list of tables keeps a document sound. -/
theorem Sound.openItem (hd : d.Sound) {path : List String} (h : d.openItem path = some d') :
    d'.Sound := by
  obtain ⟨root, hclose, h⟩ := Option.bind_eq_some_iff.mp h
  obtain ⟨root', hupdate, h⟩ := Option.bind_eq_some_iff.mp h
  obtain rfl := Option.some.inj h
  refine ⟨?_, by simp [Table.Sound]⟩
  refine (hd.close hclose).update (fun parent last hparent hlast => ?_) hupdate
  split at hlast
  · obtain rfl := Option.some.inj hlast
    exact hparent.push _ (.tables (by simp))
  · obtain rfl := Option.some.inj hlast
    exact hparent
  · cases hlast

/-- Reading a header keeps a document sound. -/
theorem Sound.readHeader (hd : d.Sound) {s rest : List Char}
    (h : d.readHeader s = some (d', rest)) : d'.Sound := by
  unfold Document.readHeader at h
  split at h
  · simp only [bind, Option.bind_eq_some_iff, Option.some.injEq, Prod.mk.injEq] at h
    obtain ⟨_, -, _, -, _, -, _, -, _, hopen, rfl, -⟩ := h
    exact hd.openItem hopen
  · simp only [bind, Option.bind_eq_some_iff, Option.some.injEq, Prod.mk.injEq] at h
    obtain ⟨_, -, _, -, _, -, _, hopen, rfl, -⟩ := h
    exact hd.openTable hopen

/-- Reading a pair keeps a document sound. -/
theorem Sound.readPair (hd : d.Sound) {s rest : List Char}
    (h : d.readPair s = some (d', rest)) : d'.Sound := by
  simp only [Document.readPair, Document.insert, bind, Option.bind_eq_some_iff, Option.some.injEq,
    Prod.mk.injEq] at h
  obtain ⟨_, -, _, -, ⟨t, _⟩, hvalue, _, -, _, ⟨_, hinsert, rfl⟩, rfl, -⟩ := h
  exact ⟨hd.root, hd.current.insert ((givesWellFormed_readers _).1 _ _ _ _ hvalue) hinsert⟩

/-- Reading lines keeps a document sound. -/
theorem Sound.readLines (hd : d.Sound) {fuel : Nat} {s : List Char}
    (h : d.readLines fuel s = some d') : d'.Sound := by
  induction fuel generalizing d s with
  | zero => cases h
  | succ fuel ih =>
    unfold Document.readLines at h
    split at h
    · obtain rfl := Option.some.inj h
      exact hd
    · obtain ⟨⟨next, rest⟩, hheader, h⟩ := Option.bind_eq_some_iff.mp h
      exact ih (hd.readHeader hheader) h
    · split at h
      · obtain ⟨rest, -, h⟩ := Option.bind_eq_some_iff.mp h
        exact ih hd h
      · exact ih hd h
      · obtain ⟨⟨next, rest⟩, hpair, h⟩ := Option.bind_eq_some_iff.mp h
        exact ih (hd.readPair hpair) h

end Document

/-- The tree of a document is well formed. -/
theorem wellFormed_of_read? {text : String} {t : Tree} (h : read? text = some t) :
    t.WellFormed := by
  obtain ⟨d, hd, h⟩ := Option.bind_eq_some_iff.mp h
  obtain ⟨root, hroot, h⟩ := Option.bind_eq_some_iff.mp h
  obtain rfl := Option.some.inj h
  have hempty : Document.Sound {} := ⟨by simp [Table.Sound], by simp [Table.Sound]⟩
  exact ((hempty.readLines hd).close hroot).wellFormed_toTree

end QueryGateway.Toml
