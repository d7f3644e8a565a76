import QueryGateway.Text.FormUrl
import QueryGateway.Tree.Basic

/-!
# Setting and looking up fields

Setting a key of a map changes the value of that key only and keeps the keys in ascending
order. Of several values that are set for a key the last one stays, whereas a query string
keeps the first one.
-/

namespace QueryGateway

/-! ## Lists with one value for each key -/

section

variable {α β : Type} [BEq α] [LawfulBEq α] {l : List (α × β)} {k : α}

/-- A key that does not occur has no value. -/
theorem lookup_eq_none_of_notMem (h : k ∉ l.map Prod.fst) : l.lookup k = none := by
  rw [List.lookup_eq_none_iff]
  intro p hp
  rw [bne_iff_ne]
  rintro rfl
  exact h (List.mem_map_of_mem hp)

/-- A key has a value exactly if it occurs. -/
theorem isSome_lookup_iff : (l.lookup k).isSome = true ↔ k ∈ l.map Prod.fst := by
  constructor
  · intro h
    obtain ⟨b, hb⟩ := Option.isSome_iff_exists.mp h
    obtain ⟨front, back, rfl, -⟩ := List.lookup_eq_some_iff.mp hb
    simp
  · intro h
    rw [← Option.ne_none_iff_isSome]
    intro hnone
    obtain ⟨p, hp, rfl⟩ := List.mem_map.mp h
    have hne := List.lookup_eq_none_iff.mp hnone p hp
    simp at hne

/-- Where keys differ, the first value of a key is also the last one. -/
theorem lookup_reverse_of_nodup (h : (l.map Prod.fst).Nodup) :
    l.reverse.lookup k = l.lookup k := by
  induction l with
  | nil => rfl
  | cons p l ih =>
    obtain ⟨a, b⟩ := p
    rw [List.map_cons, List.nodup_cons] at h
    rw [List.reverse_cons, List.lookup_append, ih h.2]
    by_cases hk : k = a
    · subst hk
      rw [lookup_eq_none_of_notMem h.1, List.lookup_cons_self, List.lookup_cons_self]
      rfl
    · have hbeq : (k == a) = false := beq_eq_false_iff_ne.mpr hk
      simp [List.lookup_cons, hbeq]

end

/-! ## Fields -/

namespace Fields

/-- Whether the keys of fields ascend. Then they differ. -/
def Ascending (fields : Fields) : Prop :=
  List.Pairwise (fun a b => a.1 < b.1) fields

variable {key k : String} {value : Tree} {fields : Fields}

/-- A key has the value that it is set to. -/
theorem get?_insert_self : (fields.insert key value).get? key = some value := by
  induction fields with
  | nil => simp [insert, get?]
  | cons p rest ih =>
    obtain ⟨a, t⟩ := p
    rw [insert]
    split
    · simp [get?]
    · next hlt =>
      split
      · simp [get?]
      · next hne => rwa [get?, List.lookup_cons, Bool.eq_false_iff.mpr hne]

/-- Setting a key leaves the values of the others. -/
theorem get?_insert_of_ne (hne : k ≠ key) :
    (fields.insert key value).get? k = fields.get? k := by
  have hk : (k == key) = false := beq_eq_false_iff_ne.mpr hne
  induction fields with
  | nil => rw [insert, get?, List.lookup_cons, hk, get?]
  | cons p rest ih =>
    obtain ⟨a, t⟩ := p
    rw [insert]
    split
    · rw [get?, get?, List.lookup_cons, hk]
    · next hlt =>
      split
      · next hkey =>
        obtain rfl := beq_iff_eq.mp hkey
        rw [get?, get?, List.lookup_cons, List.lookup_cons, hk]
      · rw [get?, get?, List.lookup_cons, List.lookup_cons]
        cases k == a with
        | true => rfl
        | false => exact ih

/-- Of the values that are set for a key the last one stays. -/
theorem get?_insertAll (pairs : List (String × Tree)) (fields : Fields) (k : String) :
    (fields.insertAll pairs).get? k = (pairs.reverse.lookup k).or (fields.get? k) := by
  induction pairs generalizing fields with
  | nil => rfl
  | cons p pairs ih =>
    obtain ⟨key, value⟩ := p
    have hstep : fields.insertAll ((key, value) :: pairs) =
        (fields.insert key value).insertAll pairs := rfl
    rw [hstep, ih, List.reverse_cons, List.lookup_append, Option.or_assoc]
    congr 1
    by_cases hk : k = key
    · subst hk
      rw [get?_insert_self, List.lookup_cons_self, Option.some_or]
    · have hbeq : (k == key) = false := beq_eq_false_iff_ne.mpr hk
      rw [get?_insert_of_ne hk, List.lookup_cons, hbeq]
      rfl

/-- Fields that are made of pairs have the last value of each key. -/
theorem get?_ofList (pairs : List (String × Tree)) (k : String) :
    (ofList pairs).get? k = pairs.reverse.lookup k := by
  rw [ofList, get?_insertAll]
  exact Option.or_none

/-- A key has a value exactly if it occurs. -/
theorem mem_keys_iff : k ∈ fields.map Prod.fst ↔ (fields.get? k).isSome = true :=
  isSome_lookup_iff.symm

/-- Only the key that is set can be new. -/
theorem mem_insert {p : String × Tree} (hp : p ∈ fields.insert key value) :
    p = (key, value) ∨ p ∈ fields := by
  induction fields with
  | nil => exact .inl (List.mem_singleton.mp hp)
  | cons q rest ih =>
    obtain ⟨a, t⟩ := q
    rw [insert] at hp
    split at hp
    · exact List.mem_cons.mp hp
    · split at hp
      · rcases List.mem_cons.mp hp with hp | hp
        · exact .inl hp
        · exact .inr (List.mem_cons_of_mem _ hp)
      · rcases List.mem_cons.mp hp with hp | hp
        · exact .inr (hp ▸ List.mem_cons_self)
        · exact (ih hp).imp_right (List.mem_cons_of_mem _)

/-- Setting a key keeps the keys ascending. -/
theorem Ascending.insert (h : fields.Ascending) (key : String) (value : Tree) :
    (fields.insert key value).Ascending := by
  induction fields with
  | nil => exact List.pairwise_singleton _ _
  | cons p rest ih =>
    obtain ⟨a, t⟩ := p
    obtain ⟨hfirst, hrest⟩ := List.pairwise_cons.mp h
    rw [Fields.insert]
    split
    · next hlt =>
      refine List.pairwise_cons.mpr ⟨fun q hq => ?_, h⟩
      rcases List.mem_cons.mp hq with rfl | hq
      · exact hlt
      · exact String.lt_trans hlt (hfirst q hq)
    · next hlt =>
      split
      · next hkey =>
        obtain rfl := beq_iff_eq.mp hkey
        exact List.pairwise_cons.mpr ⟨hfirst, hrest⟩
      · next hkey =>
        refine List.pairwise_cons.mpr ⟨fun q hq => ?_, ih hrest⟩
        rcases mem_insert hq with rfl | hq
        · exact Std.lt_of_le_of_ne (String.not_lt.mp hlt) fun h => hkey (beq_iff_eq.mpr h.symm)
        · exact hfirst q hq

/-- Fields that are made of pairs have ascending keys. -/
theorem ascending_ofList (pairs : List (String × Tree)) : (ofList pairs).Ascending := by
  have hinsertAll : ∀ fields : Fields, fields.Ascending → (fields.insertAll pairs).Ascending := by
    induction pairs with
    | nil => exact fun fields h => h
    | cons p pairs ih => exact fun fields h => ih _ (h.insert p.1 p.2)
  exact hinsertAll [] .nil

/-- Ascending keys differ. -/
theorem Ascending.nodup (h : fields.Ascending) : (fields.map Prod.fst).Nodup := by
  rw [List.Nodup, List.pairwise_map]
  refine List.Pairwise.imp ?_ h
  intro a b hlt heq
  rw [heq] at hlt
  exact String.lt_irrefl b.1 hlt

/-- A key that is set for the first time is added. -/
theorem perm_insert (hnew : key ∉ fields.map Prod.fst) :
    (fields.insert key value).Perm ((key, value) :: fields) := by
  induction fields with
  | nil => exact .refl _
  | cons p rest ih =>
    obtain ⟨a, t⟩ := p
    rw [List.map_cons, List.mem_cons, not_or] at hnew
    rw [insert]
    split
    · exact .refl _
    · rw [if_neg (by simpa using hnew.1)]
      exact ((ih hnew.2).cons (a, t)).trans (.swap _ _ _)

/-- Pairs with different keys are the fields that are made of them. -/
theorem perm_ofList {pairs : List (String × Tree)} (h : (pairs.map Prod.fst).Nodup) :
    (ofList pairs).Perm pairs := by
  suffices hinsertAll : ∀ fields : Fields, ((pairs ++ fields).map Prod.fst).Nodup →
      (fields.insertAll pairs).Perm (pairs ++ fields) by
    simpa [ofList] using hinsertAll [] (by simpa using h)
  clear h
  induction pairs with
  | nil => exact fun fields _ => .refl _
  | cons p pairs ih =>
    intro fields hnodup
    have hmiddle : (pairs ++ p :: fields).Perm (p :: pairs ++ fields) := List.perm_middle
    have hnew : p.1 ∉ fields.map Prod.fst := by
      rw [List.cons_append, List.map_cons, List.nodup_cons, List.map_append, List.mem_append,
        not_or] at hnodup
      exact hnodup.1.2
    have hstep : (pairs ++ fields.insert p.1 p.2).Perm (p :: pairs ++ fields) :=
      ((perm_insert hnew).append_left pairs).trans hmiddle
    exact (ih _ ((hstep.map Prod.fst).nodup_iff.mpr hnodup)).trans hstep

/-- Ascending fields are determined by the pairs in them. -/
theorem Ascending.eq_of_perm {others : Fields} (h : fields.Ascending) (h' : others.Ascending)
    (hperm : fields.Perm others) : fields = others := by
  refine List.Perm.eq_of_pairwise (fun a b _ _ hab hba => ?_) h h' hperm
  exact absurd (String.lt_trans hab hba) (String.lt_irrefl a.1)

/-- The order of pairs with different keys does not matter. -/
theorem ofList_congr {pairs others : List (String × Tree)} (h : (pairs.map Prod.fst).Nodup)
    (hperm : pairs.Perm others) : ofList pairs = ofList others := by
  have hothers : (others.map Prod.fst).Nodup := (hperm.map Prod.fst).nodup_iff.mp h
  exact (ascending_ofList pairs).eq_of_perm (ascending_ofList others)
    (((perm_ofList h).trans hperm).trans (perm_ofList hothers).symm)

/-- Ascending fields are made of themselves. -/
theorem Ascending.ofList_eq (h : fields.Ascending) : ofList fields = fields :=
  (ascending_ofList fields).eq_of_perm h (perm_ofList h.nodup)

end Fields

/-! ## Query strings -/

namespace FormUrl

/-- A query string gives each name its first value. -/
theorem lookup_firstValues (pairs : List (String × String)) (k : String) :
    (firstValues pairs).lookup k = pairs.lookup k := by
  suffices hfold : ∀ kept : List (String × String),
      (pairs.foldl (fun kept p => if kept.any (·.1 == p.1) then kept else kept ++ [p])
        kept).lookup k = (kept.lookup k).or (pairs.lookup k) from hfold []
  induction pairs with
  | nil => intro kept; simp
  | cons p pairs ih =>
    obtain ⟨name, value⟩ := p
    intro kept
    rw [List.foldl_cons, ih, List.lookup_cons]
    by_cases hk : k = name
    · subst hk
      split
      · next hany =>
        -- the name has a value already, so this one is passed over
        obtain ⟨q, hq, hname⟩ := List.any_eq_true.mp hany
        obtain rfl := beq_iff_eq.mp hname
        have hsome := isSome_lookup_iff.mpr (List.mem_map.mpr ⟨q, hq, rfl⟩)
        obtain ⟨value', hvalue'⟩ := Option.isSome_iff_exists.mp hsome
        simp [hvalue']
      · rw [List.lookup_append, Option.or_assoc, List.lookup_cons_self, beq_self_eq_true]
        rfl
    · have hbeq : (k == name) = false := beq_eq_false_iff_ne.mpr hk
      rw [hbeq]
      split
      · rfl
      · rw [List.lookup_append, List.lookup_cons, hbeq, List.lookup_nil, Option.or_none]

/-- A query string gives no name twice. -/
theorem nodup_firstValues (pairs : List (String × String)) :
    ((firstValues pairs).map Prod.fst).Nodup := by
  suffices hfold : ∀ kept : List (String × String), (kept.map Prod.fst).Nodup →
      ((pairs.foldl (fun kept p => if kept.any (·.1 == p.1) then kept else kept ++ [p])
        kept).map Prod.fst).Nodup from hfold [] List.nodup_nil
  induction pairs with
  | nil => exact fun kept hkept => hkept
  | cons p pairs ih =>
    intro kept hkept
    rw [List.foldl_cons]
    split
    · exact ih kept hkept
    · next hany =>
      apply ih
      have hnew : p.1 ∉ kept.map Prod.fst := by
        intro hmem
        obtain ⟨q, hq, hname⟩ := List.mem_map.mp hmem
        exact hany (List.any_eq_true.mpr ⟨q, hq, beq_iff_eq.mpr hname⟩)
      rw [List.map_append, List.nodup_append]
      refine ⟨hkept, by simp, ?_⟩
      intro a ha b hb
      rw [List.map_singleton, List.mem_singleton] at hb
      rw [hb]
      rintro rfl
      exact hnew ha

end FormUrl

end QueryGateway
