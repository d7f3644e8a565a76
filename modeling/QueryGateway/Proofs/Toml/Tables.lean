import QueryGateway.Toml.Table
import QueryGateway.Proofs.Tree.WellFormed

/-!
# Well-formed tables

A table under construction may hold its entries in any order. As long as every value in it is
well formed, so is the tree that is made of it, and adding, replacing or removing entries does
not change that.
-/

namespace QueryGateway.Toml

/-- Whether every value in an entry is well formed. -/
inductive Node.Sound : Node → Prop
  | value {t : Tree} (ht : t.WellFormed) : Sound (.value t)
  | table {isImplied isDotted : Bool} {entries : List (String × Node)}
    (hentries : ∀ p ∈ entries, Sound p.2) : Sound (.table isImplied isDotted entries)
  | tables {items : List (List (String × Node))}
    (hitems : ∀ entries ∈ items, ∀ p ∈ entries, Sound p.2) : Sound (.tables items)

/-- Whether every value in a table is well formed. -/
def Table.Sound (t : Table) : Prop :=
  ∀ p ∈ t.entries, p.2.Sound

/-! ## The tree of a table -/

/-- The trees of entries, one by one. -/
theorem entryTrees_eq (entries : List (String × Node)) :
    entryTrees entries = entries.map fun (key, n) => (key, n.toTree) := by
  induction entries with
  | nil => rfl
  | cons p rest ih =>
    rw [entryTrees, ih]
    rfl

/-- The trees of a list of tables, one by one. -/
theorem itemTrees_eq (items : List (List (String × Node))) :
    itemTrees items = items.map fun entries => .map (Fields.ofList (entryTrees entries)) := by
  induction items with
  | nil => rfl
  | cons entries rest ih => rw [itemTrees, ih, List.map_cons]

/-- Entries whose trees are well formed make a well-formed map. -/
theorem wellFormed_entryTrees {entries : List (String × Node)}
    (h : ∀ p ∈ entries, p.2.toTree.WellFormed) :
    (Tree.map (Fields.ofList (entryTrees entries))).WellFormed := by
  apply Tree.WellFormed.ofList
  intro p hp
  rw [entryTrees_eq] at hp
  obtain ⟨q, hq, rfl⟩ := List.mem_map.mp hp
  exact h q hq

/-- The tree of a sound entry is well formed. -/
theorem Node.Sound.wellFormed_toTree {n : Node} (h : n.Sound) : n.toTree.WellFormed := by
  induction h with
  | value ht => rwa [Node.toTree]
  | table _ ih =>
    rw [Node.toTree]
    exact wellFormed_entryTrees ih
  | tables _ ih =>
    rw [Node.toTree, itemTrees_eq]
    refine .list fun t ht => ?_
    obtain ⟨entries, hentries, rfl⟩ := List.mem_map.mp ht
    exact wellFormed_entryTrees (ih entries hentries)

namespace Table

variable {t : Table} {n : Node}

/-- The tree of a sound table is well formed. -/
theorem Sound.wellFormed_toTree (ht : t.Sound) : t.toTree.WellFormed :=
  Node.Sound.wellFormed_toTree (.table ht)

/-! ## Changes of entries -/

/-- An entry of a sound table is sound. -/
theorem Sound.get? (ht : t.Sound) {key : String} (h : t.get? key = some n) : n.Sound := by
  obtain ⟨front, back, hentries, -⟩ := List.lookup_eq_some_iff.mp h
  exact ht (key, n) (by simp [hentries])

/-- A new entry keeps a table sound. -/
theorem Sound.push (ht : t.Sound) (key : String) (hn : n.Sound) : (t.push key n).Sound :=
  List.forall_mem_append.mpr ⟨ht, List.forall_mem_singleton.mpr hn⟩

/-- A removed entry keeps a table sound. -/
theorem Sound.erase (ht : t.Sound) (key : String) : (t.erase key).Sound :=
  fun p hp => ht p (List.mem_filter.mp hp).1

/-- A replaced entry keeps a table sound. -/
theorem Sound.replace (ht : t.Sound) (key : String) (hn : n.Sound) :
    (t.replace key n).Sound := by
  intro p hp
  obtain ⟨q, hq, rfl⟩ := List.mem_map.mp hp
  dsimp only
  split
  · exact hn
  · exact ht q hq

/-- A change at the end of a chain of keys keeps a table sound if it does so there. -/
theorem Sound.visit {α : Type} {P : α → Prop} {change : Table → Option (α × Table)}
    (hchange : ∀ t a t', t.Sound → change t = some (a, t') → P a ∧ t'.Sound) {dotted : Bool}
    {path : List String} {a : α} {t' : Table} (ht : t.Sound)
    (h : visit dotted change path t = some (a, t')) : P a ∧ t'.Sound := by
  induction path generalizing t t' with
  | nil => exact hchange t a t' ht h
  | cons key rest ih =>
    unfold Table.visit at h
    split at h
    · obtain ⟨⟨b, sub⟩, hsub, h⟩ := Option.bind_eq_some_iff.mp h
      obtain ⟨rfl, rfl⟩ := Prod.mk.inj (Option.some.inj h)
      have hempty : Table.Sound { isImplied := true, isDotted := dotted } := by
        simp [Table.Sound]
      obtain ⟨hP, hsound⟩ := ih hempty hsub
      exact ⟨hP, ht.push key (.table hsound)⟩
    · cases h
    · next items hitems =>
      split at h
      · cases h
      · next last earlier hreverse =>
        obtain ⟨⟨b, sub⟩, hsub, h⟩ := Option.bind_eq_some_iff.mp h
        obtain ⟨rfl, rfl⟩ := Prod.mk.inj (Option.some.inj h)
        have hall : ∀ entries ∈ items.reverse, ∀ p ∈ entries, p.2.Sound := by
          cases ht.get? hitems with
          | tables hall => exact fun entries hentries => hall entries (List.mem_reverse.mp hentries)
        rw [hreverse, List.forall_mem_cons] at hall
        have hlast : Table.Sound { entries := last } := hall.1
        obtain ⟨hP, hsound⟩ := ih hlast hsub
        refine ⟨hP, ht.replace key (.tables fun entries hentries => ?_)⟩
        rcases List.mem_cons.mp (List.mem_reverse.mp hentries) with rfl | hentries
        · exact hsound
        · exact hall.2 entries hentries
    · next isImplied isDotted entries hentries =>
      split at h
      · cases h
      · obtain ⟨⟨b, sub⟩, hsub, h⟩ := Option.bind_eq_some_iff.mp h
        obtain ⟨rfl, rfl⟩ := Prod.mk.inj (Option.some.inj h)
        have hinner : Table.Sound ⟨isImplied, isDotted, entries⟩ := by
          cases ht.get? hentries with
          | table hall => exact hall
        obtain ⟨hP, hsound⟩ := ih hinner hsub
        exact ⟨hP, ht.replace key (.table hsound)⟩

/-- A change at the end of a chain of keys keeps a table sound if it does so there. -/
theorem Sound.update {change : Table → Option Table}
    (hchange : ∀ t t', t.Sound → change t = some t' → t'.Sound) {dotted : Bool}
    {path : List String} {t' : Table} (ht : t.Sound) (h : update dotted change path t = some t') :
    t'.Sound := by
  obtain ⟨⟨a, last⟩, hvisit, rfl⟩ := Option.map_eq_some_iff.mp h
  refine (Sound.visit (P := fun _ => True) (fun t a t' ht hchanged => ?_) ht hvisit).2
  obtain ⟨inner, hinner, hpair⟩ := Option.map_eq_some_iff.mp hchanged
  obtain ⟨-, rfl⟩ := Prod.mk.inj hpair
  exact ⟨trivial, hchange t inner ht hinner⟩

/-- A well-formed value under a dotted key keeps a table sound. -/
theorem Sound.insert (ht : t.Sound) {path : List String} {key : String} {value : Tree}
    (hvalue : value.WellFormed) {t' : Table} (h : t.insert path key value = some t') :
    t'.Sound := by
  refine ht.update (fun inner last hinner hlast => ?_) h
  split at hlast
  · cases hlast
  · split at hlast
    · cases hlast
    · obtain rfl := Option.some.inj hlast
      exact hinner.push key (.value hvalue)

end Table

end QueryGateway.Toml
