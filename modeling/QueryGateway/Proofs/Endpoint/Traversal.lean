import QueryGateway.Proofs.Config.Entries

/-!
# Loading endpoints

The endpoints of a configuration are built from the items of the list at `api`, each of which is
found at an expression of its own. This module shows that loading is nevertheless the plain
traversal of the list: entry by entry, up to the first one that no endpoint can be built from.
Only where an entry is empty is another node built from, and this makes no difference, as neither
of the two has an address.
-/

namespace QueryGateway

/-! ## The items of a list -/

namespace View

variable {v : View} {k : String} {items : List Tree}

/-- The items of the list at a plain key. -/
theorem itemsAt_of_field? (hk : Path.IsPlain k) (hfield : v.tree.field? k = some (.list items)) :
    v.itemsAt k = items := by
  rw [itemsAt, Path.get_of_isPlain v.tree hk, hfield]
  cases items <;> rfl

/-- A list at a plain key is found item by item. -/
theorem items_of_field? (hk : Path.IsPlain k) (hfield : v.tree.field? k = some (.list items))
    (hlimit : items.length ≤ Path.indexLimit) :
    v.items k = .ok (items.map fun t => .ok (Cursor.itemView t)) := by
  obtain ⟨found, hfound⟩ : ∃ found, v.items k = .ok found := by
    rw [View.items, View.cursor, size, Path.size, Path.get_of_isPlain v.tree hk, hfield]
    cases items <;> exact ⟨_, rfl⟩
  have hitems := itemsAt_of_field? hk hfield
  rw [hfound, items_of_isPlain hk (hitems ▸ hlimit) hfound, hitems]

end View

/-! ## Entries -/

namespace Endpoint

variable {layout : Statement.Layout} {v : View} {entries : List Tree}

/-- An empty entry has no address, and so no endpoint is built from it. -/
theorem ofView_of_isEmpty (layout : Statement.Layout) {t : Tree} (ht : t.isEmpty = true) :
    ofView layout ⟨t⟩ = .error .missingUrl := by
  have hurl : View.text ⟨t⟩ "url" "" = "" := by
    rw [View.text_of_isPlain _ (by decide), Path.field?_of_isEmpty ht]
    rfl
  rw [ofView, hurl]
  rfl

/-- From the view of an item the same is built as from the item. -/
theorem ofView_itemView (layout : Statement.Layout) (t : Tree) :
    ofView layout (Cursor.itemView t) = ofView layout ⟨t⟩ := by
  cases ht : t.isEmpty with
  | false => rw [Cursor.itemView, Path.nonEmpty, ht]; rfl
  | true =>
    rw [ofView_of_isEmpty layout ht, Cursor.itemView, Path.nonEmpty, ht]
    exact ofView_of_isEmpty layout rfl

/-- Loading builds from the entries of the list, one after the other. -/
theorem loadAll_eq_mapM (layout : Statement.Layout)
    (hentries : v.tree.field? "api" = some (.list entries))
    (hlimit : entries.length ≤ Path.indexLimit) :
    loadAll layout v = entries.mapM fun t => ofView layout ⟨t⟩ := by
  have hitems := View.items_of_field? (by decide) hentries hlimit
  have hload : loadAll layout v =
      (entries.map fun t => Except.ok (Cursor.itemView t)).mapM
        fun item => ConfigFailure.ofPath item >>= ofView layout := by
    rw [loadAll, hitems]
    rfl
  rw [hload, List.mapM_map]
  exact congrArg (entries.mapM ·) (funext fun t => ofView_itemView layout t)

/-- How the endpoints of a configuration are loaded from a list of entries. -/
structure Traverses (layout : Statement.Layout) (v : View) (entries : List Tree) : Prop where
  /-- Loading is successful exactly if each entry builds on its own. -/
  succeeds : (∃ endpoints, loadAll layout v = .ok endpoints) ↔
    ∀ t ∈ entries, ∃ e, ofView layout ⟨t⟩ = .ok e
  /-- The endpoints are those of the entries, in their order and as many. -/
  loaded : ∀ endpoints, loadAll layout v = .ok endpoints ↔
    List.Forall₂ (fun t e => ofView layout ⟨t⟩ = .ok e) entries endpoints
  /-- The first entry that does not build decides how loading fails. -/
  failed : ∀ failure, loadAll layout v = .error failure ↔
    ∃ before t after, entries = before ++ t :: after ∧
      (∀ s ∈ before, ∃ e, ofView layout ⟨s⟩ = .ok e) ∧ ofView layout ⟨t⟩ = .error failure
  /-- An empty entry is not skipped, but is one without an address. -/
  empty : ∀ t ∈ entries, t.isEmpty = true → ofView layout ⟨t⟩ = .error .missingUrl

/-- **Loading is a faithful traversal.** Whatever the entries of the list at `api` are, the
endpoints are built from them one by one and in their order, and the first entry that no endpoint
can be built from is the failure. -/
theorem loadAll_traverses (layout : Statement.Layout)
    (hentries : v.tree.field? "api" = some (.list entries))
    (hlimit : entries.length ≤ Path.indexLimit) : Traverses layout v entries where
  succeeds := by rw [loadAll_eq_mapM layout hentries hlimit, exists_mapM_eq_ok_iff]
  loaded endpoints := by rw [loadAll_eq_mapM layout hentries hlimit, mapM_eq_ok_iff]
  failed failure := by rw [loadAll_eq_mapM layout hentries hlimit, mapM_eq_error_iff]
  empty t _ ht := ofView_of_isEmpty layout ht

/-- Two entries, and the same with an empty entry and one with an unknown method behind the
first. -/
theorem loadAll_traverses_empty :
    let users : Tree := .map [("sql", .text "select 1"), ("url", .text "/users")]
    let orders : Tree := .map [("method", .text "post"), ("sql", .text "select 2"),
      ("url", .text "/orders")]
    let wrong : Tree := .map [("method", .text "fetch"), ("sql", .text "select 3"),
      ("url", .text "/wrong")]
    let api (entries : List Tree) : View := ⟨.map [("api", .list entries)]⟩
    ∃ e e', ofView .verbatim ⟨users⟩ = .ok e ∧ ofView .verbatim ⟨orders⟩ = .ok e' ∧
      loadAll .verbatim (api [users, orders]) = .ok [e, e'] ∧
      loadAll .verbatim (api [users, .map [], wrong, orders]) = .error .missingUrl := by
  intro users orders wrong api
  obtain ⟨e, he⟩ : ∃ e, ofView .verbatim ⟨users⟩ = .ok e :=
    exists_of_isSome_toOption (by decide +kernel)
  obtain ⟨e', he'⟩ : ∃ e, ofView .verbatim ⟨orders⟩ = .ok e :=
    exists_of_isSome_toOption (by decide +kernel)
  have hall := loadAll_traverses .verbatim (v := api [users, orders]) rfl (by decide)
  have hfirst := loadAll_traverses .verbatim (v := api [users, .map [], wrong, orders]) rfl
    (by decide)
  refine ⟨e, e', he, he', (hall.loaded _).mpr (.cons he (.cons he' .nil)), ?_⟩
  exact (hfirst.failed _).mpr ⟨[users], .map [], [wrong, orders], rfl, by simpa using ⟨e, he⟩,
    hfirst.empty _ (by simp) rfl⟩

end Endpoint

end QueryGateway
