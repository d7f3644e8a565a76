import QueryGateway.Proofs.Routing.Shapes

/-!
# Registration of endpoints

Endpoints are registered one after the other, each checked against what those before it
occupy. Which lists are accepted can be said without the order: no address is reserved, and
two endpoints whose segments have one shape have the same path and different methods. An
accepted list can be put into any router that refuses nothing but conflicting or malformed
routes.
-/

namespace QueryGateway

/-- Every method is found by its name. -/
theorem Method.named?_name (m : Method) : named? m.name = some m := by
  cases m <;> rfl

/-! ## Routers -/

/-- A router that routes are added to one at a time. It may refuse a route. -/
structure Router (ρ : Type) where
  empty : ρ
  add? : ρ → String → Method → Option ρ

namespace Router

variable {ρ : Type} (R : Router ρ)

/-- Whether a router holds the given bindings of methods on paths, added in turn. -/
inductive Holds : List (String × Method) → ρ → Prop
  | empty : Holds [] R.empty
  | add {bound : List (String × Method)} {r next : ρ} {path : String} {m : Method} :
    Holds bound r → R.add? r path m = some next → Holds (bound ++ [(path, m)]) next

/-- The reasons for which a router may refuse to bind a method on a path. -/
inductive MayRefuse (bound : List (String × Method)) (path : String) (m : Method) : Prop
  | unrooted (h : path.toList.head? ≠ some '/')
  | malformed (part : List Char) (hpart : part ∈ Text.splitAt '/' path.toList)
    (h : Url.isRoutePart part = false)
  | otherPath (b : String × Method) (hb : b ∈ bound)
    (hshape : Url.shape b.1 = Url.shape path) (hne : b.1 ≠ path)
  | alreadyBound (h : (path, m) ∈ bound)

/-- Whether a router refuses nothing but malformed or conflicting routes. -/
def RefusesOnlyConflicts : Prop :=
  ∀ bound r path m, R.Holds bound r → R.add? r path m = none → MayRefuse bound path m

/-- Binds the method of an endpoint, looked up by its name, on its route path. -/
def addEndpoint? (r : ρ) (e : Endpoint) : Option ρ := do
  let filter ← Method.named? e.method.name
  R.add? r e.routePath filter

/-- Binds endpoints in turn. -/
def addAll? (endpoints : List Endpoint) : Option ρ :=
  endpoints.foldlM R.addEndpoint? R.empty

end Router

namespace Endpoint

/-! ## Lists without conflicts -/

/-- Whether two endpoints can be registered together. -/
def Compatible (d e : Endpoint) : Prop :=
  d.shape = e.shape → d.routePath = e.routePath ∧ d.method ≠ e.method

/-- Whether no endpoint of a list has a reserved address or conflicts with another. -/
structure ConflictFree (endpoints : List Endpoint) : Prop where
  unreserved : ∀ e ∈ endpoints, e.routePath ∉ Route.reserved
  compatible : endpoints.Pairwise Compatible

/-- Nothing conflicts in an empty list. -/
theorem conflictFree_nil : ConflictFree [] :=
  ⟨by simp, .nil⟩

/-- An endpoint in front of a list must be unreserved and compatible with all of it. -/
theorem conflictFree_cons {e : Endpoint} {rest : List Endpoint} :
    ConflictFree (e :: rest) ↔
      e.routePath ∉ Route.reserved ∧ (∀ d ∈ rest, Compatible e d) ∧ ConflictFree rest := by
  constructor
  · rintro ⟨hreserved, hcompatible⟩
    rw [List.forall_mem_cons] at hreserved
    rw [List.pairwise_cons] at hcompatible
    exact ⟨hreserved.1, hcompatible.1, hreserved.2, hcompatible.2⟩
  · rintro ⟨hreserved, hfirst, hrest⟩
    exact ⟨List.forall_mem_cons.mpr ⟨hreserved, hrest.unreserved⟩,
      List.pairwise_cons.mpr ⟨hfirst, hrest.compatible⟩⟩

/-- Compatibility has no direction. -/
theorem Compatible.symm {d e : Endpoint} (h : Compatible d e) : Compatible e d := by
  intro hshape
  obtain ⟨hpath, hmethod⟩ := h hshape.symm
  exact ⟨hpath.symm, hmethod.symm⟩

/-- The order of a list does not matter for conflicts. -/
theorem conflictFree_of_perm {endpoints others : List Endpoint} (hperm : endpoints.Perm others)
    (h : ConflictFree endpoints) : ConflictFree others where
  unreserved e he := h.unreserved e (hperm.mem_iff.mpr he)
  compatible := (hperm.pairwise_iff Compatible.symm).mp h.compatible

/-- For built endpoints the shapes of the route paths tell whether they are compatible. -/
theorem compatible_iff {d e : Endpoint} (hd : d.IsBuilt) (he : e.IsBuilt) :
    Compatible d e ↔ (Url.shape d.routePath = Url.shape e.routePath →
      d.routePath = e.routePath ∧ d.method ≠ e.method) := by
  rw [Compatible, hd.shape_routePath_eq_iff he]

end Endpoint

/-! ## The registry -/

namespace Registry

/-- Whether a registry has what the given endpoints occupy: the shape of each with its path,
and the method of each on its shape. -/
structure Records (r : Registry) (earlier : List Endpoint) : Prop where
  paths : ∀ key path, r.paths.lookup key = some path ↔
    ∃ d ∈ earlier, Url.shape d.routePath = key ∧ d.routePath = path
  bound : ∀ m key, (m, key) ∈ r.bound ↔
    ∃ d ∈ earlier, d.method = m ∧ Url.shape d.routePath = key

/-- Nothing is occupied at first. -/
theorem records_nil : Records {} [] :=
  ⟨by simp, by simp⟩

variable {r next : Registry} {earlier endpoints : List Endpoint} {e : Endpoint} {path : String}

/-- A path is taken unless another one has its shape. -/
theorem exists_takePath (h : ∀ existing, r.paths.lookup (Url.shape path) = some existing →
    existing = path) : ∃ next, r.takePath path = .ok next ∧ next.bound = r.bound ∧
      ∀ key p, next.paths.lookup key = some p ↔
        r.paths.lookup key = some p ∨ (Url.shape path = key ∧ path = p) := by
  rw [takePath]
  cases hlookup : r.paths.lookup (Url.shape path) with
  | some existing =>
    obtain rfl := h existing hlookup
    refine ⟨r, by simp, rfl, fun key p => ⟨.inl, ?_⟩⟩
    rintro (hp | ⟨rfl, rfl⟩)
    · exact hp
    · exact hlookup
  | none =>
    refine ⟨_, rfl, rfl, fun key p => ?_⟩
    rw [List.lookup_cons]
    by_cases hkey : key = Url.shape path
    · subst hkey
      simp [hlookup]
    · simp [beq_eq_false_iff_ne.mpr hkey, Ne.symm hkey]

/-- A path that is taken is the only one of its shape. -/
theorem eq_of_takePath (h : r.takePath path = .ok next) {existing : String}
    (hlookup : r.paths.lookup (Url.shape path) = some existing) : existing = path := by
  rw [takePath, hlookup] at h
  dsimp only at h
  split at h
  · cases h
  · next hne => simpa using hne

/-- An endpoint that is unreserved and compatible with the earlier ones is registered. -/
theorem Records.exists_add (hr : r.Records earlier) (hreserved : e.routePath ∉ Route.reserved)
    (hrivals : ∀ d ∈ earlier, Url.shape d.routePath = Url.shape e.routePath →
      d.routePath = e.routePath ∧ d.method ≠ e.method) :
    ∃ next, r.add e = .ok next ∧ next.Records (earlier ++ [e]) := by
  obtain ⟨taken, htaken, hbound, hpaths⟩ : ∃ taken, r.takePath e.routePath = .ok taken ∧ _ := by
    apply exists_takePath
    intro existing hlookup
    obtain ⟨d, hd, hshape, rfl⟩ := (hr.paths _ _).mp hlookup
    exact (hrivals d hd hshape).1
  have hunbound : (e.method, Url.shape e.routePath) ∉ taken.bound := by
    rw [hbound, hr.bound]
    rintro ⟨d, hd, hmethod, hshape⟩
    exact (hrivals d hd hshape).2 hmethod
  refine ⟨{ taken with bound := (e.method, Url.shape e.routePath) :: taken.bound }, ?_, ?_, ?_⟩
  · simp [add, hreserved, htaken, bindMethod, hunbound, bind, Except.bind]
  · intro key p
    rw [hpaths, hr.paths]
    simp [or_and_right, exists_or]
  · intro m key
    rw [List.mem_cons, hbound, hr.bound]
    simp [or_and_right, exists_or, or_comm, eq_comm]

/-- An endpoint that is registered is unreserved and compatible with the earlier ones. -/
theorem Records.rivals_of_add (hr : r.Records earlier) (h : r.add e = .ok next) :
    e.routePath ∉ Route.reserved ∧
      ∀ d ∈ earlier, Url.shape d.routePath = Url.shape e.routePath →
        d.routePath = e.routePath ∧ d.method ≠ e.method := by
  rw [add] at h
  split at h
  · cases h
  · next hreserved =>
    refine ⟨by simpa using hreserved, fun d hd hshape => ?_⟩
    obtain ⟨taken, htaken, hbind⟩ := exists_of_bind_eq_ok h
    have hpath : d.routePath = e.routePath :=
      eq_of_takePath htaken ((hr.paths _ _).mpr ⟨d, hd, hshape, rfl⟩)
    refine ⟨hpath, fun hmethod => ?_⟩
    obtain ⟨again, hagain, hbound, -⟩ := exists_takePath fun _ => eq_of_takePath htaken
    obtain rfl : taken = again := Except.ok.inj (htaken.symm.trans hagain)
    have hmem := (hr.bound e.method _).mpr ⟨d, hd, hmethod, hshape⟩
    rw [bindMethod, hbound, List.contains_iff_mem.mpr hmem] at hbind
    cases hbind

/-- Endpoints are registered after others exactly if they are unreserved, compatible with
the earlier ones and compatible with each other. -/
theorem Records.exists_addAll_iff (hr : r.Records earlier) (hearlier : ∀ d ∈ earlier, d.IsBuilt)
    (hbuilt : ∀ e ∈ endpoints, e.IsBuilt) :
    (∃ last, r.addAll endpoints = .ok last) ↔
      (∀ d ∈ earlier, ∀ e ∈ endpoints, d.Compatible e) ∧ Endpoint.ConflictFree endpoints := by
  induction endpoints generalizing r earlier with
  | nil => simp [addAll, Endpoint.conflictFree_nil]
  | cons e rest ih =>
    rw [List.forall_mem_cons] at hbuilt
    have hextended : ∀ d ∈ earlier ++ [e], d.IsBuilt :=
      List.forall_mem_append.mpr ⟨hearlier, List.forall_mem_singleton.mpr hbuilt.1⟩
    rw [Endpoint.conflictFree_cons]
    constructor
    · rintro ⟨last, hlast⟩
      obtain ⟨next, hadd, hrest⟩ := exists_of_bind_eq_ok hlast
      obtain ⟨hreserved, hrivals⟩ := hr.rivals_of_add hadd
      obtain ⟨next', hadd', hnext⟩ := hr.exists_add hreserved hrivals
      obtain rfl : next = next' := Except.ok.inj (hadd.symm.trans hadd')
      obtain ⟨hlater, hfree⟩ := (ih hnext hextended hbuilt.2).mp ⟨last, hrest⟩
      simp only [List.forall_mem_append, List.forall_mem_singleton] at hlater
      refine ⟨fun d hd => List.forall_mem_cons.mpr ⟨?_, hlater.1 d hd⟩, hreserved, hlater.2, hfree⟩
      exact (Endpoint.compatible_iff (hearlier d hd) hbuilt.1).mpr (hrivals d hd)
    · rintro ⟨hcompatible, hreserved, hfirst, hfree⟩
      obtain ⟨next, hadd, hnext⟩ := hr.exists_add hreserved fun d hd =>
        (Endpoint.compatible_iff (hearlier d hd) hbuilt.1).mp
          (hcompatible d hd e List.mem_cons_self)
      have hlater : ∀ d ∈ earlier ++ [e], ∀ f ∈ rest, d.Compatible f :=
        List.forall_mem_append.mpr ⟨fun d hd f hf =>
          hcompatible d hd f (List.mem_cons_of_mem e hf), List.forall_mem_singleton.mpr hfirst⟩
      obtain ⟨last, hlast⟩ := (ih hnext hextended hbuilt.2).mpr ⟨hlater, hfree⟩
      exact ⟨last, by rw [addAll, hadd]; exact hlast⟩

end Registry

namespace Endpoint

/-- A table of routes exists exactly if the endpoints can be registered. -/
theorem exists_table_iff (endpoints : List Endpoint) :
    (∃ table, Route.table endpoints = .ok table) ↔
      ∃ last, Registry.addAll {} endpoints = .ok last := by
  rw [Route.table]
  cases Registry.addAll {} endpoints with
  | error e => simp [bind, Except.bind]
  | ok _ => simp [bind, Except.bind, pure, Except.pure]

/-- The endpoints of a configuration are built from its entries. -/
theorem isBuilt_of_loadAll {layout : Statement.Layout} {v : View} {endpoints : List Endpoint}
    (h : loadAll layout v = .ok endpoints) : ∀ e ∈ endpoints, e.IsBuilt := by
  intro e he
  obtain ⟨expr, entry, -, hbuilt⟩ := exists_entry_of_loadAll h he
  exact ⟨layout, entry, hbuilt⟩

end Endpoint

/-! ## Filling a router -/

namespace Router

variable {ρ : Type} {R : Router ρ}

/-- The bindings of endpoints. -/
def bindings (endpoints : List Endpoint) : List (String × Method) :=
  endpoints.map fun e => (e.routePath, e.method)

/-- A router that holds endpoints takes another one that is compatible with each of them. -/
theorem exists_addEndpoint? (hR : R.RefusesOnlyConflicts) {earlier : List Endpoint}
    {e : Endpoint} {r : ρ} (hr : R.Holds (bindings earlier) r) (he : e.IsBuilt)
    (hrivals : ∀ d ∈ earlier, Url.shape d.routePath = Url.shape e.routePath →
      d.routePath = e.routePath ∧ d.method ≠ e.method) :
    ∃ next, R.addEndpoint? r e = some next ∧ R.Holds (bindings (earlier ++ [e])) next := by
  have hstep : R.addEndpoint? r e = R.add? r e.routePath e.method := by
    rw [addEndpoint?, Method.named?_name]
    rfl
  rw [hstep]
  cases hadd : R.add? r e.routePath e.method with
  | some next =>
    have hbindings : bindings (earlier ++ [e]) = bindings earlier ++ [(e.routePath, e.method)] :=
      List.map_append
    rw [hbindings]
    exact ⟨next, rfl, .add hr hadd⟩
  | none =>
    exfalso
    cases hR _ _ _ _ hr hadd with
    | unrooted h => exact h he.head?_routePath
    | malformed part hpart h =>
      rw [he.isRoutePart part hpart] at h
      cases h
    | otherPath b hb hshape hne =>
      obtain ⟨d, hd, rfl⟩ := List.mem_map.mp hb
      exact hne (hrivals d hd hshape).1
    | alreadyBound h =>
      obtain ⟨d, hd, hbinding⟩ := List.mem_map.mp h
      obtain ⟨hpath, hmethod⟩ := Prod.mk.inj hbinding
      exact (hrivals d hd (congrArg Url.shape hpath)).2 hmethod

/-- A router that holds endpoints takes a conflict-free list that is compatible with them. -/
theorem exists_foldlM_addEndpoint? (hR : R.RefusesOnlyConflicts)
    {earlier endpoints : List Endpoint} {r : ρ} (hr : R.Holds (bindings earlier) r)
    (hearlier : ∀ d ∈ earlier, d.IsBuilt) (hbuilt : ∀ e ∈ endpoints, e.IsBuilt)
    (hcompatible : ∀ d ∈ earlier, ∀ e ∈ endpoints, d.Compatible e)
    (hfree : Endpoint.ConflictFree endpoints) :
    ∃ last, endpoints.foldlM R.addEndpoint? r = some last := by
  induction endpoints generalizing earlier r with
  | nil => exact ⟨r, rfl⟩
  | cons e rest ih =>
    rw [List.forall_mem_cons] at hbuilt
    obtain ⟨-, hfirst, hrest⟩ := Endpoint.conflictFree_cons.mp hfree
    obtain ⟨next, hadd, hholds⟩ := exists_addEndpoint? hR hr hbuilt.1 fun d hd =>
      (Endpoint.compatible_iff (hearlier d hd) hbuilt.1).mp
        (hcompatible d hd e List.mem_cons_self)
    have hextended : ∀ d ∈ earlier ++ [e], d.IsBuilt :=
      List.forall_mem_append.mpr ⟨hearlier, List.forall_mem_singleton.mpr hbuilt.1⟩
    have hlater : ∀ d ∈ earlier ++ [e], ∀ f ∈ rest, d.Compatible f :=
      List.forall_mem_append.mpr ⟨fun d hd f hf =>
        hcompatible d hd f (List.mem_cons_of_mem e hf), List.forall_mem_singleton.mpr hfirst⟩
    obtain ⟨last, hlast⟩ := ih hholds hextended hbuilt.2 hlater hrest
    refine ⟨last, ?_⟩
    rw [List.foldlM_cons, hadd]
    exact hlast

/-- The router that keeps a list of its bindings and refuses every conflict. -/
def listing : Router (List (String × Method)) where
  empty := []
  add? bound path m :=
    if path.toList.head? ≠ some '/' then none
    else if (Text.splitAt '/' path.toList).any (!Url.isRoutePart ·) then none
    else if bound.any fun b => Url.shape b.1 == Url.shape path && b.1 != path then none
    else if (path, m) ∈ bound then none
    else some (bound ++ [(path, m)])

/-- The bindings in the list are those that were added. -/
theorem eq_of_holds_listing {bound r : List (String × Method)} (h : listing.Holds bound r) :
    r = bound := by
  induction h with
  | empty => rfl
  | add _ hadd ih =>
    dsimp only [listing] at hadd
    split at hadd
    · cases hadd
    split at hadd
    · cases hadd
    split at hadd
    · cases hadd
    split at hadd
    · cases hadd
    rw [← ih]
    exact (Option.some.inj hadd).symm

/-- The listing router refuses nothing but conflicts. -/
theorem refusesOnlyConflicts_listing : listing.RefusesOnlyConflicts := by
  intro bound r path m hholds hadd
  obtain rfl := eq_of_holds_listing hholds
  dsimp only [listing] at hadd
  split at hadd
  · next hunrooted => exact .unrooted hunrooted
  split at hadd
  · next hmalformed =>
    obtain ⟨part, hpart, h⟩ := List.any_eq_true.mp hmalformed
    exact .malformed part hpart (by simpa using h)
  split at hadd
  · next hother =>
    obtain ⟨b, hb, h⟩ := List.any_eq_true.mp hother
    rw [Bool.and_eq_true, beq_iff_eq, bne_iff_ne] at h
    exact .otherPath b hb h.1 h.2
  split at hadd
  · next hbound => exact .alreadyBound hbound
  · cases hadd

end Router

/-! ## The law of registration -/

/-- **Registration accepts exactly the lists without conflicts.** So the order of the
endpoints does not matter, and an accepted list can be put into every router that refuses
nothing but malformed or conflicting routes. -/
theorem Endpoint.registration_exact {endpoints : List Endpoint}
    (hbuilt : ∀ e ∈ endpoints, e.IsBuilt) :
    ((∃ table, Route.table endpoints = .ok table) ↔ ConflictFree endpoints) ∧
      (∀ others, endpoints.Perm others →
        ((∃ table, Route.table endpoints = .ok table) ↔
          ∃ table, Route.table others = .ok table)) ∧
      ∀ {ρ : Type} (R : Router ρ), R.RefusesOnlyConflicts →
        (∃ table, Route.table endpoints = .ok table) → ∃ r, R.addAll? endpoints = some r := by
  have haccepted {list : List Endpoint} (hlist : ∀ e ∈ list, e.IsBuilt) :
      (∃ table, Route.table list = .ok table) ↔ ConflictFree list := by
    rw [exists_table_iff, Registry.records_nil.exists_addAll_iff (by simp) hlist]
    simp
  refine ⟨haccepted hbuilt, fun others hperm => ?_, fun R hR htable => ?_⟩
  · have hothers : ∀ e ∈ others, e.IsBuilt := fun e he => hbuilt e (hperm.mem_iff.mpr he)
    rw [haccepted hbuilt, haccepted hothers]
    exact ⟨conflictFree_of_perm hperm, conflictFree_of_perm hperm.symm⟩
  · have hempty : R.Holds (Router.bindings []) R.empty := .empty
    exact Router.exists_foldlM_addEndpoint? hR hempty (by simp) hbuilt (by simp)
      ((haccepted hbuilt).mp htable)

/-- Two methods of one address and another address are registered in a router. -/
theorem Endpoint.registration_exact_users :
    let entry (url method : String) : Tree :=
      .map [("method", .text method), ("sql", .text "select 1"), ("url", .text url)]
    let v : View := ⟨.map [("api", .list
      [entry "/users/\x7bid\x7d" "get", entry "/users/\x7bid\x7d" "post", entry "/users" "get"])]⟩
    ∃ endpoints, loadAll .verbatim v = .ok endpoints ∧ (∀ e ∈ endpoints, e.IsBuilt) ∧
      Router.listing.RefusesOnlyConflicts ∧ (∃ table, Route.table endpoints = .ok table) ∧
      ConflictFree endpoints ∧ ∃ r, Router.listing.addAll? endpoints = some r := by
  intro entry v
  have hregistered : (loadAll .verbatim v >>= Route.table).toOption.isSome = true := by
    decide +kernel
  obtain ⟨table, hbind⟩ := exists_of_isSome_toOption hregistered
  obtain ⟨endpoints, hloaded, htable⟩ := exists_of_bind_eq_ok hbind
  have hbuilt := isBuilt_of_loadAll hloaded
  obtain ⟨hiff, -, hfill⟩ := registration_exact hbuilt
  exact ⟨endpoints, hloaded, hbuilt, Router.refusesOnlyConflicts_listing, ⟨table, htable⟩,
    hiff.mp ⟨table, htable⟩,
    hfill Router.listing Router.refusesOnlyConflicts_listing ⟨table, htable⟩⟩

end QueryGateway
