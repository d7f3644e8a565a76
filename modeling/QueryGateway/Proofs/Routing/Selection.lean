import Mathlib.Data.List.Pairwise
import QueryGateway.Proofs.Routing.Priority
import QueryGateway.Proofs.Routing.Registration

/-!
# Selection of routes

What a router must do with a request can be said without its way to look up addresses: it
compares the addresses with the path, and the methods of the routes that share an address. In a
table that was registered at most one route is left, and a request has the same destination in
whatever order the endpoints were registered.
-/

namespace QueryGateway

/-- Whether two destinations are the same, whatever methods are announced. -/
def Destination.Same : Destination → Destination → Prop
  | notFound, notFound => True
  | notAllowed _, notAllowed _ => True
  | route r, route s => r = s
  | _, _ => False

namespace Route

/-! ## What a router must do -/

/-- Whether the address of a route may get the requests for a path: it matches the path, and
no other address that does wins over it. -/
structure Winning (table : List Route) (path : String) (r : Route) : Prop where
  mem : r ∈ table
  accepts : Url.accepts r.segments (Url.parts path) = true
  unbeaten : ∀ s ∈ table, Url.accepts s.segments (Url.parts path) = true →
    Url.wins s.segments r.segments = false

/-- Whether a route may take the requests with a method for a path: its address may get
them, and no route there has a method that is preferred to its own. -/
structure Takes (table : List Route) (method path : String) (r : Route) : Prop
    extends Winning table path r where
  preferred : ∃ m, Method.named? method = some m ∧ r.method ∈ takers m ∧
    ∀ s ∈ table, s.segments = r.segments →
      (takers m).idxOf r.method ≤ (takers m).idxOf s.method

/-- The destinations that a request may have if all that is known of the router is how it
compares addresses with paths and methods with each other. -/
inductive MayGo (table : List Route) (method path : String) : Destination → Prop
  | notFound (h : ∀ r ∈ table, Url.accepts r.segments (Url.parts path) = false) :
    MayGo table method path .notFound
  | notAllowed {r : Route} (h : Winning table path r) (huntaken : ∀ m,
      Method.named? method = some m → ∀ s ∈ table, s.segments = r.segments →
        s.method ∉ takers m) (allowed : String) :
    MayGo table method path (.notAllowed allowed)
  | route {r : Route} (h : Takes table method path r) : MayGo table method path (.route r)

section

variable {table other : List Route} {method path : String} {r s : Route} {d d' : Destination}

/-- An address may get requests in every table with the same routes. -/
theorem Winning.of_mem_iff (hmem : ∀ r, r ∈ table ↔ r ∈ other) (h : Winning table path r) :
    Winning other path r where
  mem := (hmem r).mp h.mem
  accepts := h.accepts
  unbeaten s hs := h.unbeaten s ((hmem s).mpr hs)

/-- The order of the routes does not matter for where a request may go. -/
theorem MayGo.of_mem_iff (hmem : ∀ r, r ∈ table ↔ r ∈ other) (h : MayGo table method path d) :
    MayGo other method path d := by
  cases h with
  | notFound h => exact .notFound fun r hr => h r ((hmem r).mpr hr)
  | notAllowed h huntaken allowed =>
    exact .notAllowed (h.of_mem_iff hmem)
      (fun m hm s hs => huntaken m hm s ((hmem s).mpr hs)) allowed
  | route h =>
    obtain ⟨m, hm, htaker, hpreferred⟩ := h.preferred
    exact .route ⟨h.toWinning.of_mem_iff hmem, m, hm, htaker,
      fun s hs => hpreferred s ((hmem s).mpr hs)⟩

/-! ## Dispatch -/

/-- The first taker that has a route comes before the methods of all other routes. -/
theorem preferred_of_findSome? {routes : List Route} {wanted : List Method}
    (h : wanted.findSome? (fun taker => withMethod? taker routes) = some r) :
    r ∈ routes ∧ r.method ∈ wanted ∧
      ∀ s ∈ routes, wanted.idxOf r.method ≤ wanted.idxOf s.method := by
  induction wanted with
  | nil => cases h
  | cons taker wanted ih =>
    rw [List.findSome?_cons] at h
    cases hfirst : withMethod? taker routes with
    | some first =>
      rw [hfirst] at h
      obtain rfl := Option.some.inj h
      have hmethod : first.method = taker := by simpa using List.find?_some hfirst
      have hmem := List.mem_of_find?_eq_some hfirst
      rw [hmethod, List.idxOf_cons_self]
      exact ⟨hmem, List.mem_cons_self, fun s _ => Nat.zero_le _⟩
    | none =>
      rw [hfirst] at h
      obtain ⟨hmem, hmethod, hpreferred⟩ := ih h
      have hne : ∀ s ∈ routes, taker ≠ s.method := fun s hs heq => by
        have hother := List.find?_eq_none.mp hfirst s hs
        simp [heq] at hother
      refine ⟨hmem, List.mem_cons_of_mem _ hmethod, fun s hs => ?_⟩
      rw [List.idxOf_cons_ne _ (hne r hmem), List.idxOf_cons_ne _ (hne s hs)]
      exact Nat.succ_le_succ (hpreferred s hs)

/-- The routes at the address that wins: there are none if no address matches, and otherwise
all routes with one address that may get the requests. -/
theorem atAddress_spec (table : List Route) (path : String) :
    (atAddress table (Url.parts path) = [] ∧
      ∀ r ∈ table, Url.accepts r.segments (Url.parts path) = false) ∨
    ∃ best, Winning table path best ∧
      ∀ s, s ∈ atAddress table (Url.parts path) ↔ s ∈ table ∧ s.segments = best.segments := by
  rw [atAddress]
  cases hmatching : table.filter fun r => Url.accepts r.segments (Url.parts path) with
  | nil =>
    refine .inl ⟨rfl, fun r hr => Bool.eq_false_iff.mpr ?_⟩
    exact List.filter_eq_nil_iff.mp hmatching r hr
  | cons first rest =>
    have hmem (s : Route) : s ∈ first :: rest ↔
        s ∈ table ∧ Url.accepts s.segments (Url.parts path) = true := by
      rw [← hmatching, List.mem_filter]
    obtain ⟨best, hbest, hfold, hunbeaten⟩ := unbeaten_foldl fun s hs =>
      Url.length_eq_of_accepts ((hmem s).mp hs).2
    obtain ⟨hbest, haccepts⟩ := (hmem best).mp hbest
    refine .inr ⟨best, ⟨hbest, haccepts, fun s hs h => hunbeaten s ((hmem s).mpr ⟨hs, h⟩)⟩, ?_⟩
    intro s
    dsimp only
    rw [hfold, List.mem_filter, hmem, beq_iff_eq]
    constructor
    · rintro ⟨⟨hs, -⟩, hsegments⟩
      exact ⟨hs, hsegments⟩
    · rintro ⟨hs, hsegments⟩
      exact ⟨⟨hs, hsegments ▸ haccepts⟩, hsegments⟩

/-- A request goes where it may go. -/
theorem mayGo_dispatch (table : List Route) (method path : String) :
    MayGo table method path (dispatch table method path) := by
  rw [dispatch, ← Url.parts]
  rcases atAddress_spec table path with ⟨hnil, hunmatched⟩ | ⟨best, hbest, hmem⟩
  · rw [hnil]
    exact .notFound hunmatched
  · have hnonempty : atAddress table (Url.parts path) ≠ [] :=
      List.ne_nil_of_mem ((hmem best).mpr ⟨hbest.mem, rfl⟩)
    split
    · next hnil => exact absurd hnil hnonempty
    · cases hroute : forMethod? method (atAddress table (Url.parts path)) with
      | some r =>
        obtain ⟨m, hm, hfound⟩ := Option.bind_eq_some_iff.mp hroute
        obtain ⟨hr, htaker, hpreferred⟩ := preferred_of_findSome? hfound
        obtain ⟨hr, hsegments⟩ := (hmem r).mp hr
        refine .route ⟨⟨hr, ?_, ?_⟩, m, hm, htaker, fun s hs hsame => ?_⟩
        · exact hsegments ▸ hbest.accepts
        · exact hsegments ▸ hbest.unbeaten
        · exact hpreferred s ((hmem s).mpr ⟨hs, hsame.trans hsegments⟩)
      | none =>
        refine .notAllowed hbest (fun m hm s hs hsegments htaker => ?_) _
        have hnone : (takers m).findSome?
            (fun taker => withMethod? taker (atAddress table (Url.parts path))) = none := by
          simpa [forMethod?, hm] using hroute
        have hmissing := List.findSome?_eq_none_iff.mp hnone s.method htaker
        have hother := List.find?_eq_none.mp hmissing s ((hmem s).mpr ⟨hs, hsegments⟩)
        simp at hother

/-! ## Coherent tables -/

/-- Whether the routes of a table that have one shape share an address, and are the same if
they also have one method. -/
structure Coherent (table : List Route) : Prop where
  segments : ∀ r ∈ table, ∀ s ∈ table,
    r.segments.map Segment.shape = s.segments.map Segment.shape → r.segments = s.segments
  method : ∀ r ∈ table, ∀ s ∈ table, r.segments = s.segments → r.method = s.method → r = s

/-- In a coherent table one address may get the requests for a path. -/
theorem Winning.segments_eq (htable : Coherent table) (hr : Winning table path r)
    (hs : Winning table path s) : r.segments = s.segments :=
  htable.segments r hr.mem s hs.mem (Url.shape_eq_of_not_wins hr.accepts hs.accepts
    (hs.unbeaten r hr.mem hr.accepts) (hr.unbeaten s hs.mem hs.accepts))

/-- In a coherent table one route may take a request. -/
theorem Takes.unique (htable : Coherent table) (hr : Takes table method path r)
    (hs : Takes table method path s) : r = s := by
  have hsegments := hr.toWinning.segments_eq htable hs.toWinning
  obtain ⟨m, hm, htaker, hpreferred⟩ := hr.preferred
  obtain ⟨m', hm', htaker', hpreferred'⟩ := hs.preferred
  obtain rfl : m = m' := Option.some.inj (hm.symm.trans hm')
  have hle := hpreferred s hs.mem hsegments.symm
  have hge := hpreferred' r hr.mem hsegments
  have hmethod : r.method = s.method := (List.idxOf_inj htaker).mp (Nat.le_antisymm hle hge)
  exact htable.method r hr.mem s hs.mem hsegments hmethod

/-- In a coherent table a request has one destination. -/
theorem MayGo.same (htable : Coherent table) (h : MayGo table method path d)
    (h' : MayGo table method path d') : d.Same d' := by
  have hunmatched {r : Route} (hr : Winning table path r)
      (h : ∀ r ∈ table, Url.accepts r.segments (Url.parts path) = false) : False := by
    have hnone := h r hr.mem
    rw [hr.accepts] at hnone
    cases hnone
  have huntaken {r s : Route} (hr : Winning table path r) (hs : Takes table method path s)
      (h : ∀ m, Method.named? method = some m → ∀ s ∈ table, s.segments = r.segments →
        s.method ∉ takers m) : False := by
    obtain ⟨m, hm, htaker, -⟩ := hs.preferred
    exact h m hm s hs.mem (hs.toWinning.segments_eq htable hr) htaker
  cases h with
  | notFound h =>
    cases h' with
    | notFound _ => trivial
    | notAllowed hr _ _ => exact (hunmatched hr h).elim
    | route hr => exact (hunmatched hr.toWinning h).elim
  | notAllowed hr h =>
    cases h' with
    | notFound h' => exact (hunmatched hr h').elim
    | notAllowed _ _ _ => trivial
    | route hs => exact (huntaken hr hs h).elim
  | route hr =>
    cases h' with
    | notFound h' => exact (hunmatched hr.toWinning h').elim
    | notAllowed hs h' _ => exact (huntaken hs hr h').elim
    | route hs => exact hr.unique htable hs

end

end Route

/-! ## Tables of endpoints -/

/-- The text of a well-formed segment in a route path determines the segment. -/
theorem Segment.WellFormed.routeText_inj {s s' : Segment} (hs : s.WellFormed)
    (hs' : s'.WellFormed) (h : s.routeText = s'.routeText) : s = s' := by
  have hmixed {text name : List Char} (ht : (literal text).WellFormed) :
      text ≠ ':' :: name := by
    rintro rfl
    have hcolon := ht.2 ':' List.mem_cons_self
    revert hcolon
    decide
  cases s with
  | literal text =>
    cases s' with
    | literal text' => exact congrArg literal h
    | capture name' => exact absurd h (hmixed hs)
  | capture name =>
    cases s' with
    | literal text' => exact absurd h.symm (hmixed hs')
    | capture name' => exact congrArg capture (List.cons.inj h).2

/-- Well-formed segments with the same texts are the same. -/
theorem Segment.eq_of_map_routeText {a b : List Segment} (ha : ∀ s ∈ a, s.WellFormed)
    (hb : ∀ s ∈ b, s.WellFormed) (h : a.map routeText = b.map routeText) : a = b := by
  induction a generalizing b with
  | nil => exact (List.map_eq_nil_iff.mp h.symm).symm
  | cons s a ih =>
    cases b with
    | nil => cases h
    | cons s' b =>
      rw [List.forall_mem_cons] at ha hb
      obtain ⟨hfirst, hrest⟩ := List.cons.inj h
      rw [ha.1.routeText_inj hb.1 hfirst, ih ha.2 hb.2 hrest]

/-- An address has the shape of a common one only if it is that one. -/
theorem Route.segments_eq_of_common {a : List Segment} {r : Route} (hr : r ∈ common)
    (h : a.map Segment.shape = r.segments.map Segment.shape) : a = r.segments := by
  obtain ⟨text, htext⟩ : ∃ text, r.segments = [.literal text] := by
    simp only [common, List.mem_cons, List.not_mem_nil, or_false] at hr
    obtain rfl | rfl | rfl := hr <;> exact ⟨_, rfl⟩
  rw [htext] at h ⊢
  obtain ⟨s, rfl, hs⟩ := List.map_eq_singleton_iff.mp h
  cases s with
  | literal text' => rw [Option.some.inj hs]
  | capture name => cases hs

namespace Endpoint

variable {d e : Endpoint} {endpoints : List Endpoint} {table : List Route}

/-- The route path of a built endpoint determines its address. -/
theorem IsBuilt.segments_eq (hd : d.IsBuilt) (he : e.IsBuilt) (h : d.routePath = e.routePath) :
    d.segments = e.segments := by
  have hparts := hd.splitAt_routePath
  rw [h, he.splitAt_routePath] at hparts
  exact Segment.eq_of_map_routeText hd.wellFormed.2 he.wellFormed.2 (List.cons.inj hparts).2.symm

/-- The list of the endpoints of a table has no conflicts, and the common routes come first. -/
theorem conflictFree_of_table (hbuilt : ∀ e ∈ endpoints, e.IsBuilt)
    (htable : Route.table endpoints = .ok table) :
    ConflictFree endpoints ∧ table = Route.common ++ endpoints.map Route.ofEndpoint := by
  have hfree := (Registry.records_nil.exists_addAll_iff (by simp) hbuilt).mp
    ((exists_table_iff endpoints).mp ⟨table, htable⟩)
  obtain ⟨_, -, hroutes⟩ := exists_of_bind_eq_ok htable
  exact ⟨hfree.2, (Except.ok.inj hroutes).symm⟩

/-- A list without conflicts has a table. -/
theorem ConflictFree.exists_table (hbuilt : ∀ e ∈ endpoints, e.IsBuilt)
    (hfree : ConflictFree endpoints) : ∃ table, Route.table endpoints = .ok table :=
  (exists_table_iff endpoints).mpr ((Registry.records_nil.exists_addAll_iff (by simp) hbuilt).mpr
    ⟨by simp, hfree⟩)

/-- In a list without conflicts each endpoint occurs once. -/
theorem ConflictFree.nodup (hfree : ConflictFree endpoints) : endpoints.Nodup :=
  hfree.compatible.imp fun hcompatible heq =>
    (hcompatible (congrArg shape heq)).2 (congrArg method heq)

/-- The table of a list without conflicts is coherent. -/
theorem ConflictFree.coherent (hbuilt : ∀ e ∈ endpoints, e.IsBuilt)
    (hfree : ConflictFree endpoints) :
    Route.Coherent (Route.common ++ endpoints.map Route.ofEndpoint) := by
  have hreserved {r : Route} (hr : r ∈ Route.common) {e : Endpoint} (he : e ∈ endpoints) :
      e.segments ≠ r.segments := by
    intro hsegments
    apply hfree.unreserved e he
    rw [routePath, hsegments]
    exact List.mem_map_of_mem hr
  have hcompatible {d e : Endpoint} (hd : d ∈ endpoints) (he : e ∈ endpoints) :
      d = e ∨ Compatible d e := by
    have hsymm : Std.Symm Compatible := ⟨fun _ _ => Compatible.symm⟩
    by_cases heq : d = e
    · exact .inl heq
    · exact .inr (hfree.compatible.forall hd he heq)
  constructor
  · intro r hr s hs hshape
    rcases List.mem_append.mp hs with hs | hs
    · exact Route.segments_eq_of_common hs hshape
    · rcases List.mem_append.mp hr with hr | hr
      · exact (Route.segments_eq_of_common hr hshape.symm).symm
      · obtain ⟨d, hd, rfl⟩ := List.mem_map.mp hr
        obtain ⟨e, he, rfl⟩ := List.mem_map.mp hs
        rcases hcompatible hd he with rfl | h
        · rfl
        · exact (hbuilt d hd).segments_eq (hbuilt e he) (h hshape).1
  · intro r hr s hs hsegments hmethod
    rcases List.mem_append.mp hr with hr | hr <;> rcases List.mem_append.mp hs with hs | hs
    · simp only [Route.common, List.mem_cons, List.not_mem_nil, or_false] at hr hs
      obtain rfl | rfl | rfl := hr <;> obtain rfl | rfl | rfl := hs <;>
        first | rfl | exact absurd hsegments (by decide)
    · obtain ⟨e, he, rfl⟩ := List.mem_map.mp hs
      exact absurd hsegments.symm (hreserved hr he)
    · obtain ⟨e, he, rfl⟩ := List.mem_map.mp hr
      exact absurd hsegments (hreserved hs he)
    · obtain ⟨d, hd, rfl⟩ := List.mem_map.mp hr
      obtain ⟨e, he, rfl⟩ := List.mem_map.mp hs
      rcases hcompatible hd he with rfl | h
      · rfl
      · have hshape : d.shape = e.shape := congrArg (List.map Segment.shape) hsegments
        exact absurd hmethod (h hshape).2

/-- A route that an endpoint answers is that of a listed one. -/
theorem eq_ofEndpoint_of_mem {r : Route}
    (h : r ∈ Route.common ++ endpoints.map Route.ofEndpoint) (he : r.handler = .endpoint e) :
    r = .ofEndpoint e ∧ e ∈ endpoints := by
  rcases List.mem_append.mp h with h | h
  · simp only [Route.common, List.mem_cons, List.not_mem_nil, or_false] at h
    obtain rfl | rfl | rfl := h <;> cases he
  · obtain ⟨d, hd, rfl⟩ := List.mem_map.mp h
    obtain rfl : d = e := Handler.endpoint.inj he
    exact ⟨rfl, hd⟩

/-! ## The law of dispatch -/

/-- What dispatching requests to the endpoints of a table does. -/
structure Dispatched (endpoints : List Endpoint) (table : List Route) : Prop where
  /-- Requests go where a router may let them go. -/
  lawful : ∀ method path, Route.MayGo table method path (Route.dispatch table method path)
  /-- A router has no choice, in whatever order the endpoints are registered. -/
  reordered : ∀ others, endpoints.Perm others → ∃ other, Route.table others = .ok other ∧
    ∀ method path d, Route.MayGo other method path d → d.Same (Route.dispatch table method path)
  /-- At most one of the endpoints takes a request. -/
  nodup : endpoints.Nodup
  unique : ∀ method path, ∀ d ∈ endpoints, ∀ e ∈ endpoints,
    Route.Takes table method path (.ofEndpoint d) →
      Route.Takes table method path (.ofEndpoint e) → d = e
  /-- An endpoint that takes a request is listed, and its address matches the path. -/
  matching : ∀ method path r e, Route.Takes table method path r → r.handler = .endpoint e →
    r = .ofEndpoint e ∧ e ∈ endpoints ∧ List.Forall₂ Url.PartMatches
      (Text.splitAt '/' e.url.toList) (Text.splitAt '/' path.toList)
  /-- A route for HEAD takes the requests that one for GET would take otherwise. -/
  head : ∀ path r, Route.Takes table "HEAD" path r → r.method = .head ∨
    r.method = .get ∧ ∀ s ∈ table, s.segments = r.segments → s.method ≠ .head

/-- A request for the head of an answer is taken by a route for GET only if none is for HEAD. -/
theorem head_of_takes {path : String} {r : Route} (h : Route.Takes table "HEAD" path r) :
    r.method = .head ∨
      r.method = .get ∧ ∀ s ∈ table, s.segments = r.segments → s.method ≠ .head := by
  obtain ⟨m, hm, htaker, hpreferred⟩ := h.preferred
  obtain rfl : Method.head = m := Option.some.inj ((Method.named?_name .head).symm.trans hm)
  have htakers : r.method = .head ∨ r.method = .get := by simpa [Route.takers] using htaker
  refine htakers.imp_right fun hget => ⟨hget, fun s hs hsegments hhead => ?_⟩
  have hle := hpreferred s hs hsegments
  rw [hget, hhead] at hle
  revert hle
  decide

/-- **Dispatch is well defined.** Of the endpoints of a table at most one can take a request, its
address matches the path segment by segment, and the destination of a request does not
depend on the order in which the endpoints are registered. -/
theorem dispatch_well_defined (hbuilt : ∀ e ∈ endpoints, e.IsBuilt)
    (htable : Route.table endpoints = .ok table) : Dispatched endpoints table := by
  obtain ⟨hfree, rfl⟩ := conflictFree_of_table hbuilt htable
  have hcoherent := hfree.coherent hbuilt
  exact {
    lawful := Route.mayGo_dispatch _
    reordered := fun others hperm => by
      have hothers : ∀ e ∈ others, e.IsBuilt := fun e he => hbuilt e (hperm.mem_iff.mpr he)
      obtain ⟨other, hother⟩ := (conflictFree_of_perm hperm hfree).exists_table hothers
      obtain ⟨-, rfl⟩ := conflictFree_of_table hothers hother
      refine ⟨_, hother, fun method path d hd => ?_⟩
      have hroutes (r : Route) : r ∈ Route.common ++ others.map Route.ofEndpoint ↔
          r ∈ Route.common ++ endpoints.map Route.ofEndpoint := by
        simp only [List.mem_append, List.mem_map, hperm.mem_iff]
      exact (hd.of_mem_iff hroutes).same hcoherent (Route.mayGo_dispatch _ method path)
    nodup := hfree.nodup
    unique := fun method path d _ e _ hd he =>
      Handler.endpoint.inj (congrArg Route.handler (hd.unique hcoherent he))
    matching := fun method path r e h hhandler => by
      obtain ⟨rfl, he⟩ := eq_ofEndpoint_of_mem h.mem hhandler
      obtain ⟨layout, v, hentry⟩ := hbuilt e he
      have hsegments := eq_ok_of_mapError (builtFrom_of_ofView hentry).segments
      exact ⟨rfl, he, Url.forall₂_of_accepts hsegments h.accepts⟩
    head := fun path r => head_of_takes }

/-- Of two addresses that match a path the one that begins with a literal gets its requests, and
its endpoint for HEAD is preferred to the one for GET. -/
theorem dispatch_well_defined_overlap :
    let entry (url method : String) : Tree :=
      .map [("method", .text method), ("sql", .text "select 1"), ("url", .text url)]
    let v : View := ⟨.map [("api", .list [entry "/\x7by\x7d/b" "head", entry "/a/\x7bx\x7d" "get",
      entry "/a/\x7bx\x7d" "head"])]⟩
    ∃ endpoints table, loadAll .verbatim v = .ok endpoints ∧ (∀ e ∈ endpoints, e.IsBuilt) ∧
      Route.table endpoints = .ok table ∧ ∃ e ∈ endpoints,
        e.url = "/a/\x7bx\x7d" ∧ e.method = .head ∧
          Route.Takes table "HEAD" "/a/b" (.ofEndpoint e) ∧
            ∀ d ∈ endpoints, Route.Takes table "HEAD" "/a/b" (.ofEndpoint d) → d = e := by
  intro entry v
  have hregistered : (loadAll .verbatim v >>= Route.table).toOption.isSome = true := by
    decide +kernel
  have hselected : ((loadAll .verbatim v >>= Route.table).toOption.bind fun table =>
      match Route.dispatch table "HEAD" "/a/b" with
      | .route ⟨_, _, .endpoint e⟩ => some (e.url, e.method)
      | _ => none) = some ("/a/\x7bx\x7d", .head) := by
    decide +kernel
  obtain ⟨table, hbind⟩ := exists_of_isSome_toOption hregistered
  obtain ⟨endpoints, hloaded, htable⟩ := exists_of_bind_eq_ok hbind
  have hbuilt := isBuilt_of_loadAll hloaded
  have hlaw := dispatch_well_defined hbuilt htable
  rw [hbind, Except.toOption, Option.bind_some] at hselected
  split at hselected
  · next segments method e hroute =>
    obtain ⟨hurl, hmethod⟩ := Prod.mk.inj (Option.some.inj hselected)
    have hmay := hlaw.lawful "HEAD" "/a/b"
    rw [hroute] at hmay
    cases hmay with
    | route htakes =>
      obtain ⟨hsame, he, -⟩ := hlaw.matching _ _ _ e htakes rfl
      rw [hsame] at htakes
      exact ⟨endpoints, table, hloaded, hbuilt, htable, e, he, hurl, hmethod, htakes,
        fun d hd h => hlaw.unique _ _ d hd e he h htakes⟩
  · cases hselected

end Endpoint

end QueryGateway
