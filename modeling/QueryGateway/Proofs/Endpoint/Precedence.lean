import QueryGateway.Endpoint.Context
import QueryGateway.Proofs.Endpoint.Built
import QueryGateway.Proofs.Json.Members
import QueryGateway.Proofs.Path.Plain

/-!
# Precedence of values

A key of a request has the first value that the query gives it, or else the last one of the
body, or else the first default. The keys are those of the three sources, and an empty value
hides the later sources like any other. A body that is no object is refused before the other
sources are looked at.
-/

namespace QueryGateway

/-! ## The three sources as they are written -/

namespace Context

/-- Whether a body gives members: blanks only, or an object. -/
def IsObjectBody (body : Bytes) : Prop :=
  isBlankBody body = true ∨ ∃ fields, Json.read body = .ok (.map fields)

/-- The members of a body as they are written; a blank body has none. -/
def bodyMembers? (body : Bytes) : Option (List (String × Tree)) :=
  if isBlankBody body then some [] else Json.members? body

/-- The pairs of a query as they are written. -/
def queryPairs (query : Option String) : List (String × String) :=
  (query.map fun q => FormUrl.decode (Utf8.ofString q)).getD []

/-- The value of a key by its sources as they are written: the first of the query, or else
the last of the body, or else the first default. -/
def chosen (query : List (String × String)) (members : List (String × Tree))
    (defaults : List (String × String)) (k : String) : Option Tree :=
  ((query.lookup k).map .text).or
    ((members.reverse.lookup k).or ((defaults.lookup k).map .text))

end Context

/-- The defaults as they are written at their place in the configuration. -/
def Endpoint.writtenDefaults : Tree → List (String × String)
  | .null => []
  | .map fields => fields.map fun (k, t) => (k, t.toText)
  | other => FormUrl.decode (Utf8.ofString other.toText)

/-! ## Merging -/

namespace Context

/-- The keys of texts as fields. -/
theorem keys_textFields (pairs : List (String × String)) :
    (textFields pairs).map Prod.fst = pairs.map Prod.fst := by
  simp [textFields, Function.comp_def]

/-- The value of a key in texts as fields. -/
theorem lookup_textFields (pairs : List (String × String)) (k : String) :
    (textFields pairs).lookup k = (pairs.lookup k).map .text := by
  induction pairs with
  | nil => rfl
  | cons p pairs ih =>
    obtain ⟨key, s⟩ := p
    rw [textFields, List.map_cons, List.lookup_cons, List.lookup_cons]
    cases k == key with
    | true => rfl
    | false => exact ih

/-- Of texts with different keys, the value of a key is the last one as well. -/
theorem lookup_reverse_textFields {pairs : List (String × String)}
    (h : (pairs.map Prod.fst).Nodup) (k : String) :
    (textFields pairs).reverse.lookup k = (pairs.lookup k).map .text := by
  rw [lookup_reverse_of_nodup (by rwa [keys_textFields]), lookup_textFields]

/-- Every key has its value from the query, or else from the body, or else from the
defaults. -/
theorem get?_merge {defaults : List (String × String)} (hdefaults : (defaults.map Prod.fst).Nodup)
    {body : Fields} (hbody : body.Ascending) (query : Option String) (k : String) :
    (merge defaults body query).get? k =
      (((queryPairs query).lookup k).map .text).or
        ((body.get? k).or ((defaults.lookup k).map .text)) := by
  have hquery : (textFields ((query.map FormUrl.parse).getD [])).reverse.lookup k =
      ((queryPairs query).lookup k).map .text := by
    cases query with
    | none => rfl
    | some q =>
      have hnodup := FormUrl.nodup_firstValues (FormUrl.decode (Utf8.ofString q))
      have hlookup := FormUrl.lookup_firstValues (FormUrl.decode (Utf8.ofString q)) k
      exact (lookup_reverse_textFields hnodup k).trans (congrArg _ hlookup)
  have hreverse : body.reverse.lookup k = body.get? k := lookup_reverse_of_nodup hbody.nodup
  rw [merge, Fields.get?_ofList, List.reverse_append, List.reverse_append, List.lookup_append,
    List.lookup_append, hquery, hreverse, lookup_reverse_textFields hdefaults]

/-- The merged values are well formed if those of the body are. -/
theorem wellFormed_merge (defaults : List (String × String)) {body : Fields}
    (hbody : (Tree.map body).WellFormed) (query : Option String) :
    (Tree.map (merge defaults body query)).WellFormed := by
  have htexts (pairs : List (String × String)) : ∀ p ∈ textFields pairs, p.2.WellFormed := by
    intro p hp
    obtain ⟨pair, -, rfl⟩ := List.mem_map.mp hp
    exact .text pair.2
  cases hbody with
  | map _ hvalues =>
    apply Tree.WellFormed.ofList
    simp only [List.forall_mem_append]
    exact ⟨⟨htexts defaults, hvalues⟩, htexts _⟩

/-- A key is chosen a value exactly if one of the sources has it. -/
theorem isSome_chosen (query : List (String × String)) (members : List (String × Tree))
    (defaults : List (String × String)) (k : String) :
    (chosen query members defaults k).isSome = true ↔
      k ∈ query.map Prod.fst ∨ k ∈ members.map Prod.fst ∨ k ∈ defaults.map Prod.fst := by
  have hmembers : k ∈ members.map Prod.fst ↔ k ∈ members.reverse.map Prod.fst := by simp
  rw [hmembers, ← isSome_lookup_iff, ← isSome_lookup_iff, ← isSome_lookup_iff, chosen]
  simp

/-! ## Bodies -/

/-- A body with members gives the fields that are made of them. -/
theorem bodyFields_of_bodyMembers? {body : Bytes} {members : List (String × Tree)}
    (h : bodyMembers? body = some members) : bodyFields body = .ok (Fields.ofList members) := by
  rw [bodyMembers?] at h
  rw [bodyFields]
  split
  · next hblank =>
    rw [if_pos hblank] at h
    obtain rfl := Option.some.inj h
    rfl
  · next hblank =>
    rw [if_neg hblank] at h
    rw [Json.read_eq_map_iff.mpr ⟨members, h, rfl⟩]

/-- A body has members exactly if it is blank or an object. -/
theorem exists_bodyMembers?_iff (body : Bytes) :
    (∃ members, bodyMembers? body = some members) ↔ IsObjectBody body := by
  rw [bodyMembers?, IsObjectBody]
  split
  · next hblank => simp [hblank]
  · next hblank =>
    simp only [hblank, Bool.false_eq_true, false_or, Json.read_eq_map_iff]
    constructor
    · rintro ⟨members, h⟩
      exact ⟨_, members, h, rfl⟩
    · rintro ⟨-, members, h, -⟩
      exact ⟨members, h⟩

/-- The fields of a body are well formed. -/
theorem wellFormed_of_bodyFields {body : Bytes} {fields : Fields}
    (h : bodyFields body = .ok fields) : (Tree.map fields).WellFormed := by
  rw [bodyFields] at h
  split at h
  · obtain rfl := Except.ok.inj h
    exact .map .nil (by simp)
  · split at h
    · next hread =>
      obtain rfl := Except.ok.inj h
      exact Json.wellFormed_of_read hread
    · cases h
    · cases h

/-- A body that is neither blank nor an object is refused. -/
theorem exists_refusal {body : Bytes} (h : ¬ IsObjectBody body) :
    ∃ reason, bodyFields body = .error reason := by
  rw [IsObjectBody, not_or] at h
  rw [bodyFields, if_neg h.1]
  split
  · next fields hread => exact absurd ⟨fields, hread⟩ h.2
  · exact ⟨_, rfl⟩
  · exact ⟨_, rfl⟩

end Context

namespace Endpoint

/-! ## Defaults -/

/-- The defaults of an endpoint have different keys, and each key the first text that is
written for it. -/
theorem defaults_of_readDefaults {v : View} (hv : v.tree.WellFormed)
    {defaults : List (String × String)} (h : readDefaults v = .ok defaults) :
    (defaults.map Prod.fst).Nodup ∧ ∃ node, v.get "param_defaults" = .ok node ∧
      ∀ k, defaults.lookup k = (writtenDefaults node.tree).lookup k := by
  rw [readDefaults] at h
  obtain ⟨⟨t⟩, hnode, h⟩ := exists_of_bind_eq_ok h
  have hget := eq_ok_of_mapError hnode
  cases t with
  | null =>
    obtain rfl := Except.ok.inj h
    exact ⟨List.nodup_nil, _, hget, fun k => rfl⟩
  | map fields =>
    obtain rfl := Except.ok.inj h
    refine ⟨?_, _, hget, fun k => rfl⟩
    have hnodup := (View.wellFormed_get hv hget).ascending.nodup
    simpa [Function.comp_def] using hnodup
  | _ =>
    obtain rfl := Except.ok.inj h
    exact ⟨FormUrl.nodup_firstValues _, _, hget, FormUrl.lookup_firstValues _⟩

/-! ## The precedence of the sources -/

/-- What the values of a request are, by its sources as they are written. -/
structure Merged (c : Context) (query : List (String × String))
    (members : List (String × Tree)) (defaults : List (String × String)) : Prop where
  wellFormed : c.values.tree.WellFormed
  keys : ∃ fields, c.values.tree = .map fields ∧ ∀ k, k ∈ fields.map Prod.fst ↔
    k ∈ query.map Prod.fst ∨ k ∈ members.map Prod.fst ∨ k ∈ defaults.map Prod.fst
  value : ∀ k, c.values.tree.field? k = Context.chosen query members defaults k
  text : ∀ k, Path.IsPlain k →
    c.param k = Path.valueText (Context.chosen query members defaults k)

/-- How an endpoint with the given defaults takes the values of its requests. -/
structure Precedence (e : Endpoint) (defaults : List (String × String)) : Prop where
  accepts : ∀ request, Context.IsObjectBody request.body → ∃ c members,
    e.context request = .ok c ∧ Context.bodyMembers? request.body = some members ∧
      Merged c (Context.queryPairs request.target.query) members defaults
  /-- Any other body is refused for a reason that no other part of the request and no
  endpoint changes. -/
  refuses : ∀ body, ¬ Context.IsObjectBody body → ∃ reason, ∀ (other : Endpoint) request,
    request.body = body → other.context request = .error (.badRequest reason)

/-- The values of a request whose body gives members. -/
theorem merged_context {e : Endpoint} {defaults : List (String × String)} {request : Request}
    {members : List (String × Tree)} (hnodup : (e.defaults.map Prod.fst).Nodup)
    (hdefaults : ∀ k, e.defaults.lookup k = defaults.lookup k)
    (hmembers : Context.bodyMembers? request.body = some members) :
    ∃ c, e.context request = .ok c ∧
      Merged c (Context.queryPairs request.target.query) members defaults := by
  have hbody := Context.bodyFields_of_bodyMembers? hmembers
  let values := Context.merge e.defaults (Fields.ofList members) request.target.query
  let c : Context := ⟨⟨.map values⟩, request.headers, request.target.path⟩
  have hcontext : e.context request = .ok c := by
    rw [context, hbody]
    rfl
  have hvalue (k : String) : c.values.tree.field? k =
      Context.chosen (Context.queryPairs request.target.query) members defaults k := by
    have hmerge := Context.get?_merge hnodup (Fields.ascending_ofList members)
      request.target.query k
    rwa [Fields.get?_ofList, hdefaults] at hmerge
  refine ⟨c, hcontext, ?_, ⟨values, rfl, fun k => ?_⟩, hvalue, fun k hk => ?_⟩
  · exact Context.wellFormed_merge e.defaults (Context.wellFormed_of_bodyFields hbody) _
  · rw [Fields.mem_keys_iff, ← Context.isSome_chosen, ← hvalue]
    rfl
  · rw [Context.param, View.text_of_isPlain _ hk, hvalue]

/-- **Precedence of values.** An endpoint that is built from an entry of a configuration
takes the first value that the query gives a key, or else the last one of the body, or else
the first one of the defaults of the entry. -/
theorem context_precedence {layout : Statement.Layout} {v : View} {e : Endpoint}
    (hbuilt : ofView layout v = .ok e) (hv : v.tree.WellFormed) :
    ∃ node, v.get "param_defaults" = .ok node ∧ Precedence e (writtenDefaults node.tree) := by
  obtain ⟨hnodup, node, hnode, hdefaults⟩ :=
    defaults_of_readDefaults hv (builtFrom_of_ofView hbuilt).defaults
  refine ⟨node, hnode, fun request hobject => ?_, fun body hobject => ?_⟩
  · obtain ⟨members, hmembers⟩ := (Context.exists_bodyMembers?_iff request.body).mpr hobject
    obtain ⟨c, hcontext, hmerged⟩ := merged_context hnodup hdefaults hmembers
    exact ⟨c, members, hcontext, hmembers, hmerged⟩
  · obtain ⟨reason, hreason⟩ := Context.exists_refusal hobject
    refine ⟨reason, fun other request hrequest => ?_⟩
    rw [context, hrequest, hreason]
    rfl

/-- An empty value of a query, the last of two members and a default. -/
theorem context_precedence_paging :
    let v : View := ⟨.map [("param_defaults", .text "page=1&size=10&sort=id&sort=name"),
      ("sql", .text "select 1"), ("url", .text "/users")]⟩
    let request : Request := {
      target := ⟨"/users", some "page=&page=2"⟩
      body := Utf8.ofString "\x7b\"page\":3,\"size\":20,\"size\":30\x7d" }
    ∃ e c, ofView .verbatim v = .ok e ∧ v.tree.WellFormed ∧ e.context request = .ok c ∧
      c.param "page" = "" ∧ c.param "size" = "30" ∧ c.param "sort" = "id" := by
  intro v request
  have hv : v.tree.WellFormed := by
    refine .map ?_ ?_
    · simp only [Fields.Ascending, List.pairwise_cons]
      decide
    · simp [Tree.WellFormed.text]
  obtain ⟨e, hbuilt⟩ : ∃ e, ofView .verbatim v = .ok e :=
    exists_of_isSome_toOption (by decide +kernel)
  obtain ⟨node, hnode, haccepts, -⟩ := context_precedence hbuilt hv
  obtain rfl : ⟨.text "page=1&size=10&sort=id&sort=name"⟩ = node :=
    Except.ok.inj (Eq.trans rfl hnode)
  have htexts : (Context.bodyMembers? request.body).map (fun members =>
      ["page", "size", "sort"].map fun k => Path.valueText (Context.chosen
        (Context.queryPairs request.target.query) members
        (writtenDefaults (.text "page=1&size=10&sort=id&sort=name")) k)) =
      some ["", "30", "id"] := by
    decide +kernel
  obtain ⟨members, hmembers⟩ : ∃ members, Context.bodyMembers? request.body = some members :=
    Option.isSome_iff_exists.mp (by rw [← Option.isSome_map, htexts]; rfl)
  obtain ⟨c, members, hcontext, hc, hmerged⟩ :=
    haccepts request ((Context.exists_bodyMembers?_iff _).mp ⟨_, hmembers⟩)
  rw [hc] at htexts
  simp only [Option.map_some, Option.some.injEq, List.map_cons, List.map_nil, List.cons.injEq,
    and_true] at htexts
  refine ⟨e, c, hbuilt, hv, hcontext, ?_⟩
  rw [hmerged.text "page" (by decide), hmerged.text "size" (by decide),
    hmerged.text "sort" (by decide)]
  exact htexts

end Endpoint

end QueryGateway
