import QueryGateway.Proofs.Config.Locality
import QueryGateway.Proofs.Endpoint.Precedence
import QueryGateway.Proofs.Json.Objects
import QueryGateway.Proofs.Text.FormEncoding

/-!
# Ways to supply values

Texts for the parameters of an endpoint can be given in the query or the body of a request, and
in a text or a table of defaults. Whatever characters the keys and the texts have, the values
of the request are the same.
-/

namespace QueryGateway

/-! ## Forms of a map of texts -/

/-- Whether a text is a form of a map of texts, with its pairs in any order. -/
def FormUrl.EncodesMap (pairs : List (String × String)) (text : String) : Prop :=
  ∃ listed, listed.Perm pairs ∧ Encodes listed text

/-- Whether a JSON text denotes a map of texts, with its members in any order. -/
def Json.DenotesMap (pairs : List (String × String)) (text : String) : Prop :=
  ∃ listed, listed.Perm pairs ∧
    Document.ofText? text.toList = some (.object (stringMembers listed))

/-- A map of texts as a tree. -/
def Tree.ofTexts (pairs : List (String × String)) : Tree :=
  .ofPairs (Context.textFields pairs)

/-- The usual form of a map of texts is one of its forms. -/
theorem FormUrl.encodesMap_text (pairs : List (String × String)) :
    EncodesMap pairs (text pairs) :=
  ⟨pairs, .refl _, encodes_text pairs⟩

/-! ## Merging one source -/

namespace Context

variable {pairs listed : List (String × String)}

/-- The fields of texts with different keys are the texts. -/
theorem perm_texts (hpairs : (pairs.map Prod.fst).Nodup) :
    ((Fields.ofList (textFields pairs)).map fun (k, t) => (k, t.toText)).Perm pairs := by
  have htexts : (textFields pairs).map (fun (k, t) => (k, t.toText)) = pairs := by
    simp [textFields, Function.comp_def, Tree.toText]
  have hperm := (Fields.perm_ofList (by rwa [keys_textFields])).map
    fun ((k, t) : String × Tree) => (k, t.toText)
  rwa [htexts] at hperm

/-- The fields of texts are texts. -/
theorem textFields_texts (hpairs : (pairs.map Prod.fst).Nodup) :
    textFields ((Fields.ofList (textFields pairs)).map fun (k, t) => (k, t.toText)) =
      Fields.ofList (textFields pairs) := by
  have hperm : (Fields.ofList (textFields pairs)).Perm (textFields pairs) :=
    Fields.perm_ofList (by rwa [keys_textFields])
  rw [textFields, List.map_map]
  refine (List.map_congr_left fun p hp => ?_).trans (List.map_id _)
  obtain ⟨q, -, rfl⟩ := List.mem_map.mp (hperm.mem_iff.mp hp)
  rfl

/-- Texts are the same fields in any order. -/
theorem ofList_textFields_congr (hpairs : (pairs.map Prod.fst).Nodup)
    (hperm : listed.Perm pairs) :
    Fields.ofList (textFields listed) = Fields.ofList (textFields pairs) := by
  have hlisted : (listed.map Prod.fst).Nodup := (hperm.map Prod.fst).nodup_iff.mpr hpairs
  exact Fields.ofList_congr (by rwa [keys_textFields]) (hperm.map _)

/-- Defaults alone are the values. -/
theorem merge_defaults (pairs : List (String × String)) :
    merge pairs [] none = Fields.ofList (textFields pairs) := by
  simp [merge, textFields]

/-- A body alone is the values. -/
theorem merge_body {body : Fields} (hbody : body.Ascending) : merge [] body none = body := by
  simp [merge, textFields, hbody.ofList_eq]

/-- A query alone is the values. -/
theorem merge_query (query : String) :
    merge [] [] (some query) = Fields.ofList (textFields (FormUrl.parse query)) := by
  simp [merge, textFields]

/-- A body with members is not blank. -/
theorem bodyMembers?_of_members? {body : Bytes} {members : List (String × Tree)}
    (h : Json.members? body = some members) : bodyMembers? body = some members := by
  have hblank : ¬ isBlankBody body = true := by
    intro hblank
    rw [Json.members?] at h
    split at h
    · next hpeek =>
      have hmem : 0x7B ∈ body := by
        have hrest := List.mem_of_mem_head? hpeek
        rw [Json.Input.skipBlanks, Json.Input.rest_advanceBy] at hrest
        exact List.mem_of_mem_drop hrest
      have hbrace := List.all_eq_true.mp hblank 0x7B hmem
      revert hbrace
      decide
    · cases h
  rw [bodyMembers?, if_neg hblank, h]

/-- A JSON text for a map of texts gives its texts as fields. -/
theorem bodyFields_of_denotesMap (hpairs : (pairs.map Prod.fst).Nodup) {text : String}
    (h : Json.DenotesMap pairs text) :
    bodyFields (Utf8.ofString text) = .ok (Fields.ofList (textFields pairs)) := by
  obtain ⟨listed, hperm, hdocument⟩ := h
  have hmembers : Json.members? (Utf8.ofString text) = some (textFields listed) :=
    Json.members?_of_ofText? hdocument
  rw [bodyFields_of_bodyMembers? (bodyMembers?_of_members? hmembers),
    ofList_textFields_congr hpairs hperm]

/-- A query for a map of texts gives its pairs. -/
theorem exists_parse_of_encodesMap (hpairs : (pairs.map Prod.fst).Nodup) {text : String}
    (h : FormUrl.EncodesMap pairs text) :
    ∃ listed, listed.Perm pairs ∧ FormUrl.parse text = listed := by
  obtain ⟨listed, hperm, hencodes⟩ := h
  exact ⟨listed, hperm,
    FormUrl.parse_of_encodes ((hperm.map Prod.fst).nodup_iff.mpr hpairs) hencodes⟩

end Context

/-- A printed map of texts is one of its forms. -/
theorem Json.denotesMap_renderString {pairs : List (String × String)}
    (hpairs : (pairs.map Prod.fst).Nodup) :
    DenotesMap pairs (renderString (.ofTexts pairs)) := by
  refine ⟨_, Context.perm_texts hpairs, ?_⟩
  rw [← ofText?_render_texts, renderString, String.toList_ofList]
  exact congrArg (fun fields => Document.ofText? (render (.map fields)))
    (Context.textFields_texts hpairs).symm

namespace Endpoint

variable {layout : Statement.Layout} {fields : Fields} {e : Endpoint} {v : View}

/-! ## Entries with defaults -/

/-- The entry with the given fields and with defaults. -/
def entryWith (fields : Fields) (defaults : Tree) : View :=
  ⟨.map (fields.insert "param_defaults" defaults)⟩

/-- The defaults are read from the field for them, where an empty one is none. -/
theorem get_defaults (v : View) : v.get "param_defaults" =
    .ok ⟨((v.tree.field? "param_defaults").bind Path.nonEmpty).getD .null⟩ := by
  rw [View.get, Path.get_of_isPlain v.tree (by decide)]
  rfl

/-- Without a field for them there are no defaults. -/
theorem readDefaults_of_none (h : v.tree.field? "param_defaults" = none) :
    readDefaults v = .ok [] := by
  rw [readDefaults, get_defaults, h]
  rfl

/-- A text of defaults is read like a query. -/
theorem readDefaults_of_text {text : String}
    (h : v.tree.field? "param_defaults" = some (.text text)) :
    readDefaults v = .ok (FormUrl.parse text) := by
  rw [readDefaults, get_defaults, h, Option.bind_some, Path.nonEmpty]
  split
  · next hempty =>
    obtain rfl : text = "" := by simpa [Tree.isEmpty] using hempty
    rfl
  · rfl

/-- A table of defaults has the texts of its fields. -/
theorem readDefaults_of_map {table : Fields}
    (h : v.tree.field? "param_defaults" = some (.map table)) :
    readDefaults v = .ok (table.map fun (k, t) => (k, t.toText)) := by
  rw [readDefaults, get_defaults, h, Option.bind_some, Path.nonEmpty]
  split
  · next hempty =>
    obtain rfl : table = [] := by simpa [Tree.isEmpty] using hempty
    rfl
  · rfl

/-- Items that are read alike give the same values. -/
theorem readItems_congr {w : View} {k : String} (h : View.SameAt v w k) {α : Type}
    (read : String → Except ConfigFailure α) : readItems v k read = readItems w k read := by
  rw [readItems, readItems, h.items]

/-- With other defaults an entry gives the same endpoint with other defaults. -/
theorem ofView_entryWith (hbuilt : ofView layout ⟨.map fields⟩ = .ok e) {t : Tree}
    {defaults : List (String × String)}
    (hdefaults : readDefaults (entryWith fields t) = .ok defaults) :
    ofView layout (entryWith fields t) = .ok { e with defaults } := by
  have h := builtFrom_of_ofView hbuilt
  have hsame {k : String} (hk : Path.IsPlain k) (hne : k ≠ "param_defaults") :
      View.SameAt (entryWith fields t) ⟨.map fields⟩ k := View.sameAt_insert fields t hk hne
  have hurl := hsame (k := "url") (by decide) (by decide)
  have hmethod := hsame (k := "method") (by decide) (by decide)
  have hsql := hsame (k := "sql") (by decide) (by decide)
  apply ofView_of_builtFrom
  exact {
    url := by rw [hurl.text, h.url]
    url_ne_empty := h.url_ne_empty
    segments := h.segments
    method := by rw [hmethod.text, h.method]
    sql_ne_empty := by rw [hsql.text, h.sql_ne_empty]
    template := by rw [hsql.text, h.template]
    layout := h.layout
    answerKind := by rw [(hsame (by decide) (by decide)).text, h.answerKind]
    statementKind := by rw [(hsame (by decide) (by decide)).text, h.statementKind]
    jsonStyle := by rw [(hsame (by decide) (by decide)).text, h.jsonStyle]
    csvStyle := by rw [(hsame (by decide) (by decide)).text, h.csvStyle]
    rules := by
      rw [readRules, readItems_congr (hsame (by decide) (by decide)), ← readRules, h.rules]
    defaults := hdefaults
    jsonListed := by
      rw [readNames, readItems_congr (hsame (by decide) (by decide)), ← readNames, h.jsonListed]
    csvListed := by
      rw [readNames, readItems_congr (hsame (by decide) (by decide)), ← readNames, h.csvListed] }

/-! ## The same values -/

/-- A request with another query. -/
def withQuery (request : Request) (query : String) : Request :=
  { request with target := { request.target with query := some query } }

/-- Whether a request has no values of its own. -/
structure IsBare (request : Request) : Prop where
  query : request.target.query = none
  body : Context.isBlankBody request.body = true

/-- The values of a request are merged from the fields of its body. -/
theorem context_of_bodyFields {request : Request} {body : Fields}
    (h : Context.bodyFields request.body = .ok body) (e : Endpoint) :
    e.context request = .ok ⟨⟨.map (Context.merge e.defaults body request.target.query)⟩,
      request.headers, request.target.path⟩ := by
  rw [context, h]
  rfl

/-- **Ways to supply values.** For an endpoint without defaults, a map of texts gives the same
values as the query of a request, as its body, as a text of defaults and as a table of
defaults. -/
theorem supplied_alike (hbuilt : ofView layout ⟨.map fields⟩ = .ok e)
    (hnone : fields.get? "param_defaults" = none) {pairs : List (String × String)}
    (hpairs : (pairs.map Prod.fst).Nodup) {query defaults json : String}
    (hquery : FormUrl.EncodesMap pairs query) (hdefaults : FormUrl.EncodesMap pairs defaults)
    (hjson : Json.DenotesMap pairs json) :
    ∃ byText byTable, ofView layout (entryWith fields (.text defaults)) = .ok byText ∧
      ofView layout (entryWith fields (.ofTexts pairs)) = .ok byTable ∧
      ∀ request, IsBare request → ∃ c, c.values.tree = .ofTexts pairs ∧
        e.context (withQuery request query) = .ok c ∧
        e.context { request with body := Utf8.ofString json } = .ok c ∧
        byText.context request = .ok c ∧ byTable.context request = .ok c := by
  have hnodefaults : e.defaults = [] := by
    have hread : readDefaults ⟨.map fields⟩ = .ok [] := readDefaults_of_none hnone
    exact Except.ok.inj ((builtFrom_of_ofView hbuilt).defaults.symm.trans hread)
  obtain ⟨asked, hasked, hparse⟩ := Context.exists_parse_of_encodesMap hpairs hquery
  obtain ⟨listed, hlisted, hparse'⟩ := Context.exists_parse_of_encodesMap hpairs hdefaults
  let table := Fields.ofList (Context.textFields pairs)
  have htext : readDefaults (entryWith fields (.text defaults)) = .ok listed := by
    have hfield : (entryWith fields (.text defaults)).tree.field? "param_defaults" =
        some (.text defaults) := Fields.get?_insert_self
    rw [readDefaults_of_text hfield, hparse']
  have htable : readDefaults (entryWith fields (.ofTexts pairs)) =
      .ok (table.map fun (k, t) => (k, t.toText)) := by
    have hfield : (entryWith fields (.ofTexts pairs)).tree.field? "param_defaults" =
        some (.map table) := Fields.get?_insert_self
    exact readDefaults_of_map hfield
  refine ⟨_, _, ofView_entryWith hbuilt htext, ofView_entryWith hbuilt htable,
    fun request hbare => ⟨⟨⟨.ofTexts pairs⟩, request.headers, request.target.path⟩, rfl, ?_, ?_⟩⟩
  · have hblank : Context.bodyFields (withQuery request query).body = .ok [] := if_pos hbare.body
    rw [context_of_bodyFields hblank, hnodefaults, withQuery, Context.merge_query, hparse,
      Context.ofList_textFields_congr hpairs hasked]
    rfl
  · have hblank : Context.bodyFields request.body = .ok [] := if_pos hbare.body
    have hbody := Context.bodyFields_of_denotesMap hpairs hjson
    refine ⟨?_, ?_, ?_⟩
    · rw [context_of_bodyFields hbody, hnodefaults, hbare.query,
        Context.merge_body (Fields.ascending_ofList _)]
      rfl
    · rw [context_of_bodyFields hblank, hbare.query, Context.merge_defaults,
        Context.ofList_textFields_congr hpairs hlisted]
      rfl
    · rw [context_of_bodyFields hblank, hbare.query, Context.merge_defaults,
        Context.ofList_textFields_congr hpairs (Context.perm_texts hpairs)]
      rfl

/-- Marks of the formats, blanks, characters beyond ASCII and empty texts, in keys and in
values. -/
theorem supplied_alike_marks :
    let fields : Fields := [("sql", .text "select 1"), ("url", .text "/users")]
    let pairs : List (String × String) :=
      [("", "+"), ("a&b", "c=d e%"), ("é\"\n", ""), ("名", "\\/")]
    ∃ e byText byTable c, ofView .verbatim ⟨.map fields⟩ = .ok e ∧
      fields.get? "param_defaults" = none ∧ (pairs.map Prod.fst).Nodup ∧
      FormUrl.EncodesMap pairs (FormUrl.text pairs) ∧
      Json.DenotesMap pairs (Json.renderString (.ofTexts pairs)) ∧
      ofView .verbatim (entryWith fields (.text (FormUrl.text pairs))) = .ok byText ∧
      ofView .verbatim (entryWith fields (.ofTexts pairs)) = .ok byTable ∧
      e.context { target := ⟨"/users", some (FormUrl.text pairs)⟩ } = .ok c ∧
      byText.context { target := ⟨"/users", none⟩ } = .ok c ∧
      byTable.context { target := ⟨"/users", none⟩ } = .ok c ∧ c.param "a&b" = "c=d e%" := by
  intro fields pairs
  obtain ⟨e, hbuilt⟩ : ∃ e, ofView .verbatim ⟨.map fields⟩ = .ok e :=
    exists_of_isSome_toOption (by decide +kernel)
  have hnone : fields.get? "param_defaults" = none := by rfl
  have hpairs : (pairs.map Prod.fst).Nodup := by decide
  have hencodes := FormUrl.encodesMap_text pairs
  have hjson := Json.denotesMap_renderString hpairs
  obtain ⟨byText, byTable, htext, htable, halike⟩ :=
    supplied_alike hbuilt hnone hpairs hencodes hencodes hjson
  obtain ⟨c, hc, hasked, -, hbyText, hbyTable⟩ :=
    halike { target := ⟨"/users", none⟩ } ⟨rfl, rfl⟩
  refine ⟨e, byText, byTable, c, hbuilt, hnone, hpairs, hencodes, hjson, htext, htable, hasked,
    hbyText, hbyTable, ?_⟩
  rw [Context.param, View.text_of_isPlain _ (by decide), hc]
  rfl

end Endpoint

end QueryGateway
