import QueryGateway.Endpoint.Basic
import QueryGateway.Proofs.Calculation
import QueryGateway.Proofs.Text.Splitting

/-!
# Built endpoints

An endpoint that is built from an entry of the configuration has what the entry says, part
by part. In particular the segments of its address are well formed: a literal has none of
the characters with a meaning in route paths, and a capture has a name.
-/

namespace QueryGateway

namespace Endpoint

/-- What an endpoint has from the entry that it is built from. -/
structure BuiltFrom (layout : Statement.Layout) (v : View) (e : Endpoint) : Prop where
  url : e.url = v.text "url" ""
  url_ne_empty : e.url.isEmpty = false
  segments : readUrl e.url = .ok e.segments
  method : readMethod (v.text "method" "GET") = .ok e.method
  sql_ne_empty : (v.text "sql" "").isEmpty = false
  template : Template.compile (e.method.name ++ e.url) (v.text "sql" "") = .ok e.template
  layout : e.layout = layout
  answerKind : AnswerKind.parse (v.text "output_type" "list") = .ok e.answerKind
  statementKind : StatementKind.parse (v.text "sql_type" "query") = .ok e.statementKind
  jsonStyle : NameStyle.parse (v.text "output_converter" "lowercamel") = .ok e.jsonNames.style
  csvStyle : NameStyle.parse (v.text "output_converter_csv" "screamingsnake") =
    .ok e.csvNames.style
  rules : readRules v = .ok e.rules
  defaults : readDefaults v = .ok e.defaults
  jsonListed : readNames v "output_map" = .ok e.jsonNames.listed
  csvListed : readNames v "output_map_csv" = .ok e.csvNames.listed

/-- An endpoint has what the entry says that it is built from. -/
theorem builtFrom_of_ofView {layout : Statement.Layout} {v : View} {e : Endpoint}
    (h : ofView layout v = .ok e) : BuiltFrom layout v e := by
  dsimp only [ofView] at h
  split at h
  · cases h
  · next hurl =>
    obtain ⟨segments, hsegments, h⟩ := exists_of_bind_eq_ok h
    obtain ⟨method, hmethod, h⟩ := exists_of_bind_eq_ok h
    split at h
    · cases h
    · next hsql =>
      obtain ⟨template, htemplate, h⟩ := exists_of_bind_eq_ok h
      obtain ⟨answerKind, hanswerKind, h⟩ := exists_of_bind_eq_ok h
      obtain ⟨statementKind, hstatementKind, h⟩ := exists_of_bind_eq_ok h
      obtain ⟨jsonStyle, hjsonStyle, h⟩ := exists_of_bind_eq_ok h
      obtain ⟨csvStyle, hcsvStyle, h⟩ := exists_of_bind_eq_ok h
      obtain ⟨rules, hrules, h⟩ := exists_of_bind_eq_ok h
      obtain ⟨defaults, hdefaults, h⟩ := exists_of_bind_eq_ok h
      obtain ⟨jsonListed, hjsonListed, h⟩ := exists_of_bind_eq_ok h
      obtain ⟨csvListed, hcsvListed, h⟩ := exists_of_bind_eq_ok h
      obtain rfl := Except.ok.inj h
      exact ⟨rfl, Bool.eq_false_iff.mpr hurl, hsegments, hmethod, Bool.eq_false_iff.mpr hsql,
        eq_ok_of_mapError htemplate, rfl, hanswerKind, hstatementKind, hjsonStyle, hcsvStyle,
        hrules, hdefaults, hjsonListed, hcsvListed⟩

/-- An endpoint is built from an entry that says all that it has. -/
theorem ofView_of_builtFrom {layout : Statement.Layout} {v : View} {e : Endpoint}
    (h : BuiltFrom layout v e) : ofView layout v = .ok e := by
  have hurl := h.url_ne_empty
  have hsegments := h.segments
  have htemplate := h.template
  rw [h.url] at hurl hsegments htemplate
  dsimp only [ofView]
  rw [if_neg (by simp [hurl])]
  simp only [bind, Except.bind, hsegments, h.method, h.sql_ne_empty, htemplate, Except.mapError,
    h.answerKind, h.statementKind, h.jsonStyle, h.csvStyle, h.rules, h.defaults, h.jsonListed,
    h.csvListed, Bool.false_eq_true, if_false, pure, Except.pure]
  rw [← h.url, ← h.layout]

/-- Each endpoint of a configuration is built from a sub-view. -/
theorem exists_entry_of_loadAll {layout : Statement.Layout} {v : View}
    {endpoints : List Endpoint} (h : loadAll layout v = .ok endpoints) {e : Endpoint}
    (he : e ∈ endpoints) :
    ∃ expr entry, v.get expr = .ok entry ∧ ofView layout entry = .ok e := by
  obtain ⟨items, hitems, h⟩ := exists_of_bind_eq_ok h
  obtain ⟨cursor, hcursor, rfl⟩ := exists_of_map_eq_ok (eq_ok_of_mapError hitems)
  obtain ⟨size, -, rfl⟩ := exists_of_map_eq_ok hcursor
  obtain ⟨item, hitem, hbuilt⟩ := (exists_of_mem_mapM h).2 e he
  obtain ⟨i, -, rfl⟩ := List.mem_map.mp hitem
  obtain ⟨entry, hentry, hbuilt⟩ := exists_of_bind_eq_ok hbuilt
  exact ⟨_, entry, eq_ok_of_mapError hentry, hbuilt⟩

/-- The endpoints that can be built. -/
def IsBuilt (e : Endpoint) : Prop :=
  ∃ layout v, ofView layout v = .ok e

end Endpoint

/-! ## The segments of addresses -/

/-- A segment that an address can have. -/
def Segment.WellFormed : Segment → Prop
  | .literal text => '/' ∉ text ∧ ∀ c ∈ text, isMark c = false
  | .capture name => name ≠ [] ∧ ∀ c ∈ name, isNameChar c = true

/-- A part of an address that has no slash gives a well-formed segment. -/
theorem Segment.wellFormed_of_parse {part : List Char} {s : Segment} (hpart : '/' ∉ part)
    (h : Segment.parse part = .ok s) : s.WellFormed := by
  rw [Segment.parse] at h
  split at h
  · split at h
    · next hname =>
      obtain rfl := Except.ok.inj h
      rw [Bool.and_eq_true, List.all_eq_true] at hname
      exact ⟨by simpa using hname.1, hname.2⟩
    · cases h
  · split at h
    · cases h
    · next hmarks =>
      obtain rfl := Except.ok.inj h
      refine ⟨hpart, fun c hc => Bool.eq_false_iff.mpr fun hmark => hmarks ?_⟩
      exact List.any_eq_true.mpr ⟨c, hc, hmark⟩

/-- An address has at least one segment, and all of them are well formed. -/
theorem Url.wellFormed_of_parse {url : List Char} {segments : List Segment}
    (h : Url.parse url = .ok segments) : segments ≠ [] ∧ ∀ s ∈ segments, s.WellFormed := by
  unfold Url.parse at h
  split at h
  · next rest =>
    obtain ⟨hlength, hmem⟩ := exists_of_mem_mapM h
    constructor
    · intro hnil
      rw [hnil, List.length_nil, eq_comm, List.length_eq_zero_iff] at hlength
      exact Text.pieces_ne_nil _ rest hlength
    · intro s hs
      obtain ⟨part, hpart, hparse⟩ := hmem s hs
      exact Segment.wellFormed_of_parse (Text.notMem_of_mem_splitAt hpart) hparse
  · cases h

/-- The address of a built endpoint. -/
theorem Endpoint.IsBuilt.wellFormed {e : Endpoint} (he : e.IsBuilt) :
    e.segments ≠ [] ∧ ∀ s ∈ e.segments, s.WellFormed := by
  obtain ⟨layout, v, hbuilt⟩ := he
  have hsegments := (builtFrom_of_ofView hbuilt).segments
  exact Url.wellFormed_of_parse (eq_ok_of_mapError hsegments)

end QueryGateway
