import QueryGateway.Proofs.Answer.Heads
import QueryGateway.Proofs.Answer.Records
import QueryGateway.Proofs.Database.Losses
import QueryGateway.Proofs.Endpoint.Supplying
import QueryGateway.Proofs.Endpoint.Traversal
import QueryGateway.Proofs.Naming.Listed

/-!
# Names of columns in answers

An entry of the configuration names columns twice, for JSON and for CSV. Each of the two ways has
a list of names and a style for the columns that are not listed. The names go through the lists
of the endpoint to the encoders, and each encoder uses those of its form: the members of a JSON
object and the header of a download have the names of the entry, and neither form depends on the
settings of the other.
-/

namespace QueryGateway

/-- Where an entry names the columns for a form of answers: the keys of the list and of the style,
and the style without one. -/
structure NameKeys where
  list : String
  style : String
  defaultStyle : String

namespace NameKeys

/-- Where columns are named for JSON. -/
def json : NameKeys := ⟨"output_map", "output_converter", "lowercamel"⟩

/-- Where columns are named for CSV. -/
def csv : NameKeys := ⟨"output_map_csv", "output_converter_csv", "screamingsnake"⟩

/-- The names of columns by the settings of an entry. -/
def Names (keys : NameKeys) (v : View) (column name : String) : Prop :=
  ∃ style, NameStyle.parse (v.text keys.style keys.defaultStyle) = .ok style ∧
    Naming.NamedBy (v.entriesAt keys.list) style column name

/-- Whether two entries differ in the settings of one form only. -/
def SameBut (keys : NameKeys) (v w : View) : Prop :=
  ∀ k, k ≠ keys.list → k ≠ keys.style → v.tree.field? k = w.tree.field? k

/-- Whether a naming is read from the settings of an entry. -/
structure Reads (keys : NameKeys) (v : View) (naming : Naming) : Prop where
  listed : Endpoint.readNames v keys.list = .ok naming.listed
  style : NameStyle.parse (v.text keys.style keys.defaultStyle) = .ok naming.style

variable {keys : NameKeys} {v w : View} {naming naming' : Naming}

/-- A naming that is read from an entry names columns by its settings. -/
theorem Reads.nameOf_eq_iff (h : keys.Reads v naming) (hkey : Path.IsPlain keys.list)
    (hlimit : (v.itemsAt keys.list).length ≤ Path.indexLimit) (column name : String) :
    naming.nameOf column = name ↔ keys.Names v column name := by
  have hpairs : naming = ⟨(v.entriesAt keys.list).filterMap Naming.givenName?, naming.style⟩ := by
    rw [← Endpoint.listed_of_readNames hkey hlimit h.listed]
  rw [hpairs, Naming.nameOf_pairs_eq_iff]
  constructor
  · intro hnamed
    exact ⟨naming.style, h.style, hnamed⟩
  · rintro ⟨style, hparse, hnamed⟩
    rwa [eq_of_eq_ok hparse h.style] at hnamed

/-- The same naming is read where the settings are read alike. -/
theorem Reads.eq_of_sameAt (h : keys.Reads v naming) (h' : keys.Reads w naming')
    (hlist : View.SameAt v w keys.list) (hstyle : View.SameAt v w keys.style) :
    naming' = naming := by
  have hlisted : naming'.listed = naming.listed := by
    apply eq_of_eq_ok h'.listed
    rw [← h.listed, Endpoint.readNames, Endpoint.readNames, Endpoint.readItems_congr hlist]
  have hparsed : naming'.style = naming.style := by
    apply eq_of_eq_ok h'.style
    rw [← h.style, hstyle.text]
  cases naming
  cases naming'
  rw [Naming.mk.injEq]
  exact ⟨hlisted, hparsed⟩

end NameKeys

/-! ## Bodies of successful answers -/

namespace OutputColumn

/-- Whether a column is written under one of its names, and as its type demands. -/
structure NamedAs (names : String → String → Prop) (c : Column) (out : OutputColumn) : Prop where
  name : names c.name out.name
  kind : out.kind = .ofType c.typeName

/-- The columns under the names of a naming. -/
theorem forall₂_namedAs {names : String → String → Prop} {naming : Naming}
    (hnames : ∀ column name, naming.nameOf column = name ↔ names column name)
    (columns : List Column) :
    List.Forall₂ (NamedAs names) columns (columns.map (ofColumn naming)) := by
  rw [List.forall₂_map_right_iff, List.forall₂_same]
  exact fun c _ => ⟨(hnames c.name _).mp rfl, rfl⟩

end OutputColumn

namespace Encoder

variable {source : Source} {db : Database}

/-- A successful answer to a query encodes the described columns and the delivered rows. -/
theorem encodeResult_of_status {σ : Type} (enc : Encoder σ) {s : σ}
    (hfail : ∀ e t, (enc.fail e t).1 = failure e)
    (hstatus : (enc.query s db).response.status = 200) :
    enc.encodeResult db.describedColumns db.bufferedRows (enc.asked s) =
      .ok (enc.query s db).response := by
  cases houtcome : (enc.stream s db).outcome with
  | error e =>
    rw [query_of_error _ houtcome, hfail] at hstatus
    cases hstatus
  | ok _ => exact encodeResult_of_stream enc houtcome

/-- A successful answer with a single object is that of the first row. -/
theorem single_query {s : JsonState}
    (hstatus : ((single source).query s db).response.status = 200) :
    ∃ row rows, db.bufferedRows = row :: rows ∧
      ((single source).query s db).response.body = OutputColumn.encodeRow
        (db.describedColumns.map (OutputColumn.ofColumn source.jsonNames)) row := by
  have hquery := encodeResult_of_status (single source) (fun _ _ => rfl) hstatus
  cases hrows : db.bufferedRows with
  | nil =>
    rw [hrows] at hquery
    rw [← Except.ok.inj hquery] at hstatus
    cases hstatus
  | cons row rows =>
    rw [hrows, single_encodeResult] at hquery
    refine ⟨row, rows, rfl, ?_⟩
    rw [← Except.ok.inj hquery]
    rfl

/-- A successful download has the header and the rows. -/
theorem csv_query {s : Option Csv.Writer} (hcolumns : db.describedColumns ≠ [])
    (hstatus : ((csv source).query s db).response.status = 200) :
    Csv.read? ((csv source).query s db).response.body =
      some (csvHeader source db.describedColumns :: db.bufferedRows) := by
  have hwidth := csv_query_width source s db hstatus
  have hquery := encodeResult_of_status (csv source) (fun _ _ => rfl) hstatus
  rw [csv_encodeResult source hwidth] at hquery
  rw [← Except.ok.inj hquery]
  apply Csv.read?_finishLines
  rw [List.forall_mem_cons]
  have hlength : 0 < db.describedColumns.length := List.length_pos_of_ne_nil hcolumns
  refine ⟨by simpa [csvHeader] using hcolumns, fun row hrow => ?_⟩
  exact List.ne_nil_of_length_pos (by rw [hwidth row hrow]; exact hlength)

end Encoder

namespace Endpoint

variable {layout : Statement.Layout} {v w : View} {e e' : Endpoint} {db : Database}
  {request : Request} {c : Context}

/-- A request whose parameters are refused is answered with the refusal. -/
theorem handle_of_refused (hcontext : e.context request = .ok c) {failure : ParameterFailure}
    (hrefused : e.refusal? c = some failure) :
    e.handle db request = (.ofFailure (.parameter failure), []) := by
  have hvalidate : e.validate c = .error failure := by rw [validate_eq, hrefused]
  rw [handle, hcontext]
  simp only [hvalidate]

/-- A successful answer to a query is that of the chosen encoder. -/
theorem handle_of_status (hcontext : e.context request = .ok c) {kind : Encoder.Kind}
    (hkind : e.encoderKind c = kind) (hne : kind ≠ .exec)
    (hstatus : (e.handle db request).1.status = 200) :
    e.handle db request = kind.query (e.source c) db := by
  cases hrefusal : e.refusal? c with
  | some failure =>
    rw [handle_of_refused hcontext hrefusal] at hstatus
    cases hstatus
  | none =>
    rw [handle_of_accepted hcontext hrefusal, hkind]
    cases hquery : e.statementKind with
    | query => rfl
    | update => exact absurd (hkind.symm.trans (encoderKind_of_update hquery c)) hne

/-! ## Settings of the other form -/

/-- The names of an endpoint for JSON are read from its entry. -/
theorem BuiltFrom.reads_json (h : BuiltFrom layout v e) : NameKeys.json.Reads v e.jsonNames :=
  ⟨h.jsonListed, h.jsonStyle⟩

/-- The names of an endpoint for CSV are read from its entry. -/
theorem BuiltFrom.reads_csv (h : BuiltFrom layout v e) : NameKeys.csv.Reads v e.csvNames :=
  ⟨h.csvListed, h.csvStyle⟩

/-- An entry that an endpoint is built from is not empty. -/
theorem tree_ne_null_of_ofView (hbuilt : ofView layout v = .ok e) : v.tree ≠ .null := by
  intro hnull
  have hempty := ofView_of_isEmpty layout (t := v.tree) (by rw [hnull]; rfl)
  rw [hbuilt] at hempty
  cases hempty

section

variable (hbuilt : ofView layout v = .ok e) (hbuilt' : ofView layout w = .ok e')

include hbuilt hbuilt'

/-- Entries that endpoints are built from are read alike where they have the same field. -/
theorem sameAt_of_ofView {k : String} (hk : Path.IsPlain k)
    (hfield : v.tree.field? k = w.tree.field? k) : View.SameAt v w k :=
  View.sameAt_of_field? (tree_ne_null_of_ofView hbuilt) (tree_ne_null_of_ofView hbuilt') hk hfield

/-- Endpoints from entries that differ at most in the names of columns differ at most in these. -/
theorem eq_of_fields (hsame : ∀ k ∈ ["url", "method", "sql", "output_type", "sql_type", "params",
      "param_defaults"], v.tree.field? k = w.tree.field? k) :
    e' = { e with jsonNames := e'.jsonNames, csvNames := e'.csvNames } := by
  have h := builtFrom_of_ofView hbuilt
  have h' := builtFrom_of_ofView hbuilt'
  have hat {k : String} (hk : Path.IsPlain k) (hmem : k ∈ ["url", "method", "sql", "output_type",
      "sql_type", "params", "param_defaults"]) : View.SameAt v w k :=
    sameAt_of_ofView hbuilt hbuilt' hk (hsame k hmem)
  have hurl : e'.url = e.url := by
    rw [h.url, h'.url, (hat (by decide) (by decide)).text]
  have hsegments : e'.segments = e.segments := by
    apply eq_of_eq_ok h'.segments
    rw [hurl, h.segments]
  have hmethod : e'.method = e.method := by
    apply eq_of_eq_ok h'.method
    rw [← (hat (by decide) (by decide)).text, h.method]
  have htemplate : e'.template = e.template := by
    apply eq_of_eq_ok h'.template
    rw [hurl, hmethod, ← (hat (by decide) (by decide)).text, h.template]
  have hanswerKind : e'.answerKind = e.answerKind := by
    apply eq_of_eq_ok h'.answerKind
    rw [← (hat (by decide) (by decide)).text, h.answerKind]
  have hstatementKind : e'.statementKind = e.statementKind := by
    apply eq_of_eq_ok h'.statementKind
    rw [← (hat (by decide) (by decide)).text, h.statementKind]
  have hrules : e'.rules = e.rules := by
    apply eq_of_eq_ok h'.rules
    rw [readRules, ← readItems_congr (hat (by decide) (by decide)), ← readRules, h.rules]
  have hdefaults : e'.defaults = e.defaults := by
    apply eq_of_eq_ok h'.defaults
    rw [readDefaults, get_defaults, ← hsame "param_defaults" (by decide), ← get_defaults,
      ← readDefaults, h.defaults]
  rw [← hurl, ← hsegments, ← hmethod, ← htemplate, h.layout, ← h'.layout, ← hanswerKind,
    ← hstatementKind, ← hrules, ← hdefaults]

section

variable {keys : NameKeys} (hkeys : keys ∈ [NameKeys.json, NameKeys.csv])
  (hsame : keys.SameBut v w)

include hsame

/-- Entries that differ in the settings of one form are read alike elsewhere. -/
theorem sameAt_of_sameBut {k : String} (hk : Path.IsPlain k) (hlist : k ≠ keys.list)
    (hstyle : k ≠ keys.style) : View.SameAt v w k :=
  sameAt_of_ofView hbuilt hbuilt' hk (hsame k hlist hstyle)

include hkeys

/-- Endpoints from entries that differ in the settings of one form differ at most in the names of
columns. -/
theorem eq_of_sameBut : e' = { e with jsonNames := e'.jsonNames, csvNames := e'.csvNames } := by
  refine eq_of_fields hbuilt hbuilt' fun k hk => hsame k ?_ ?_
  all_goals
    rintro rfl
    rcases List.mem_pair.mp hkeys with rfl | rfl <;> revert hk <;> decide

end

/-- Endpoints from entries that differ in the settings for JSON differ in the names for JSON. -/
theorem eq_of_sameBut_json (hsame : NameKeys.json.SameBut v w) :
    e' = { e with jsonNames := e'.jsonNames } := by
  have hcsv : e'.csvNames = e.csvNames :=
    (builtFrom_of_ofView hbuilt).reads_csv.eq_of_sameAt (builtFrom_of_ofView hbuilt').reads_csv
      (sameAt_of_sameBut hbuilt hbuilt' hsame (by decide) (by decide) (by decide))
      (sameAt_of_sameBut hbuilt hbuilt' hsame (by decide) (by decide) (by decide))
  have heq := eq_of_sameBut hbuilt hbuilt' (by simp) hsame
  rwa [hcsv] at heq

/-- Endpoints from entries that differ in the settings for CSV differ in the names for CSV. -/
theorem eq_of_sameBut_csv (hsame : NameKeys.csv.SameBut v w) :
    e' = { e with csvNames := e'.csvNames } := by
  have hjson : e'.jsonNames = e.jsonNames :=
    (builtFrom_of_ofView hbuilt).reads_json.eq_of_sameAt (builtFrom_of_ofView hbuilt').reads_json
      (sameAt_of_sameBut hbuilt hbuilt' hsame (by decide) (by decide) (by decide))
      (sameAt_of_sameBut hbuilt hbuilt' hsame (by decide) (by decide) (by decide))
  have heq := eq_of_sameBut hbuilt hbuilt' (by simp) hsame
  rwa [hjson] at heq

end

/-- Endpoints that have the same values, refusals and encoders give the same answer. -/
theorem handle_congr (hcontext : e'.context request = e.context request)
    (hrefusal : e'.refusal? = e.refusal?) (hstatement : e'.statementKind = e.statementKind)
    (huse : ∀ c, e.context request = .ok c →
      ∀ f : {σ : Type} → Encoder σ → σ → Response × List Sent,
        Encoder.use (e'.encoderKind c) (e'.source c) f =
          Encoder.use (e.encoderKind c) (e.source c) f) :
    e'.handle db request = e.handle db request := by
  cases hvalues : e.context request with
  | error failure => rw [handle, handle, hcontext, hvalues]
  | ok c =>
    have hvalues' : e'.context request = .ok c := by rw [hcontext, hvalues]
    cases hrefused : e.refusal? c with
    | some failure =>
      rw [handle_of_refused hvalues hrefused, handle_of_refused hvalues' (hrefusal ▸ hrefused)]
    | none =>
      rw [handle_of_accepted hvalues hrefused, handle_of_accepted hvalues' (hrefusal ▸ hrefused),
        hstatement]
      cases e.statementKind with
      | query => exact huse c hvalues _
      | update => exact huse c hvalues _

/-- Answers in CSV do not depend on the names for JSON. -/
theorem handle_with_jsonNames (names : Naming)
    (hcsv : ∀ c, e.context request = .ok c → e.encoderKind c = .csv) :
    ({ e with jsonNames := names } : Endpoint).handle db request = e.handle db request := by
  refine handle_congr rfl rfl rfl fun c hcontext f => ?_
  have hkind : ({ e with jsonNames := names } : Endpoint).encoderKind c = .csv := hcsv c hcontext
  rw [hkind, hcsv c hcontext]
  rfl

/-- Other answers do not depend on the names for CSV. -/
theorem handle_with_csvNames (names : Naming)
    (hcsv : ∀ c, e.context request = .ok c → e.encoderKind c ≠ .csv) :
    ({ e with csvNames := names } : Endpoint).handle db request = e.handle db request := by
  refine handle_congr rfl rfl rfl fun c hcontext f => ?_
  have hkind : ({ e with csvNames := names } : Endpoint).encoderKind c = e.encoderKind c := rfl
  have hne := hcsv c hcontext
  rw [hkind]
  cases hchosen : e.encoderKind c with
  | csv => exact absurd hchosen hne
  | list => rfl
  | single => rfl
  | exec => rfl

/-! ## From the entry to the answers -/

/-- How the answers of an endpoint name the columns of a result by the entry that it is built
from. -/
structure NamesColumns (layout : Statement.Layout) (v : View) (e : Endpoint) : Prop where
  /-- The objects of a list have the names for JSON. -/
  list : ∀ db request c, e.context request = .ok c → e.encoderKind c = .list →
    (e.handle db request).1.status = 200 →
    ∃ columns, List.Forall₂ (OutputColumn.NamedAs (NameKeys.json.Names v))
        db.describedColumns columns ∧
      (e.handle db request).1.body = OutputColumn.encodeRows columns db.bufferedRows
  /-- So does a single object. -/
  single : ∀ db request c, e.context request = .ok c → e.encoderKind c = .single →
    (e.handle db request).1.status = 200 →
    ∃ columns row rows, List.Forall₂ (OutputColumn.NamedAs (NameKeys.json.Names v))
        db.describedColumns columns ∧ db.bufferedRows = row :: rows ∧
      (e.handle db request).1.body = OutputColumn.encodeRow columns row
  /-- The header of a download has the names for CSV. -/
  csv : ∀ db request c, e.context request = .ok c → e.encoderKind c = .csv →
    (e.handle db request).1.status = 200 → db.describedColumns ≠ [] →
    ∃ header, List.Forall₂ (fun column name => NameKeys.csv.Names v column.name name)
        db.describedColumns header ∧
      Csv.read? (e.handle db request).1.body =
        some (header.map Utf8.ofString :: db.bufferedRows)
  /-- A column has one name for JSON and one for CSV. -/
  unique : ∀ column name, (e.jsonNames.nameOf column = name ↔ NameKeys.json.Names v column name) ∧
    (e.csvNames.nameOf column = name ↔ NameKeys.csv.Names v column name)
  /-- With other settings for JSON the answers in CSV are the same. -/
  csv_alone : ∀ w e', ofView layout w = .ok e' → NameKeys.json.SameBut v w → ∀ db request,
    (∀ c, e.context request = .ok c → e.encoderKind c = .csv) →
    e'.handle db request = e.handle db request
  /-- With other settings for CSV all other answers are the same. -/
  json_alone : ∀ w e', ofView layout w = .ok e' → NameKeys.csv.SameBut v w → ∀ db request,
    (∀ c, e.context request = .ok c → e.encoderKind c ≠ .csv) →
    e'.handle db request = e.handle db request

/-- **Names of columns, end to end.** An entry with an item in one of its lists that has a text
but no colon is refused. Otherwise the columns of every result have the names of the entry in
every successful answer: those for JSON in lists and single objects and those for CSV in
downloads, each independently of the settings for the other. -/
theorem columns_named (layout : Statement.Layout) (v : View)
    (hjson : (v.itemsAt NameKeys.json.list).length ≤ Path.indexLimit)
    (hcsv : (v.itemsAt NameKeys.csv.list).length ≤ Path.indexLimit) :
    (∀ keys ∈ [NameKeys.json, NameKeys.csv], ∀ entry ∈ v.entriesAt keys.list, entry ≠ "" →
      ':' ∉ entry.toList → ∃ failure, ofView layout v = .error failure) ∧
    ∀ e, ofView layout v = .ok e → NamesColumns layout v e := by
  constructor
  · intro keys hkeys entry hentry hne hcolon
    cases hbuilt : ofView layout v with
    | error failure => exact ⟨failure, rfl⟩
    | ok e =>
      have h := builtFrom_of_ofView hbuilt
      rcases List.mem_pair.mp hkeys with rfl | rfl
      · exact absurd (mem_of_readNames (by decide) hjson h.jsonListed hentry hne) hcolon
      · exact absurd (mem_of_readNames (by decide) hcsv h.csvListed hentry hne) hcolon
  · intro e hbuilt
    have h := builtFrom_of_ofView hbuilt
    have hjsonNames := h.reads_json.nameOf_eq_iff (by decide) hjson
    have hcsvNames := h.reads_csv.nameOf_eq_iff (by decide) hcsv
    exact {
      list := fun db request c hcontext hkind hstatus => by
        have hhandle := handle_of_status hcontext hkind (by decide) hstatus
        rw [hhandle] at hstatus ⊢
        exact ⟨_, OutputColumn.forall₂_namedAs hjsonNames _,
          (Encoder.list_query (e.source c) {} db).resolve_left (not_not_intro hstatus)⟩
      single := fun db request c hcontext hkind hstatus => by
        have hhandle := handle_of_status hcontext hkind (by decide) hstatus
        rw [hhandle] at hstatus ⊢
        obtain ⟨row, rows, hrows, hbody⟩ := Encoder.single_query hstatus
        exact ⟨_, row, rows, OutputColumn.forall₂_namedAs hjsonNames _, hrows, hbody⟩
      csv := fun db request c hcontext hkind hstatus hcolumns => by
        have hhandle := handle_of_status hcontext hkind (by decide) hstatus
        rw [hhandle] at hstatus ⊢
        refine ⟨db.describedColumns.map fun column => e.csvNames.nameOf column.name, ?_, ?_⟩
        · rw [List.forall₂_map_right_iff, List.forall₂_same]
          exact fun column _ => (hcsvNames column.name _).mp rfl
        · rw [List.map_map]
          exact Encoder.csv_query hcolumns hstatus
      unique := fun column name => ⟨hjsonNames column name, hcsvNames column name⟩
      csv_alone := fun w e' hbuilt' hsame db request hkind => by
        rw [eq_of_sameBut_json hbuilt hbuilt' hsame]
        exact handle_with_jsonNames e'.jsonNames hkind
      json_alone := fun w e' hbuilt' hsame db request hkind => by
        rw [eq_of_sameBut_csv hbuilt hbuilt' hsame]
        exact handle_with_csvNames e'.csvNames hkind }

/-- Entries that repeat a column, hold several colons or blanks, or are no text, and a column
beside them; an entry without a colon; and another list for JSON. -/
theorem columns_named_colons :
    let entry (json : List Tree) : View := ⟨.map [("output_map", .list json),
      ("output_map_csv", .list [.text "id:No: "]), ("sql", .text "select 1"),
      ("url", .text "/users")]⟩
    let v := entry [.text "id:a", .text "", .map [("k", .int 1)], .text "id: b:c ", .text "id : d"]
    let request (query : String) : Request := { target := ⟨"/users", some query⟩ }
    let db : Database := .scripted {
      columns := [⟨"id", "INT4"⟩, ⟨"\x7b\"k\"", "TEXT"⟩, ⟨"full_name", "TEXT"⟩]
      results := [{ rows := [[some [0x31], some [0x78], some [0x79]]] }] }
    ∃ e e', ofView .verbatim v = .ok e ∧ ofView .verbatim (entry []) = .ok e' ∧
      (e.handle db (request "")).1.body =
        Utf8.ofString "[\x7b\"b:c\":1,\"1\x7d\":\"x\",\"fullName\":\"y\"\x7d]" ∧
      NameKeys.json.Names v "id" "b:c" ∧ NameKeys.csv.Names v "id" "No:" ∧
      e'.handle db (request "csv=true") = e.handle db (request "csv=true") ∧
      ∃ failure, ofView .verbatim (entry [.text "id"]) = .error failure := by
  intro entry v request db
  obtain ⟨e, hbuilt⟩ : ∃ e, ofView .verbatim v = .ok e :=
    exists_of_isSome_toOption (by decide +kernel)
  obtain ⟨e', hbuilt'⟩ : ∃ e, ofView .verbatim (entry []) = .ok e :=
    exists_of_isSome_toOption (by decide +kernel)
  obtain ⟨-, hnamed⟩ := columns_named .verbatim v (by decide +kernel) (by decide +kernel)
  obtain ⟨hrefused, -⟩ := columns_named .verbatim (entry [.text "id"]) (by decide +kernel)
    (by decide +kernel)
  have hanswers : (ofView .verbatim v).toOption.map (fun e =>
      ((e.handle db (request "")).1.body, e.jsonNames.nameOf "id", e.csvNames.nameOf "id",
        (e.context (request "csv=true")).toOption.map e.encoderKind)) =
      some (Utf8.ofString "[\x7b\"b:c\":1,\"1\x7d\":\"x\",\"fullName\":\"y\"\x7d]", "b:c", "No:",
        some .csv) := by
    decide +kernel
  rw [hbuilt] at hanswers
  obtain ⟨hbody, hjson, hcsv, hkind⟩ : _ ∧ _ ∧ _ ∧ _ := by
    simpa [Prod.mk.injEq] using hanswers
  refine ⟨e, e', hbuilt, hbuilt', hbody, ((hnamed e hbuilt).unique _ _).1.mp hjson,
    ((hnamed e hbuilt).unique _ _).2.mp hcsv, ?_, hrefused .json (by simp) "id" ?_ ?_ ?_⟩
  · refine (hnamed e hbuilt).csv_alone _ e' hbuilt' ?_ db _ fun c hcontext => ?_
    · intro k hlist _
      have hk : (k == "output_map") = false := beq_eq_false_iff_ne.mpr hlist
      simp [v, entry, Tree.field?, Fields.get?, List.lookup_cons, hk]
    · simpa [hcontext] using hkind
  · decide +kernel
  · decide
  · decide

end Endpoint

end QueryGateway
