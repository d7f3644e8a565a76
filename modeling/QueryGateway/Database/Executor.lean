import QueryGateway.Answer.Encoder
import QueryGateway.Database.Script

/-!
# Running statements

The executor runs the statement of an encoder and feeds the encoder with the
result. A query is prepared first, so that an empty result has its columns, and
the rows reach the encoder in buffers that the next row uses again. Whatever
fails, the encoder is asked once for the response.
-/

namespace QueryGateway

/-- How far a statement came: what the database received, whether all went well,
and the state of the encoder. -/
structure Run (σ : Type) where
  sent : List Sent
  outcome : Except RequestFailure Unit
  state : σ

/-- An answered statement: the response, what the database received, and the last
state of the encoder. -/
structure Reply (σ : Type) where
  response : Response
  sent : List Sent
  state : σ

/-- A buffer with the bytes of a cell; null and empty cells leave it empty. -/
def fillBuffer (buffer : Bytes) (cell : Option Bytes) : Bytes :=
  buffer.take 0 ++ cell.getD []

/-- The buffers of a row in place of those of the row before it: as many as the
row has cells, each with the bytes of its cell. -/
def fillBuffers : List Bytes → List (Option Bytes) → List Bytes
  | _, [] => []
  | [], cell :: cells => fillBuffer [] cell :: fillBuffers [] cells
  | buffer :: buffers, cell :: cells => fillBuffer buffer cell :: fillBuffers buffers cells

namespace Encoder

variable {σ : Type}

/-- Feeds rows to an encoder until one of the two sides fails. -/
def feed (enc : Encoder σ) (buffers : List Bytes) (s : σ) :
    List Delivery → Except RequestFailure Unit × σ
  | [] => (.ok (), s)
  | .error e :: _ => (.error (.database e), s)
  | .ok cells :: rest =>
    let buffers := fillBuffers buffers cells
    match enc.row buffers s with
    | (.ok (), s) => enc.feed buffers s rest
    | (.error e, s) => (.error e, s)

/-- Prepares a statement, tells the encoder its columns, runs it and feeds the rows. -/
def stream (enc : Encoder σ) (s : σ) (db : Database) : Run σ :=
  match enc.statement s with
  | .error e => ⟨[], .error e, enc.asked s⟩
  | .ok sql =>
    match db.connect with
    | .error e => ⟨[], .error (.database e), enc.asked s⟩
    | .ok script =>
      match script.describe with
      | .error e => ⟨[.prepare sql], .error (.database e), enc.asked s⟩
      | .ok columns =>
        match enc.columns columns (enc.asked s) with
        | (.error e, s) => ⟨[.prepare sql], .error e, s⟩
        | (.ok (), s) =>
          let (outcome, s) := enc.feed (columns.map fun _ => []) s script.deliveries
          ⟨[.prepare sql, .run sql], outcome, s⟩

/-- Runs a statement and tells the encoder how many rows it affected. -/
def execute (enc : Encoder σ) (s : σ) (db : Database) : Run σ :=
  match enc.statement s with
  | .error e => ⟨[], .error e, enc.asked s⟩
  | .ok sql =>
    match db.connect with
    | .error e => ⟨[], .error (.database e), enc.asked s⟩
    | .ok script =>
      match script.affected with
      | .error e => ⟨[.run sql], .error (.database e), enc.asked s⟩
      | .ok rows => ⟨[.run sql], .ok (), enc.affected 0 rows (enc.asked s)⟩

/-- The answer to a run. -/
def respond (enc : Encoder σ) (run : Run σ) : Reply σ :=
  let (response, s) :=
    match run.outcome with
    | .ok () => enc.finish run.state
    | .error e => enc.fail e run.state
  ⟨response, run.sent, s⟩

/-- Answers a query. -/
def query (enc : Encoder σ) (s : σ) (db : Database) : Reply σ :=
  enc.respond (enc.stream s db)

/-- Answers a statement that changes the database. -/
def update (enc : Encoder σ) (s : σ) (db : Database) : Reply σ :=
  enc.respond (enc.execute s db)

end Encoder

end QueryGateway
