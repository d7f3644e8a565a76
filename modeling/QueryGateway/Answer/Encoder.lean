import QueryGateway.Answer.Column
import QueryGateway.Answer.Csv
import QueryGateway.Answer.Response

/-!
# Encoders of answers

An encoder turns the result of a statement into a response. It gives the
statement to run, is told the columns and then the rows, or how many rows were
affected, and is asked for the response at the end or for that of a failure.
-/

namespace QueryGateway

/-- An encoder with states in `σ`. Its state may keep a note of being asked for the
statement, which is what `asked` gives. -/
structure Encoder (σ : Type) where
  statement : σ → Except RequestFailure String
  asked : σ → σ := id
  columns : List Column → σ → Except RequestFailure Unit × σ
  row : List Bytes → σ → Except RequestFailure Unit × σ
  affected : Int → Nat → σ → σ
  fail : RequestFailure → σ → Response × σ
  finish : σ → Response × σ

namespace Encoder

/-- The answer to a failure after encoding has begun. -/
def failure (e : RequestFailure) : Response :=
  Response.envelope 500 e.message

/-- What an encoder knows of its request: the statement, the names of columns,
and the name of a download. -/
structure Source where
  statement : Except RequestFailure String
  jsonNames : Naming
  csvNames : Naming
  filename : String

/-- An encoder that ignores columns, rows and affected rows. -/
def base (σ : Type) (source : Source) (finish : σ → Response × σ) : Encoder σ where
  statement _ := source.statement
  columns _ s := (.ok (), s)
  row _ s := (.ok (), s)
  affected _ _ s := s
  fail e s := (failure e, s)
  finish

/-- The state of a JSON encoder: the columns, the rows seen and the text so far. -/
structure JsonState where
  columns : List OutputColumn := []
  rows : Nat := 0
  buffer : Bytes := []
  deriving DecidableEq, Repr

/-- Encodes all rows as a JSON list, or an empty result as not found. -/
def list (source : Source) : Encoder JsonState :=
  { base JsonState source fun s =>
      if s.rows = 0 then (.notFound, s)
      else (.json 200 (s.buffer ++ [0x5D]), { s with buffer := [] }) with
    columns := fun cs _ =>
      (.ok (),
        { columns := cs.map (OutputColumn.ofColumn source.jsonNames), buffer := [0x5B] })
    row := fun values s =>
      (.ok (),
        { s with
          rows := s.rows + 1
          buffer := s.buffer ++ (if s.rows = 0 then [] else [0x2C]) ++
            OutputColumn.encodeRow s.columns values }) }

/-- Encodes the first row as a JSON object, or an empty result as not found. -/
def single (source : Source) : Encoder JsonState :=
  { base JsonState source fun s =>
      if s.rows = 0 then (.notFound, s)
      else (.json 200 s.buffer, { s with buffer := [] }) with
    columns := fun cs _ =>
      (.ok (), { columns := cs.map (OutputColumn.ofColumn source.jsonNames) })
    row := fun values s =>
      (.ok (),
        if s.rows = 0 then
          { s with rows := 1, buffer := s.buffer ++ OutputColumn.encodeRow s.columns values }
        else s) }

/-- Encodes a header and all rows as a CSV download. The state is the writer, once
the columns are known. -/
def csv (source : Source) : Encoder (Option Csv.Writer) :=
  { base (Option Csv.Writer) source fun s =>
      (.csvDownload source.filename ((s.map Csv.Writer.contents).getD []), none) with
    columns := fun cs _ =>
      let header := cs.map fun c => Utf8.ofString (source.csvNames.nameOf c.name)
      let (outcome, w) := ({} : Csv.Writer).write header
      (outcome.mapError .encoding, some w)
    row := fun values s =>
      match s with
      | none => (.error (.render .rowBeforeColumns), none)
      | some w =>
        let (outcome, w) := w.write values
        (outcome.mapError .encoding, some w) }

/-- The summary of a statement: the last inserted identity, if it is positive, and
the number of affected rows. -/
def summary (lastId : Int) (affected : Nat) : Tree :=
  .map ((if 0 < lastId then [("lastInsertId", .int lastId)] else []) ++
    [("rowsAffected", .int affected)])

/-- Encodes how many rows a statement affected. -/
def exec (source : Source) : Encoder (Int × Nat) :=
  { base (Int × Nat) source fun s =>
      (.json 200 (Utf8.ofString (Json.renderString (summary s.1 s.2))), s) with
    affected := fun lastId rows _ => (lastId, rows) }

/-- The kinds of encoders. -/
inductive Kind where
  | list
  | single
  | csv
  | exec
  deriving DecidableEq, Repr

/-- Uses an encoder of a given kind from its initial state. -/
def use {α : Type} (kind : Kind) (source : Source) (f : {σ : Type} → Encoder σ → σ → α) : α :=
  match kind with
  | .list => f (list source) {}
  | .single => f (single source) {}
  | .csv => f (csv source) none
  | .exec => f (exec source) (0, 0)

end Encoder

end QueryGateway
