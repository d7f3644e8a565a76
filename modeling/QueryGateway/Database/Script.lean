import QueryGateway.Answer.Column
import QueryGateway.Answer.Failure

/-!
# Databases

What the server sees of a database: whether it can be reached, how it answers
when a statement is prepared, and the results that running a statement gives.
Whatever the statement, a scripted database answers in the same way.
-/

namespace QueryGateway

/-- One result of running a statement: rows, whose cells may be null, the number
of affected rows, and a failure after the rows if there is one. -/
structure ResultSet where
  rows : List (List (Option Bytes)) := []
  affected : Nat := 0
  error : Option String := none
  deriving DecidableEq, Repr

/-- The behaviour of a database that can be reached. -/
structure Script where
  connectError : Option String := none
  prepareError : Option String := none
  columns : List Column := []
  results : List ResultSet := []
  deriving DecidableEq, Repr

/-- A database as the server sees it. -/
inductive Database where
  | unreachable
  | scripted (script : Script)
  deriving DecidableEq, Repr

/-- What the database receives. -/
inductive Sent where
  | prepare (statement : String)
  | run (statement : String)
  deriving DecidableEq, Repr

/-- A row, or the failure that ends the rows. -/
abbrev Delivery := Except DatabaseFailure (List (Option Bytes))

namespace ResultSet

/-- The rows of a result and its failure. -/
def deliveries (r : ResultSet) : List Delivery :=
  r.rows.map .ok ++ (r.error.map fun text => .error (.reported text)).toList

end ResultSet

namespace Script

/-- What running a statement delivers. Whoever reads it stops at a failure. -/
def deliveries (s : Script) : List Delivery :=
  s.results.flatMap ResultSet.deliveries

/-- The number of rows that running a statement affects, unless it fails. -/
def affected (s : Script) : Except DatabaseFailure Nat :=
  match s.results.findSome? ResultSet.error with
  | some text => .error (.reported text)
  | none => .ok ((s.results.map ResultSet.affected).foldl (· + ·) 0)

/-- The columns of a prepared statement, unless it cannot be prepared. -/
def describe (s : Script) : Except DatabaseFailure (List Column) :=
  match s.prepareError with
  | some text => .error (.reported text)
  | none => .ok s.columns

end Script

namespace Database

/-- Opens a connection. -/
def connect : Database → Except DatabaseFailure Script
  | unreachable => .error .unreachable
  | scripted script =>
    match script.connectError with
    | some text => .error (.reported text)
    | none => .ok script

/-- The statement that probes the database. -/
def probe : String := "SELECT 1"

/-- Probes the database, with what it receives. -/
def ping (db : Database) : Except DatabaseFailure Unit × List Sent :=
  match db.connect with
  | .error e => (.error e, [])
  | .ok script => (script.describe.map fun _ => (), [.prepare probe])

end Database

end QueryGateway
