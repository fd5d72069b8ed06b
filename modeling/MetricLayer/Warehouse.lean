import MetricLayer.Warehouse.Change
import MetricLayer.Warehouse.ResultSet

/-!
# The warehouse

The database with the physical tables, known by what was sent to it.  A change is one transaction of
its own; a query runs on a read-only connection with a time limit.  `transactions` is the complete
history, which says what was committed; `trace` writes it down statement by statement.

What queries return, and the statement that fails next, are arranged beforehand.
-/

namespace MetricLayer

open Number

/-- The kinds of databases. -/
inductive Dialect where
  /-- A database that can make a transaction read-only and limit its time. -/
  | postgres
  /-- Any other database. -/
  | other
  deriving DecidableEq, Repr, Inhabited

/-- Something that was sent to the database. -/
inductive Sent where
  /-- A statement as it stands. -/
  | plain (sql : String)
  /-- A statement with the values of its parameters. -/
  | bound (sql : String) (params : Fields)

/-- A transaction of the past. -/
inductive Transaction where
  /-- A change that was committed. -/
  | committed (change : Change) (sql : String)
  /-- A change whose statement failed. -/
  | failed (change : Change) (sql : String)
  /-- A transaction without a statement. -/
  | abandoned
  /-- A read-only connection and what was sent on it. -/
  | reading (statements : List Sent)

/-- A transaction step by step. -/
def Transaction.trace : Transaction → List Sent
  | committed _ sql => [.plain "BEGIN", .plain sql, .plain "COMMIT"]
  | failed _ sql => [.plain "BEGIN", .plain sql, .plain "ROLLBACK"]
  | abandoned => [.plain "BEGIN", .plain "ROLLBACK"]
  | reading statements => .plain "CONNECT" :: statements ++ [.plain "CLOSE"]

/-- The database and its history. -/
structure Warehouse where
  /-- The kind of database. -/
  dialect : Dialect
  /-- The time limit of queries in milliseconds. -/
  timeoutMs : Int
  /-- All transactions, the latest first. -/
  transactions : List Transaction
  /-- The results of the queries to come, the next one first. -/
  results : List ResultSet
  /-- The number of statements until one fails, itself included; zero when none is to fail. -/
  faultIn : Nat

namespace Warehouse

/-- The time limit of queries unless another is set. -/
def defaultTimeoutMs : Int := 10000

/-- A database without a history. -/
def new (dialect : Dialect) (timeoutMs : Int) : Warehouse := ⟨dialect, timeoutMs, [], [], 0⟩

/-- Arranges the result of a query. -/
def enqueue (w : Warehouse) (r : ResultSet) : Warehouse := { w with results := w.results ++ [r] }

/-- Adds a transaction to the history. -/
def record (w : Warehouse) (t : Transaction) : Warehouse :=
  { w with transactions := t :: w.transactions }

/-- What was sent since the history had `start` transactions. -/
def traceSince (w : Warehouse) (start : Nat) : List Sent :=
  (w.transactions.take (w.transactions.length - start)).reverse.flatMap Transaction.trace

/-- Sends statements one after another: those that were sent, and whether the last of them
failed. -/
def send (w : Warehouse) (statements : List Sent) : List Sent × Bool × Warehouse :=
  if 0 < w.faultIn && w.faultIn ≤ statements.length then
    (statements.take w.faultIn, true, { w with faultIn := 0 })
  else (statements, false, { w with faultIn := w.faultIn - statements.length })

/-- Makes a change in a transaction of its own. -/
def apply (w : Warehouse) (c : Change) : Outcome Unit × Warehouse :=
  match c.render with
  | .error failure => (.error failure, if c.opensFirst then w.record .abandoned else w)
  | .ok sql =>
    let (_, fails, w) := w.send [.plain sql]
    if fails then (.error .simulated, w.record (.failed c sql))
    else (.ok (), w.record (.committed c sql))

/-- Adds rows, if there are any. -/
def insert (w : Warehouse) (physical : String) (columns : List String) (rows : List Row) :
    Outcome Unit × Warehouse :=
  if rows.isEmpty then (.ok (), w) else w.apply (.insert physical columns rows)

/-- What makes a connection read-only and limits its time. -/
def guards (w : Warehouse) : List Sent :=
  match w.dialect with
  | .postgres => [.plain "SET TRANSACTION READ ONLY",
      .plain ("SET LOCAL statement_timeout = " ++ integerText w.timeoutMs)]
  | .other => []

/-- The result of the next query. -/
def nextResult (w : Warehouse) : ResultSet × Warehouse :=
  match w.results with
  | [] => (⟨[], []⟩, w)
  | r :: rest => (r, { w with results := rest })

/-- Runs a query on a read-only connection. -/
def query (w : Warehouse) (sql : String) (params : Fields) : Outcome (List Fields) × Warehouse :=
  let statement := if params.isEmpty then Sent.plain sql else .bound sql params
  let (statements, fails, w) := w.send (w.guards ++ [statement])
  let w := w.record (.reading statements)
  if fails then (.error .simulated, w)
  else
    let (r, w) := w.nextResult
    (r.delivered, w)

end Warehouse

end MetricLayer
