import DeliveryService.Sqlstate
import Mathlib.Data.Rat.Init
import Mathlib.Algebra.Order.Ring.Rat

namespace DeliveryService

/-- An exception, its links and whether it is a `DBAPIError`. -/
structure RaisedError where
  size : Nat
  graph : ExceptionGraph size
  self : Fin size
  dbapi : Bool

def RaisedError.sqlstate (error : RaisedError) : Option String := postgresSqlstate error.graph error.self

/-- How an attempt goes: the first statement or the operation raises, or the operation completes with its
value and its effects, and then the commit succeeds or raises. -/
inductive Attempt (D α : Type)
  | isolationRaises (error : RaisedError)
  | operationRaises (error : RaisedError)
  | completes (value : α) (effects : D → D) (commit : Option RaisedError)

/-- What happens to the sessions that the factory makes. -/
inductive SessionEvent
  | opened (session : Nat)
  | began (session : Nat)
  | isolated (session : Nat)
  | called (session : Nat)
  | committed (session : Nat)
  | rolledBack (session : Nat)
  | closed (session : Nat)
  | slept (attempt : Nat)
deriving DecidableEq, Repr

/-- The committed data and the number of sessions made so far. -/
structure SessionPool (D : Type) where
  db : D
  sessions : Nat

inductive SerializableResult (α : Type)
  | returned (value : α)
  | raised (error : RaisedError)
  | valueError (message : String)
  | assertionError (message : String)

structure SerializableRun (D α : Type) where
  events : List SessionEvent
  pool : SessionPool D
  result : SerializableResult α

section

variable {D α : Type}

/-- The outcome of an attempt: what it raises, or its value and effects. -/
def Attempt.outcome : Attempt D α → Except RaisedError (α × (D → D))
  | .isolationRaises error | .operationRaises error | .completes _ _ (some error) => .error error
  | .completes value effects none => .ok (value, effects)

def Attempt.calls : Attempt D α → Bool
  | .isolationRaises _ => false
  | _ => true

def committedSessions (events : List SessionEvent) : List Nat :=
  events.filterMap fun | .committed session => some session | _ => none

/-- How a run ends when its last attempt has the given outcome. -/
def Ends (outcome : Except RaisedError (α × (D → D))) (session : Nat) (db : D) (run : SerializableRun D α) : Prop :=
  match outcome with
  | .ok (value, effects) =>
    run.result = .returned value ∧ run.pool.db = effects db ∧ committedSessions run.events = [session]
  | .error error => run.result = .raised error ∧ run.pool.db = db ∧ committedSessions run.events = []

variable {script : Nat → Attempt D α} {attempts : Nat}

end

end DeliveryService
