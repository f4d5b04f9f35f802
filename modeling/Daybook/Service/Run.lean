import Daybook.Sql.Binding
import Daybook.Sql.Value

/-!
# Runs and failures

What becomes of a piece of work: the calls that it sent to the database, and a value, a failure or
silence at its end.
-/

namespace Daybook.Service

/-! ## Failures

Why a request is not answered as it was asked, with the status and the words that tell a client.
What goes wrong on the side of the service is told in vague words only.
-/

inductive Failure
  | internal (cause : String)
  | notFound (what : String)
  | badRequest (reason : String)
  | database (cause : String)
  | query (fault : Sql.Fault)
  | timeout
deriving DecidableEq, Repr

namespace Failure

def summary : Failure → String
  | internal _ => "internal server error"
  | notFound what => s!"{what} not found"
  | badRequest reason => s!"bad request: {reason}"
  | database _ => "database error"
  | query _ => "query compilation error"
  | timeout => "query timed out"

def cause? : Failure → Option String
  | internal cause => some cause
  | query fault => some fault.message
  | _ => none

def status : Failure → Nat
  | internal _ | database _ | query _ => 500
  | notFound _ => 404
  | badRequest _ => 400
  | timeout => 504

def publicMessage : Failure → String
  | internal _ | database _ | query _ => "internal server error"
  | failure => failure.summary

end Failure

/-! ## Runs

The calls of a run are in the order in which they were sent.  Work that waits for a call that is
never answered stays pending, unless it is under a deadline.
-/

inductive Outcome (ε α : Type)
  | done (value : α)
  | failed (cause : ε)
  | pending
deriving DecidableEq, Repr

namespace Outcome

variable {ε ε' α β : Type}

def mapCause (f : ε → ε') : Outcome ε α → Outcome ε' α
  | done value => done value
  | failed cause => failed (f cause)
  | pending => pending

/-- The outcome of two pieces of work side by side.  One failure is enough for both to fail, and
ends the waiting for the other. -/
def both : Outcome ε α → Outcome ε β → Outcome ε (α × β)
  | done a, done b => done (a, b)
  | failed cause, _ => failed cause
  | _, failed cause => failed cause
  | _, _ => pending

end Outcome

structure Run (α : Type) where
  sent : List Sql.Call := []
  outcome : Outcome Failure α
deriving DecidableEq

namespace Run

variable {α β : Type}

def fail (failure : Failure) : Run α where
  outcome := .failed failure

def bind (run : Run α) (next : α → Run β) : Run β :=
  match run.outcome with
  | .done value => { next value with sent := run.sent ++ (next value).sent }
  | .failed failure => { sent := run.sent, outcome := .failed failure }
  | .pending => { sent := run.sent, outcome := .pending }

instance : Monad Run where
  pure value := { outcome := .done value }
  bind := bind

def both (left : Run α) (right : Run β) : Run (α × β) where
  sent := left.sent ++ right.sent
  outcome := left.outcome.both right.outcome

def underDeadline (run : Run α) : Run α :=
  match run.outcome with
  | .pending => { run with outcome := .failed .timeout }
  | _ => run

def ofExcept : Except Failure α → Run α
  | .ok value => pure value
  | .error failure => fail failure

end Run

end Daybook.Service
