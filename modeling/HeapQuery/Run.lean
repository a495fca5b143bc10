import HeapQuery.QueryError

namespace HeapQuery

/-- What a run has reported: the tasks begun with their sizes, the work done, how often it was done
with a task and how often it asked whether it was canceled. -/
structure Progress where
  tasks : List (String × Nat)
  worked : Nat
  done : Nat
  polls : Nat
  deriving DecidableEq, Repr

def Progress.none : Progress := ⟨[], 0, 0, 0⟩

/-- Whether the run is canceled when it asks for the given time, counted from 1. -/
abbrev Listener := Nat → Bool

def Listener.silent : Listener := fun _ => false

/-- Why a run failed: with an error of the query itself, or with something else that has a text. -/
inductive Failure
  | query (e : QueryError)
  | other (text : String)
  deriving DecidableEq, Repr

/-- Puts a text in front; an error of the query stays recognizable below it. -/
def Failure.within (text : String) : Failure → Failure
  | query e => query e
  | other _ => other text

/-- The error a failure makes of the query's execution: an error of the query comes back as it is,
anything else becomes its cause. -/
def Failure.rethrow (query : String) : Failure → QueryError
  | .query e => e
  | .other text => .execution query text

abbrev Run (α : Type) := ReaderT Listener (ExceptT Failure (StateM Progress)) α

namespace Run

def fail (f : Failure) : Run α := throw f

def beginTask (name : String) (total : Nat) : Run Unit :=
  modify fun p => { p with tasks := p.tasks ++ [(name, total)] }

def worked (amount : Nat) : Run Unit := modify fun p => { p with worked := p.worked + amount }

def done : Run Unit := modify fun p => { p with done := p.done + 1 }

def checkCanceled : Run Unit := do
  modify fun p => { p with polls := p.polls + 1 }
  let polls := (← get).polls
  let canceled ← read
  if canceled polls then throw (.query .canceled)

def start (r : Run α) (listener : Listener) : Except Failure α × Progress :=
  (r.run listener).run.run Progress.none

end Run

end HeapQuery
