import Lox.Event
import Lox.Heap.Change

set_option autoImplicit false

/-!
# Computations on the heap

A computation reads and changes the heap, reports events, and either finishes
with a result, fails with an error or runs out of the depth it was given. What
it did before failing stays done. Every change of the heap is written down in a
journal, so that the heaps in the middle of a computation are known as well.
-/

namespace Lox

inductive Outcome (ε α : Type) where
  | done (value : α)
  | failed (error : ε)
  | exhausted
  deriving DecidableEq, Repr

structure State where
  heap : Heap := {}
  log : Array Event := #[]
  journal : Array Change := #[]

def Exec (ε α : Type) : Type :=
  State -> Outcome ε α × State

namespace Exec

variable {ε δ α β : Type}

def finish (value : α) : Exec ε α :=
  fun state => (.done value, state)

def andThen (first : Exec ε α) (next : α -> Exec ε β) : Exec ε β :=
  fun state =>
    match first state with
    | (.done value, state) => next value state
    | (.failed error, state) => (.failed error, state)
    | (.exhausted, state) => (.exhausted, state)

instance : Monad (Exec ε) where
  pure := finish
  bind := andThen

@[simp]
theorem pure_apply (value : α) (state : State) :
    (pure value : Exec ε α) state = (.done value, state) := rfl

theorem bind_apply (first : Exec ε α) (next : α -> Exec ε β) (state : State) :
    (first >>= next) state =
      match first state with
      | (.done value, state) => next value state
      | (.failed error, state) => (.failed error, state)
      | (.exhausted, state) => (.exhausted, state) := rfl

instance : LawfulMonad (Exec ε) :=
  LawfulMonad.mk' (Exec ε)
    (fun action => by
      funext state
      change andThen action finish state = action state
      unfold andThen
      cases outcome : action state with
      | mk result after => cases result <;> rfl)
    (fun value next => rfl)
    (fun action next last => by
      funext state
      simp only [bind_apply]
      cases outcome : action state with
      | mk result after => cases result <;> rfl)

def fail (error : ε) : Exec ε α :=
  fun state => (.failed error, state)

def exhaust : Exec ε α :=
  fun state => (.exhausted, state)

def log (event : Event) : Exec ε Unit :=
  fun state => (.done (), { state with log := state.log.push event })

def logAll (events : List Event) : Exec ε Unit :=
  fun state => (.done (), { state with log := state.log ++ events })

def read (view : Heap -> α) : Exec ε α :=
  fun state => (.done (view state.heap), state)

def change (change : Change) : Exec ε Unit :=
  fun state =>
    (.done (), { state with
      heap := state.heap.apply change
      journal := state.journal.push change })

def allocate (next : Heap -> α) (change : Change) : Exec ε α := do
  let id ← read next
  Exec.change change
  return id

-- A step in front of others, run from a given state.

@[simp]
theorem log_bind (event : Event) (next : Unit -> Exec ε β) (state : State) :
    (log event >>= next) state = next () { state with log := state.log.push event } := rfl

@[simp]
theorem logAll_bind (events : List Event) (next : Unit -> Exec ε β) (state : State) :
    (logAll events >>= next) state = next () { state with log := state.log ++ events } := rfl

@[simp]
theorem read_bind (view : Heap -> α) (next : α -> Exec ε β) (state : State) :
    (read view >>= next) state = next (view state.heap) state := rfl

@[simp]
theorem change_bind (change : Change) (next : Unit -> Exec ε β) (state : State) :
    (Exec.change change >>= next) state =
      next () { state with
        heap := state.heap.apply change
        journal := state.journal.push change } := rfl

@[simp]
theorem allocate_bind (view : Heap -> α) (change : Change) (next : α -> Exec ε β)
    (state : State) :
    (allocate view change >>= next) state =
      next (view state.heap) { state with
        heap := state.heap.apply change
        journal := state.journal.push change } := rfl

def raise (error : Error) : Exec Error α := do
  logAll error.event?.toList
  fail error

def mapError (convert : ε -> δ) (action : Exec ε α) : Exec δ α :=
  fun state =>
    match action state with
    | (.done value, state) => (.done value, state)
    | (.failed error, state) => (.failed (convert error), state)
    | (.exhausted, state) => (.exhausted, state)

end Exec

end Lox
