import Lox.Call
import Lox.Session.Register

set_option autoImplicit false

namespace Lox

-- Objects of all kinds are numbered together, in the order in which answers first show them.
structure Numbering where
  handles : List Handle := []

def Numbering.number (numbering : Numbering) (handle : Handle) : Nat × Numbering :=
  if handle ∈ numbering.handles then (numbering.handles.idxOf handle, numbering)
  else (numbering.handles.length, ⟨numbering.handles ++ [handle]⟩)

structure ValueView where
  value : Value
  display : String
  number : Option Nat
  deriving DecidableEq, Repr

structure FunctionView where
  name : String
  arity : Nat
  display : String
  isInitializer : Bool
  scope : Nat
  debug : String
  deriving DecidableEq, Repr

structure ClassView where
  name : String
  arity : Nat
  display : String
  superclass : Option ValueView
  deriving DecidableEq, Repr

inductive Answer where
  | value (view : ValueView)
  | scope (number : Nat)
  | token (token : Token)
  | comparedTokens (equal sameKind equalToCopy : Bool)
  | error (error : Error) (unwindDisplay unwindDebug : String)
  | returnSignal (display : String) (debug : Option String)
  | equal (result : Bool)
  | debug (text : String)
  | function (view : FunctionView)
  | cls (view : ClassView)
  | arity (arity : Nat)
  | fields (names : List String)
  -- There is no such object.
  | nothing
  | ok
  | failed (error : Error)
  | misuse
  | exhausted
  deriving DecidableEq, Repr

inductive Result where
  | object (entry : Entry)
  | function (closure : Closure)
  | cls (id : ClassId) (arity : Nat)
  | plain (answer : Answer)

def Result.entry? : Result -> Option Entry
  | .object entry => some entry
  | _ => none

def ValueView.of (heap : Heap) (numbering : Numbering) (value : Value) :
    ValueView × Numbering :=
  match value.handle? with
  | some handle =>
      let (number, numbering) := numbering.number handle
      ({ value, display := heap.display value, number := some number }, numbering)
  | none => ({ value, display := heap.display value, number := none }, numbering)

def Result.answer (heap : Heap) (numbering : Numbering) : Result -> Answer × Numbering
  | .object (.value value) =>
      let (view, numbering) := ValueView.of heap numbering value
      (.value view, numbering)
  | .object (.scope id) =>
      let (number, numbering) := numbering.number (.scope id)
      (.scope number, numbering)
  | .object (.token token) => (.token token, numbering)
  | .object (.decl decl) => (.debug decl.debug, numbering)
  | .function closure =>
      let (scope, numbering) := numbering.number (.scope closure.scope)
      (.function {
        name := closure.name
        arity := closure.arity
        display := closure.display
        isInitializer := closure.isInitializer
        scope
        debug := closure.debug }, numbering)
  | .cls id arity =>
      let cls := heap.cls id
      let (superclass, numbering) :=
        match cls.superclass with
        | some parent =>
            let (view, numbering) := ValueView.of heap numbering (.cls parent)
            (some view, numbering)
        | none => (none, numbering)
      (.cls { name := cls.name, arity, display := cls.name, superclass }, numbering)
  | .plain answer => (answer, numbering)

end Lox
