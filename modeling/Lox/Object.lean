import Lox.Exec
import Lox.Heap.Text

set_option autoImplicit false

namespace Lox

variable {ε : Type}

namespace ScopeId

def create (enclosing : Option ScopeId) : Exec ε ScopeId :=
  Exec.allocate Heap.nextScope (.newScope { enclosing })

def clone (scope : ScopeId) : Exec ε ScopeId := do
  Exec.allocate Heap.nextScope (.newScope (← Exec.read (·.scope scope)))

def define (scope : ScopeId) (name : String) (value : Value) : Exec ε Unit := do
  Exec.log (.defining scope name value (← Exec.read (·.display value)))
  Exec.change (.define scope name value)

def defineAll (scope : ScopeId) : List (String × Value) -> Exec ε Unit
  | [] => pure ()
  | (name, value) :: rest => do
      scope.define name value
      scope.defineAll rest

def lookup (scope : ScopeId) (name : String) (line : Nat) : Exec Error Value := do
  match ← Exec.read (·.lookup scope name) with
  | some value => return value
  | none => Exec.raise (.undefinedVariable name line)

def assign (scope : ScopeId) (name : String) (value : Value) (line : Nat) :
    Exec Error Unit := do
  match ← Exec.read (·.holder? scope name) with
  | some holder => Exec.change (.assign holder name value)
  | none => Exec.raise (.undefinedVariable name line)

end ScopeId

namespace Closure

def create (decl : Decl Value) (scope : ScopeId) (isInitializer : Bool) : Exec ε Closure := do
  Exec.log (.functionCreated decl.name.lexeme isInitializer)
  return { decl, scope, isInitializer }

def allocate (closure : Closure) : Exec ε ClosureId :=
  Exec.allocate Heap.nextClosure (.newClosure closure)

def allocateAll (table : Bindings ClosureId) : List Closure -> Exec ε (Bindings ClosureId)
  | [] => pure table
  | method :: rest => do
      let id ← method.allocate
      -- Of several methods with one name the last counts.
      Closure.allocateAll (table.insert method.name id) rest

def bindTo (closure : Closure) (receiver : InstanceId) : Exec ε Closure := do
  Exec.log (.binding closure.name receiver (← Exec.read (·.displayInstance receiver)))
  let scope ← Exec.allocate Heap.nextScope (.bindScope closure.scope receiver)
  Exec.log (.defining scope receiverName (.inst receiver)
    (← Exec.read (·.display (.inst receiver))))
  return { closure with scope }

end Closure

def ClosureId.bindTo (method : ClosureId) (receiver : InstanceId) : Exec ε ClosureId := do
  let closure ← Exec.read (·.closure method)
  (← closure.bindTo receiver).allocate

namespace ClassId

def create (name : String) (superclass : Option ClassId) (methods : List Closure) :
    Exec ε ClassId := do
  let table ← Closure.allocateAll .empty methods
  let id ← Exec.allocate Heap.nextClass (.newClass { name, superclass, methods := table })
  let superName ← Exec.read fun heap => superclass.map fun parent => (heap.cls parent).name
  Exec.log (.classCreated name table.size superName)
  return id

def findMethod (cls : ClassId) (name : String) : Exec ε (Option ClosureId) := do
  Exec.logAll (← Exec.read (·.searchEvents cls name))
  Exec.read (·.findMethod cls name)

def arity (cls : ClassId) : Exec ε Nat := do
  match ← cls.findMethod initializerName with
  | some method => Exec.read fun heap => (heap.closure method).arity
  | none => return 0

def boundMethod (cls : ClassId) (name : String) (receiver : InstanceId) (line : Nat) :
    Exec Error Value := do
  match ← cls.findMethod name with
  | some method => return .closure (← method.bindTo receiver)
  | none => Exec.raise (.undefinedProperty name line)

end ClassId

namespace InstanceId

def create (cls : ClassId) : Exec ε InstanceId := do
  Exec.log (.instanceCreated (← Exec.read fun heap => (heap.cls cls).name))
  Exec.allocate Heap.nextInstance (.newInstance cls)

def get (object : InstanceId) (name : String) (line : Nat) : Exec Error Value := do
  match ← Exec.read fun heap => (heap.inst object).fields.get? name with
  | some value =>
      Exec.log (.fieldRead name (← Exec.read (·.display value)))
      return value
  | none =>
      let cls ← Exec.read fun heap => (heap.inst object).cls
      cls.boundMethod name object line

def set (object : InstanceId) (name : String) (value : Value) : Exec ε Unit := do
  Exec.log (.fieldSet object name value (← Exec.read (·.display value)))
  Exec.change (.setField object name value)

end InstanceId

end Lox
