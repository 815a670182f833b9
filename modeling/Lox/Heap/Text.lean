import Lox.Heap.Method
import Lox.Heap.Scope
import Lox.Number.Text

set_option autoImplicit false

namespace Lox

def Decl.debug {κ : Type} (decl : Decl κ) : String :=
  Text.partialRecord "FunctionDecl" [
    ("name", Text.quoted decl.name.lexeme),
    ("params", toString decl.arity)]

namespace Closure

def display (closure : Closure) : String :=
  "<fn " ++ closure.name ++ ">"

def debug (closure : Closure) : String :=
  Text.record "LoxFunction" [
    ("name", Text.quoted closure.name),
    ("arity", toString closure.arity),
    ("is_initializer", Text.truth closure.isInitializer)]

end Closure

namespace Heap

def displayInstance (heap : Heap) (id : InstanceId) : String :=
  (heap.classOf id).name ++ " instance"

def display (heap : Heap) : Value -> String
  | .native function => "<native fn " ++ function.name ++ ">"
  | .closure id => (heap.closure id).display
  | .cls id => (heap.cls id).name
  | .inst id => heap.displayInstance id
  | .number value => value.display
  | .text value => value
  | .bool value => Text.truth value
  | .nil => "nil"

def fieldNames (heap : Heap) (id : InstanceId) : List String :=
  (heap.inst id).fields.keys.mergeSort fun left right => decide (left ≤ right)

def debugClass (heap : Heap) (id : ClassId) : String :=
  let cls := heap.cls id
  let superclass :=
    match _link : heap.superclass? id with
    | some parent => Text.optional (some (heap.debugClass parent))
    | none => Text.optional none
  Text.record "LoxClass" [
    ("name", Text.quoted cls.name),
    ("superclass", superclass),
    ("methods", Text.mapping (cls.methods.entries.map fun entry =>
      (Text.quoted entry.1, (heap.closure entry.2).debug)))]
termination_by id.index
decreasing_by exact superclass?_older ‹_›

def debugInstance (heap : Heap) (id : InstanceId) : String :=
  Text.record "LoxInstance" [
    ("class", Text.quoted (heap.classOf id).name),
    ("fields", Text.sequence ((heap.fieldNames id).map Text.quoted))]

def debug (heap : Heap) : Value -> String
  | .native function =>
      Text.partialRecord "NativeFunction" [
        ("name", Text.quoted function.name),
        ("arity", toString function.arity)]
  | .closure id => Text.applied "Function" (heap.closure id).debug
  | .cls id => Text.applied "Class" (heap.debugClass id)
  | .inst id => Text.applied "Instance" (heap.debugInstance id)
  | .number value => Text.applied "Number" value.debug
  | .text value => Text.applied "String" (Text.quoted value)
  | .bool value => Text.applied "Bool" (Text.truth value)
  | .nil => "Nil"

def debugScope (heap : Heap) (id : ScopeId) : String :=
  let enclosing :=
    match _link : heap.enclosing? id with
    | some parent =>
        Text.optional (some (Text.record "RefCell" [("value", heap.debugScope parent)]))
    | none => Text.optional none
  Text.record "Environment" [
    ("values", Text.mapping ((heap.scope id).vars.entries.map fun entry =>
      (Text.quoted entry.1, heap.debug entry.2))),
    ("enclosing", enclosing)]
termination_by id.index
decreasing_by exact enclosing?_older ‹_›

end Heap

end Lox
