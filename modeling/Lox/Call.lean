import Lox.Object

set_option autoImplicit false

namespace Lox

inductive Unwind where
  | error (cause : Error)
  | returned (value : Value)
  deriving DecidableEq, Repr

namespace Unwind

def display (heap : Heap) : Unwind -> String
  | .error cause => cause.message
  | .returned value => "Return signal with value: " ++ heap.display value

def debug (heap : Heap) : Unwind -> String
  | .error cause => Text.applied "RuntimeError" cause.debug
  | .returned value => Text.applied "ReturnSignal" (heap.debug value)

end Unwind

abbrev BodyRunner := List (Stmt Value) -> ScopeId -> Exec Unwind Unit

abbrev ClosureRunner := Closure -> List Value -> Exec Error Value

def Exec.returnValue (body : Exec Unwind Unit) : Exec Error Value :=
  fun state =>
    match body state with
    | (.done (), state) => (.done .nil, state)
    | (.failed (.returned value), state) => (.done value, state)
    | (.failed (.error error), state) => (.failed error, state)
    | (.exhausted, state) => (.exhausted, state)

def sumFrom (total : Number) : List Value -> Except Value Number
  | [] => .ok total
  | .number value :: rest => sumFrom (total.add value) rest
  | other :: _ => .error other

def Builtin.apply (heap : Heap) (arguments : List Value) : Builtin -> Except String Value
  | .sum =>
      match sumFrom (.ofNat 0) arguments with
      | .ok total => .ok (.number total)
      | .error other => .error ("not a number: " ++ heap.display other)
  | .count => .ok (.number (.ofNat arguments.length))
  | .first =>
      match arguments with
      | value :: _ => .ok value
      | [] => .error "no arguments"
  | .concat => .ok (.text (String.join (arguments.map heap.display)))
  | .fail => .error (",".intercalate (arguments.map heap.display))

def Native.call (function : Native) (line : Nat) (arguments : List Value) :
    Exec Error Value := do
  Exec.log (.nativeCalling function.name)
  if arguments.length ≠ function.arity then
    Exec.raise (.arity function.arity arguments.length line)
  else
    match ← Exec.read fun heap => function.builtin.apply heap arguments with
    | .ok value =>
        Exec.log (.nativeReturned function.name (← Exec.read (·.display value)))
        return value
    | .error message => Exec.raise (.runtime message line)

def Closure.call (run : BodyRunner) (closure : Closure) (arguments : List Value) :
    Exec Error Value := do
  Exec.log (.calling closure.name)
  let scope ← ScopeId.create (some closure.scope)
  -- Parameters and arguments are paired as far as both go.
  scope.defineAll ((closure.decl.params.map Token.lexeme).zip arguments)
  let value ← (run closure.decl.body scope).returnValue
  if closure.isInitializer then
    -- What the body returned does not count.
    closure.scope.lookup receiverName closure.decl.name.line
  else
    Exec.log (.returned closure.name (← Exec.read (·.display value)))
    return value

def ClassId.instantiate (run : ClosureRunner) (cls : ClassId) (arguments : List Value) :
    Exec Error Value := do
  let object ← InstanceId.create cls
  match ← cls.findMethod initializerName with
  | some method =>
      Exec.log (.initializing (← Exec.read fun heap => (heap.cls cls).name))
      let bound ← (← Exec.read (·.closure method)).bindTo object
      let _ ← run bound arguments
      return .inst object
  | none => return .inst object

/-- Call any value with arguments; errors of the call itself point at `line`. -/
def Value.call (run : ClosureRunner) (callee : Value) (line : Nat)
    (arguments : List Value) : Exec Error Value := do
  match callee with
  | .native function => function.call line arguments
  | .closure id =>
      let closure ← Exec.read (·.closure id)
      if arguments.length ≠ closure.arity then
        Exec.raise (.arity closure.arity arguments.length line)
      else run closure arguments
  | .cls id =>
      Exec.log (.constructing (← Exec.read fun heap => (heap.cls id).name))
      if arguments.length ≠ (← id.arity) then
        -- The error asks the class for its arity once more.
        Exec.raise (.arity (← id.arity) arguments.length line)
      else id.instantiate run arguments
  | other =>
      Exec.log (.calleeRejected (← Exec.read (·.display other)))
      Exec.raise (.notCallable line)

end Lox
