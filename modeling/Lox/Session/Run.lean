import Lox.Script.Eval
import Lox.Session.Answer
import Lox.Session.Operation

set_option autoImplicit false

namespace Lox

namespace Registers

variable {α : Type}

def need (registers : Registers) (find : Registers -> Option α) : Exec Fault α :=
  Exec.required (find registers)

def literals? (registers : Registers) (literals : List Literal) : Option (List Value) :=
  literals.mapM registers.literal?

def source? (registers : Registers) : DeclSource -> Option (Decl Value)
  | .inline decl => decl.resolve registers.literal?
  | .register name => registers.decl? name

def property? (registers : Registers) : PropertyName -> Option (String × Nat)
  | .inline name line => some (name, line)
  | .token register => (registers.token? register).map fun token => (token.lexeme, token.line)

def makeFunction (registers : Registers) (spec : FunctionSpec) : Exec Fault Closure := do
  let decl ← registers.need (·.source? spec.decl)
  let scope ← registers.need (·.scope? spec.scope)
  Closure.create decl scope (spec.isInitializer.getD (decl.name.lexeme = initializerName))

def makeMethod (registers : Registers) : MethodSpec -> Exec Fault Closure
  | .copy name => do
      let id ← registers.need (·.closure? name)
      Exec.read (·.closure id)
  | .make spec => registers.makeFunction spec

def makeMethods (registers : Registers) : List (Option MethodSpec) -> Exec Fault (List Closure)
  | [] => return []
  | spec :: rest => do
      -- One that could not be read is a misuse, after those before it were made.
      let method ← registers.makeMethod (← Exec.required spec)
      return method :: (← registers.makeMethods rest)

end Registers

def Entry.debug? (heap : Heap) : Entry -> Option String
  | .value (.native _) => none
  | .value held => some (heap.debug held)
  | .scope id => some (heap.debugScope id)
  | .token held => some held.debug
  | .decl held => some held.debug

def returnSignalAnswer (heap : Heap) (value : Value) : Answer :=
  let signal := Unwind.returned value
  match value with
  | .native _ | .cls _ => .returnSignal (signal.display heap) none
  | _ => .returnSignal (signal.display heap) (some (signal.debug heap))

def functionResult (closure : Closure) : Exec Fault Result :=
  return .object (.value (.closure (← closure.allocate)))

def valueResult (action : Exec Error Value) : Exec Fault Result :=
  return .object (.value (← action.mapError .raised))

def Registers.makeClass (registers : Registers) (name superclass : Option String)
    (methods : List (Option MethodSpec)) : Exec Fault Result := do
  let superclass ← superclass.mapM fun register => registers.need (·.class? register)
  let methods ← registers.makeMethods methods
  -- A missing name is noticed last.
  let name ← Exec.required name
  return .object (.value (.cls (← ClassId.create name superclass methods)))

def Registers.perform (registers : Registers) (depth : Nat) : Operation -> Exec Fault Result
  | .token token => do
      Exec.log (.tokenCreated token)
      return .object (.token token)
  | .compareTokens left right => do
      let left ← registers.need (·.token? left)
      let right ← registers.need (·.token? right)
      return .plain (.comparedTokens (left = right) (left.kind = right.kind) (left = left))
  | .error error => do
      Exec.logAll error.event?.toList
      let unwind := Unwind.error error
      let display ← Exec.read unwind.display
      return .plain (.error error display (← Exec.read unwind.debug))
  | .returnSignal value => do
      let value ← registers.need (·.literal? value)
      return .plain (← Exec.read (returnSignalAnswer · value))
  | .value value => do
      return .object (.value (← registers.need (·.literal? value)))
  | .equal left right => do
      let left ← registers.need (·.literal? left)
      let right ← registers.need (·.literal? right)
      return .plain (.equal (left.equals right))
  | .debug register => do
      let entry ← registers.need (·.get? register)
      let text ← Exec.read entry.debug?
      return .plain (.debug (← Exec.required text))
  | .newScope none => return .object (.scope (← ScopeId.create none))
  | .newScope (some enclosing) => do
      let enclosing ← registers.need (·.scope? enclosing)
      return .object (.scope (← ScopeId.create (some enclosing)))
  | .cloneScope scope => do
      let scope ← registers.need (·.scope? scope)
      return .object (.scope (← scope.clone))
  | .enclosingScope scope => do
      let scope ← registers.need (·.scope? scope)
      match ← Exec.read fun heap => (heap.scope scope).enclosing with
      | some enclosing => return .object (.scope enclosing)
      | none => return .plain .nothing
  | .define scope name value => do
      let scope ← registers.need (·.scope? scope)
      scope.define name (← registers.need (·.literal? value))
      return .plain .ok
  | .assign scope name value line => do
      let scope ← registers.need (·.scope? scope)
      let value ← registers.need (·.literal? value)
      (scope.assign name value line).mapError .raised
      return .plain .ok
  | .lookup scope name line => do
      let scope ← registers.need (·.scope? scope)
      valueResult (scope.lookup name line)
  | .declare decl => do
      return .object (.decl (← registers.need (·.source? (.inline decl))))
  | .newFunction spec => do
      functionResult (← registers.makeFunction spec)
  | .cloneFunction function => do
      let id ← registers.need (·.closure? function)
      functionResult (← Exec.read (·.closure id))
  | .functionInfo function => do
      let id ← registers.need (·.closure? function)
      return .function (← Exec.read (·.closure id))
  | .scopeOf function => do
      let id ← registers.need (·.closure? function)
      return .object (.scope (← Exec.read (·.closure id)).scope)
  | .bind function receiver => do
      let id ← registers.need (·.closure? function)
      let receiver ← registers.need (·.instance? receiver)
      return .object (.value (.closure (← id.bindTo receiver)))
  | .call callee arguments line => do
      let callee ← registers.need (·.literal? callee)
      let arguments ← registers.need (·.literals? arguments)
      valueResult (invoke depth callee line arguments)
  | .apply callee arguments => do
      let callee ← registers.need (·.value? callee)
      let arguments ← registers.need (·.literals? arguments)
      match callee with
      | .closure id =>
          let closure ← Exec.read (·.closure id)
          valueResult (runClosure depth closure arguments)
      | .cls id => valueResult (id.instantiate (runClosure depth) arguments)
      | _ => Exec.fail .misuse
  | .arity callee => do
      match ← registers.need (·.value? callee) with
      | .closure id => return .plain (.arity (← Exec.read (·.closure id)).arity)
      | .cls id => return .plain (.arity (← id.arity))
      | _ => Exec.fail .misuse
  | .newClass name superclass methods => registers.makeClass name superclass methods
  | .classInfo cls => do
      let id ← registers.need (·.class? cls)
      return .cls id (← id.arity)
  | .superclass cls => do
      let id ← registers.need (·.class? cls)
      match ← Exec.read fun heap => (heap.cls id).superclass with
      | some parent => return .object (.value (.cls parent))
      | none => return .plain .nothing
  | .findMethod cls name => do
      let id ← registers.need (·.class? cls)
      match ← id.findMethod name with
      | some method => return .object (.value (.closure method))
      | none => return .plain .nothing
  | .instantiate cls arguments => do
      let id ← registers.need (·.class? cls)
      let arguments ← registers.need (·.literals? arguments)
      valueResult (id.instantiate (runClosure depth) arguments)
  | .newInstance cls => do
      let id ← registers.need (·.class? cls)
      return .object (.value (.inst (← InstanceId.create id)))
  | .classOf object => do
      let id ← registers.need (·.instance? object)
      return .object (.value (.cls (← Exec.read (·.inst id)).cls))
  | .get object property => do
      let id ← registers.need (·.instance? object)
      let (name, line) ← registers.need (·.property? property)
      valueResult (id.get name line)
  | .set object property value => do
      let id ← registers.need (·.instance? object)
      let (name, _) ← registers.need (·.property? property)
      id.set name (← registers.need (·.literal? value))
      return .plain (.fields (← Exec.read (·.fieldNames id)))
  | .fields object => do
      let id ← registers.need (·.instance? object)
      return .plain (.fields (← Exec.read (·.fieldNames id)))
  | .sameInstance left right => do
      let left ← registers.need (·.instance? left)
      let right ← registers.need (·.instance? right)
      return .plain (.equal (left = right))

structure Reply where
  answer : Answer
  log : List Event

structure Session where
  heap : Heap
  registers : Registers
  numbering : Numbering := {}

namespace Session

def start : Session :=
  { heap := ({} : Heap).newScope {}
    registers := Bindings.empty.insert globalsName (.scope ({} : Heap).nextScope) }

def store (session : Session) (request : Request) (result : Result) : Session :=
  match request.storeAs, result.entry? with
  | some name, some entry =>
      { session with registers := session.registers.insert name entry }
  | _, _ => session

/-- Perform a request, in which at most `depth` calls may be under way at once. -/
def perform (session : Session) (depth : Nat) (request : Request) : Reply × Session :=
  let (outcome, state) :=
    session.registers.perform depth request.operation { heap := session.heap }
  let session := { session with heap := state.heap }
  let log := state.log.toList
  match outcome with
  | .done result =>
      let (answer, numbering) := result.answer session.heap session.numbering
      (⟨answer, log⟩, { session with numbering }.store request result)
  -- What a failed request did to objects stays, but no register changes.
  | .failed (.raised error) => (⟨.failed error, log⟩, session)
  | .failed .misuse => (⟨.misuse, log⟩, session)
  | .exhausted => (⟨.exhausted, log⟩, session)

def maxDepth : Nat := 100000

def performAll (session : Session) : List (Option Request) -> List Reply
  | [] => []
  | none :: rest => ⟨.misuse, []⟩ :: session.performAll rest
  | some request :: rest =>
      let (reply, session) := session.perform maxDepth request
      reply :: session.performAll rest

end Session

end Lox
