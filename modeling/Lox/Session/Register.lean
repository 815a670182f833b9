import Lox.Exec
import Lox.Number.Hex

set_option autoImplicit false

namespace Lox

inductive Entry where
  | value (value : Value)
  | scope (id : ScopeId)
  | token (token : Token)
  | decl (decl : Decl Value)

inductive Fault where
  -- The operation names a register that is unset or holds something else.
  | misuse
  -- The program that it ran failed.
  | raised (error : Error)
  deriving DecidableEq, Repr

inductive Literal where
  | nil
  | bool (value : Bool)
  | text (value : String)
  | integer (value : Int)
  | bits (hex : String)
  | native (builtin name : String) (arity : Nat)
  | register (name : String)
  deriving DecidableEq, Repr

abbrev Registers := Bindings Entry

def globalsName : String := "globals"

def Exec.required {α : Type} : Option α -> Exec Fault α
  | some value => return value
  | none => Exec.fail .misuse

namespace Registers

def value? (registers : Registers) (name : String) : Option Value :=
  match registers.get? name with
  | some (.value value) => some value
  | _ => none

def scope? (registers : Registers) (name : String) : Option ScopeId :=
  match registers.get? name with
  | some (.scope id) => some id
  | _ => none

def token? (registers : Registers) (name : String) : Option Token :=
  match registers.get? name with
  | some (.token token) => some token
  | _ => none

def decl? (registers : Registers) (name : String) : Option (Decl Value) :=
  match registers.get? name with
  | some (.decl decl) => some decl
  | _ => none

def closure? (registers : Registers) (name : String) : Option ClosureId :=
  match registers.value? name with
  | some (.closure id) => some id
  | _ => none

def class? (registers : Registers) (name : String) : Option ClassId :=
  match registers.value? name with
  | some (.cls id) => some id
  | _ => none

def instance? (registers : Registers) (name : String) : Option InstanceId :=
  match registers.value? name with
  | some (.inst id) => some id
  | _ => none

def literal? (registers : Registers) : Literal -> Option Value
  | .nil => some .nil
  | .bool value => some (.bool value)
  | .text value => some (.text value)
  | .integer value =>
      -- Larger ones might not have a number of their own.
      if value.natAbs < 0x20000000000000 then some (.number (.ofInt value)) else none
  | .bits hex => (Number.ofHex? hex).map .number
  | .native builtin name arity =>
      (Builtin.ofName? builtin).map fun builtin => .native { name, arity, builtin }
  | .register name => registers.value? name

end Registers

end Lox
