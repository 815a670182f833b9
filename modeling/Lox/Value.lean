import Lox.Number.Basic

set_option autoImplicit false

namespace Lox

-- Identities of the objects on the heap, one type for each kind.

structure ScopeId where
  index : Nat
  deriving DecidableEq, Repr

structure ClosureId where
  index : Nat
  deriving DecidableEq, Repr

structure ClassId where
  index : Nat
  deriving DecidableEq, Repr

structure InstanceId where
  index : Nat
  deriving DecidableEq, Repr

inductive Builtin where
  | sum
  | count
  | first
  | concat
  | fail
  deriving DecidableEq, Repr

def Builtin.ofName? : String -> Option Builtin
  | "sum" => some .sum
  | "count" => some .count
  | "first" => some .first
  | "concat" => some .concat
  | "fail" => some .fail
  | _ => none

structure Native where
  name : String
  arity : Nat
  builtin : Builtin
  deriving DecidableEq, Repr

inductive Value where
  | native (function : Native)
  | closure (id : ClosureId)
  | cls (id : ClassId)
  | inst (id : InstanceId)
  | number (value : Number)
  | text (value : String)
  | bool (value : Bool)
  | nil
  deriving DecidableEq, Repr

inductive Handle where
  | scope (id : ScopeId)
  | closure (id : ClosureId)
  | cls (id : ClassId)
  | inst (id : InstanceId)
  deriving DecidableEq, Repr

namespace Value

def handle? : Value -> Option Handle
  | .closure id => some (.closure id)
  | .cls id => some (.cls id)
  | .inst id => some (.inst id)
  | _ => none

/--
Equality as programs see it: objects by identity, numbers numerically, native
functions by name and builtin whatever their arity.
-/
def equals : Value -> Value -> Bool
  | .native left, .native right =>
      left.name = right.name && left.builtin = right.builtin
  | .closure left, .closure right => left = right
  | .cls left, .cls right => left = right
  | .inst left, .inst right => left = right
  | .number left, .number right => left.equals right
  | .text left, .text right => left = right
  | .bool left, .bool right => left = right
  | .nil, .nil => true
  | _, _ => false

def isTruthy : Value -> Bool
  | .nil => false
  | .bool value => value
  | _ => true

end Value

end Lox
