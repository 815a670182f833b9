import Lox.Bindings
import Lox.Call
import Lox.Error
import Lox.Event
import Lox.Exec
import Lox.Heap.Basic
import Lox.Heap.Change
import Lox.Heap.Method
import Lox.Heap.Scope
import Lox.Heap.Text
import Lox.Number.Basic
import Lox.Number.Hex
import Lox.Number.Shortest
import Lox.Number.Text
import Lox.Object
import Lox.Proofs.Activation
import Lox.Proofs.Alike
import Lox.Proofs.Arity
import Lox.Proofs.Assignment
import Lox.Proofs.BoundScope
import Lox.Proofs.CallScope
import Lox.Proofs.Construction
import Lox.Proofs.Definedness
import Lox.Proofs.Dispatch
import Lox.Proofs.Encapsulation
import Lox.Proofs.Equality
import Lox.Proofs.ErrorLines
import Lox.Proofs.FieldNames
import Lox.Proofs.FieldWrite
import Lox.Proofs.Frozen
import Lox.Proofs.Initializer
import Lox.Proofs.Inspection
import Lox.Proofs.Instantiation
import Lox.Proofs.JsonReader
import Lox.Proofs.Locals
import Lox.Proofs.Logging
import Lox.Proofs.MapOrder
import Lox.Proofs.NumberLine
import Lox.Proofs.NumberText
import Lox.Proofs.Parallel
import Lox.Proofs.PropertyRead
import Lox.Proofs.Resolution
import Lox.Proofs.ScopeCopy
import Lox.Proofs.SearchTrace
import Lox.Proofs.Shadowing
import Lox.Proofs.ShortestDecimal
import Lox.Proofs.TokenJson
import Lox.Script.Eval
import Lox.Script.Syntax
import Lox.Session.Answer
import Lox.Session.Operation
import Lox.Session.Register
import Lox.Session.Run
import Lox.Text.CodePoint
import Lox.Text.Json
import Lox.Text.Layout
import Lox.Text.Quoted
import Lox.Token
import Lox.Value
