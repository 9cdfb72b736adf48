import ScriptBridge.Script.Realm

/-!
# The evaluation monad

Script code runs in `M`: it reads and changes a realm, and it may stop with a `Fault`. A fault
is a thrown script value, which `try` can catch; a broken runtime limit, which nothing catches;
or exhausted evaluation fuel. The realm survives a fault, so effects made before a throw stay.

The object operations and built-in functions need to call script functions; they receive the
calling convention as an `Ops` value, which the evaluator supplies.
-/

namespace ScriptBridge.Script

/-- Why evaluation stopped early. -/
inductive Fault where
  /-- A thrown value. -/
  | thrown (v : Value)
  /-- A runtime limit was passed; the message says which. -/
  | limit (msg : String)
  /-- Evaluation fuel ran out. -/
  | exhausted
  deriving Inhabited

/-- Computations over a realm that may fault. -/
abbrev M := ExceptT Fault (StateM Realm)

/-- How to call, construct and run code: `call f this args`, `construct f args newTarget`,
`evalScript text` for the global `eval`, and `initFields ctor o`, which runs the instance field
initializers of the class whose constructor is `ctor` on the object `o`. -/
structure Ops where
  call : Value → Value → List Value → M Value
  construct : Value → List Value → Value → M Value
  evalScript : Units → M Value
  initFields : Nat → Nat → M Unit

namespace M

def obj (i : Nat) : M Obj := do pure ((← get).obj i)

def modifyObj (i : Nat) (f : Obj → Obj) : M Unit := modify fun r => r.modifyObj i f

def alloc (o : Obj) : M Nat := modifyGet fun r => r.alloc o

def newSymbol (desc : Option Units) : M Nat := modifyGet fun r => r.newSymbol desc

def newObject (proto : Option Nat) : M Nat := alloc { proto }

def messageProp (msg : String) : Property := Property.hidden (.str (Units.ofString msg))

def makeError (k : ErrorKind) (msg : String) : M Value := do
  let props : Table := if msg.isEmpty then {} else ({} : Table).insert (Key.ofString "message") (messageProp msg)
  let i ← alloc { proto := some (Intrinsic.errorPrototypeOf k).ref, props, kind := .error k none }
  pure (.obj i)

def raise (k : ErrorKind) (msg : String) : M α := do
  throw (.thrown (← makeError k msg))

def typeError (msg : String) : M α := raise .typeError msg

def rangeError (msg : String) : M α := raise .rangeError msg

def referenceError (msg : String) : M α := raise .referenceError msg

def syntaxError (msg : String) : M α := raise .syntaxError msg

def newArray (vs : List Value) : M Nat := do
  let (t, n) := vs.foldl (fun (acc : Table × Nat) v => (acc.1.insert (Key.ofIndex acc.2) (Property.plain v), acc.2 + 1))
    ({}, 0)
  alloc { proto := some Intrinsic.arrayPrototype.ref, props := t, kind := .array n true }

end M

def argAt (args : List Value) (i : Nat) : Value := args.getD i .undefined

end ScriptBridge.Script
