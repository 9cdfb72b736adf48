import ScriptBridge.Script.Syntax
import ScriptBridge.Script.Value
import ScriptBridge.Script.Builtin

/-!
# Realms: heap, scopes and symbols

A realm is the whole state of a running script world. Its heap holds every object ever made,
its scope store every variable environment, and its symbol table every symbol; all three only
grow, so a reference stays valid for the life of the realm. The realm also counts the calls in
progress and the loop iterations of the current call, against the limits it was made with.
-/

namespace ScriptBridge.Script

/-- An instance field of a class: its key and initializer. -/
structure Field where
  key : Key
  init : Option Expr
  deriving Inhabited

/-- A function written in a script, with the scope it closes over. -/
structure Closure where
  func : Func
  scope : Nat
  /-- Arrow functions see the `this` of the scope they were made in. -/
  thisLexical : Bool
  /-- Class constructors refuse to be called without `new`. -/
  isClass : Bool
  /-- The instance fields a class constructor installs before its body runs. -/
  fields : List Field := []
  /-- The constructor a derived class hands construction to. -/
  heritage : Option Value := none
  /-- The object whose parent `super` refers to: the prototype or constructor a class method
  is defined on, or the object literal of a method. -/
  home : Option Nat := none
  deriving Inhabited

/-- What an object is beyond its properties. -/
inductive ObjKind where
  | ordinary
  /-- An array: its `length`, and whether `length` can still be written. -/
  | array (length : Nat) (lengthWritable : Bool)
  | closure (c : Closure)
  | native (n : Native)
  /-- A function with a fixed `this` and leading arguments. -/
  | bound (target : Nat) (this : Value) (args : List Value)
  /-- An error object, with the place of the call that made it. -/
  | error (kind : ErrorKind) (pos : Option Pos)
  /-- A wrapper around a primitive value. -/
  | boxed (v : Value)
  | proxy (target handler : Nat)
  | date (time : Float)
  /-- An array of unsigned bytes. -/
  | bytes (data : Array UInt8)
  | arguments
  deriving Inhabited

/-- An object: its prototype, whether it accepts new properties, its own properties and its
kind. -/
structure Obj where
  proto : Option Nat
  extensible : Bool := true
  props : Table := {}
  kind : ObjKind := .ordinary
  deriving Inhabited

/-- A variable: its value, whether it can be assigned, and whether its declaration has run. -/
structure Binding where
  value : Value
  mutable : Bool
  ready : Bool
  deriving Inhabited

/-- What a function scope knows of the call that made it: the function object, the object
`super` refers to the parent of, and the constructor `new` was applied to (`undefined` for a
plain call). -/
structure Frame where
  callee : Nat
  home : Option Nat
  newTarget : Value
  deriving Inhabited

/-- A variable environment: its bindings, the enclosing scope, and for a function or the
global scope the value of `this`. A derived class's constructor starts with `this` unbound
(`thisPending`) until its parent constructor has run. -/
structure Scope where
  names : Array (String × Binding) := #[]
  parent : Option Nat := none
  this? : Option Value := none
  thisPending : Bool := false
  frame? : Option Frame := none
  deriving Inhabited

/-- The symbols every realm knows by name. -/
inductive WellKnown where
  | iterator | asyncIterator | hasInstance | isConcatSpreadable | species | toPrimitive
  | toStringTag | unscopables
  deriving Inhabited, BEq

namespace WellKnown

def id (w : WellKnown) : Nat := w.ctorIdx

def name : WellKnown → String
  | .iterator => "iterator" | .asyncIterator => "asyncIterator" | .hasInstance => "hasInstance"
  | .isConcatSpreadable => "isConcatSpreadable" | .species => "species"
  | .toPrimitive => "toPrimitive" | .toStringTag => "toStringTag" | .unscopables => "unscopables"

def all : List WellKnown :=
  [iterator, asyncIterator, hasInstance, isConcatSpreadable, species, toPrimitive, toStringTag,
   unscopables]

def key (w : WellKnown) : Key := .sym w.id

end WellKnown

/-- The limits a realm enforces. -/
structure Limits where
  /-- Loop iterations allowed in one call; `none` for no limit. -/
  loops : Option Nat := none
  /-- Calls that may be in progress at once. -/
  recursion : Nat := 512
  deriving Inhabited

/-- The whole state of a script world. -/
structure Realm where
  heap : Array Obj := #[]
  scopes : Array Scope := #[]
  /-- The description of every symbol. -/
  symbols : Array (Option Units) := #[]
  limits : Limits := {}
  /-- Calls in progress. -/
  depth : Nat := 0
  /-- Loop iterations counted in the current call. -/
  loops : Nat := 0
  /-- The place of the call being made, for error objects. -/
  site : Option Pos := none
  deriving Inhabited

namespace Realm

def globalScope : Nat := 0

def obj (r : Realm) (i : Nat) : Obj := r.heap[i]!

def modifyObj (r : Realm) (i : Nat) (f : Obj → Obj) : Realm :=
  { r with heap := r.heap.modify i f }

def alloc (r : Realm) (o : Obj) : Nat × Realm := (r.heap.size, { r with heap := r.heap.push o })

def scope (r : Realm) (i : Nat) : Scope := r.scopes[i]!

def newScope (r : Realm) (s : Scope) : Nat × Realm :=
  (r.scopes.size, { r with scopes := r.scopes.push s })

def modifyScope (r : Realm) (i : Nat) (f : Scope → Scope) : Realm :=
  { r with scopes := r.scopes.modify i f }

def newSymbol (r : Realm) (desc : Option Units) : Nat × Realm :=
  (r.symbols.size, { r with symbols := r.symbols.push desc })

def ownProp? (r : Realm) (i : Nat) (k : Key) : Option Property := (r.obj i).props.find? k

def putProp (r : Realm) (i : Nat) (k : Key) (p : Property) : Realm :=
  r.modifyObj i fun o => { o with props := o.props.insert k p }

def dropProp (r : Realm) (i : Nat) (k : Key) : Realm :=
  r.modifyObj i fun o => { o with props := o.props.erase k }

end Realm

namespace Scope

def find? (s : Scope) (n : String) : Option Binding :=
  (s.names.find? (fun e => e.1 == n)).map Prod.snd

def bind (s : Scope) (n : String) (b : Binding) : Scope :=
  match s.names.findIdx? (fun e => e.1 == n) with
  | some j => { s with names := s.names.set! j (n, b) }
  | none => { s with names := s.names.push (n, b) }

end Scope

end ScriptBridge.Script
