import ScriptBridge.Host.Error

/-!
# Values as the host sees them

A script value crosses to the host as a `Foreign`: the primitives keep their value, an object
becomes a handle on it, and symbols and big integers become `other`, carrying only the engine's
text for them. Handles compare by the identity of the object they hold.
-/

namespace ScriptBridge.Host

/-- A host-side reference to a script object. -/
structure Handle where
  ref : Nat
  deriving BEq, Inhabited, Repr

namespace Handle

def sameObject (a b : Handle) : Bool := a.ref == b.ref

end Handle

/-- A script value on the host side. -/
inductive Foreign where
  | undefined
  | null
  | bool (b : Bool)
  | number (x : Float)
  | string (s : String)
  | object (h : Handle)
  /-- A value the host cannot rebuild, with its text. -/
  | other (shown : String)
  deriving Inhabited

namespace Foreign

def kind : Foreign → String
  | .undefined => "undefined"
  | .null => "null"
  | .bool _ => "boolean"
  | .number _ => "number"
  | .string _ => "string"
  | .object _ => "object"
  | .other _ => "other"

def isNullish : Foreign → Bool
  | .undefined | .null => true
  | _ => false

def intoHandle : Foreign → Except HostError Handle
  | .object h => .ok h
  | v => .error (.invalidReference v.kind)

def intoOptionalHandle (v : Foreign) : Except HostError (Option Handle) :=
  if v.isNullish then .ok none else v.intoHandle.map some

def asF64 : Foreign → Except HostError Float
  | .number x => .ok x
  | v => .error (.typeMismatch "number" v.kind)

def asBool : Foreign → Except HostError Bool
  | .bool b => .ok b
  | v => .error (.typeMismatch "boolean" v.kind)

def intoString : Foreign → Except HostError String
  | .string s => .ok s
  | v => .error (.typeMismatch "string" v.kind)

def eq : Foreign → Foreign → Bool
  | .undefined, .undefined => true
  | .null, .null => true
  | .bool a, .bool b => a == b
  | .number a, .number b => a == b
  | .string a, .string b => a == b
  | .object a, .object b => a.sameObject b
  | .other a, .other b => a == b
  | _, _ => false

end Foreign

end ScriptBridge.Host
