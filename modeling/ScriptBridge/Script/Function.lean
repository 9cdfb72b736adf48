import ScriptBridge.Script.Machine

/-!
# Function objects

A function object carries `length` and `name`, both read-only and hidden from enumeration. An
ordinary function also gets a fresh `prototype` object whose `constructor` points back to it;
arrow functions, methods and accessors get none. Built-in functions are made the same way from
their `Native` tag.
-/

namespace ScriptBridge.Script

def functionMeta (v : Value) : Property := ⟨.data v false, false, true⟩

def keyName (r : Realm) : Key → String
  | .str s => Units.toLossy s
  | .sym i => match (r.symbols[i]?).bind id with
    | some d => "[" ++ Units.toLossy d ++ "]"
    | none => ""

namespace M

def makeFunction (kind : ObjKind) (arity : Nat) (name : String) (withPrototype : Bool) : M Nat := do
  let f ← alloc { proto := some Intrinsic.functionPrototype.ref, kind }
  modify fun r => r.putProp f (Key.ofString "length")
    (functionMeta (.num (Float.ofNat arity)))
  modify fun r => r.putProp f (Key.ofString "name") (functionMeta (Value.ofString name))
  if withPrototype then
    let p ← newObject (some Intrinsic.objectPrototype.ref)
    modify fun r => r.putProp p (Key.ofString "constructor") (Property.hidden (.obj f))
    modify fun r => r.putProp f (Key.ofString "prototype") ⟨.data (.obj p) true, false, false⟩
  pure f

def makeClosure (c : Closure) (name : String) : M Nat :=
  let withPrototype := match c.func.kind with
    | .normal => true
    | _ => false
  makeFunction (.closure c) c.func.arity name withPrototype

def makeNative (n : Native) : M Nat := makeFunction (.native n) n.arity n.name false

end M

end ScriptBridge.Script
