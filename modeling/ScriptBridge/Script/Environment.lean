import ScriptBridge.Script.Object

/-!
# Variable environments

Names are looked up from the innermost scope outward. Scope `0` holds the global `let`,
`const` and `class` declarations; a name found in no scope is a property of the global object,
and a name that is not even that is an error. `this` is taken from the nearest function scope,
or the global object at the top; reading it in a derived class's constructor before the parent
constructor ran is an error. `super` and `new.target` are taken from the nearest scope of a
function call that is not an arrow function.
-/

namespace ScriptBridge.Script

namespace Env

def resolveAt (r : Realm) : Nat → Nat → String → Option Nat
  | 0, _, _ => none
  | f + 1, s, n =>
    let sc := r.scope s
    if (sc.find? n).isSome then some s
    else match sc.parent with
      | some p => resolveAt r f p n
      | none => none

def resolve (r : Realm) (s : Nat) (n : String) : Option Nat := resolveAt r (r.scopes.size + 1) s n

def thisScopeAt (r : Realm) : Nat → Nat → Option Nat
  | 0, _ => none
  | f + 1, s =>
    let sc := r.scope s
    if sc.thisPending || sc.this?.isSome then some s
    else match sc.parent with
      | some p => thisScopeAt r f p
      | none => none

def thisPendingMessage : String :=
  "Must call super constructor in derived class before accessing 'this' or returning from derived constructor"

def thisValue (s : Nat) : M Value := do
  let r ← get
  match thisScopeAt r (r.scopes.size + 1) s with
  | some t =>
    let sc := r.scope t
    if sc.thisPending then M.referenceError thisPendingMessage
    else pure (sc.this?.getD (.obj Intrinsic.globalObject.ref))
  | none => pure (.obj Intrinsic.globalObject.ref)

def bindThis (s : Nat) (v : Value) : M Unit := do
  let r ← get
  match thisScopeAt r (r.scopes.size + 1) s with
  | some t =>
    if (r.scope t).thisPending then
      modify fun r => r.modifyScope t fun sc => { sc with this? := some v, thisPending := false }
    else M.referenceError "super constructor may only be called once"
  | none => M.syntaxError "'super' keyword unexpected here"

def frameAt (r : Realm) : Nat → Nat → Option Frame
  | 0, _ => none
  | f + 1, s =>
    let sc := r.scope s
    match sc.frame? with
    | some fr => some fr
    | none => match sc.parent with
      | some p => frameAt r f p
      | none => none

def frameOf (r : Realm) (s : Nat) : Option Frame := frameAt r (r.scopes.size + 1) s

def globalRef : Nat := Intrinsic.globalObject.ref

def undefinedMessage (n : String) : String := n ++ " is not defined"

def getVar (ops : Ops) (s : Nat) (n : String) : M Value := do
  let r ← get
  match resolve r s n with
  | some t => match (r.scope t).find? n with
    | some b =>
      if b.ready then pure b.value
      else M.referenceError ("access of uninitialized binding " ++ n)
    | none => M.referenceError (undefinedMessage n)
  | none =>
    let k := Key.ofString n
    if ← Objects.has ops globalRef k then Objects.getKey ops globalRef k
    else M.referenceError (undefinedMessage n)

def isBound (ops : Ops) (s : Nat) (n : String) : M Bool := do
  if (resolve (← get) s n).isSome then pure true
  else Objects.has ops globalRef (Key.ofString n)

def setVar (ops : Ops) (s : Nat) (n : String) (v : Value) (strict : Bool) : M Unit := do
  let r ← get
  match resolve r s n with
  | some t => match (r.scope t).find? n with
    | some b =>
      if !b.ready then M.referenceError ("access of uninitialized binding " ++ n)
      else if !b.mutable then M.typeError ("cannot assign to constant variable " ++ n)
      else modify fun r => r.modifyScope t fun sc => sc.bind n { b with value := v }
    | none => M.referenceError (undefinedMessage n)
  | none =>
    let k := Key.ofString n
    if strict && !(← Objects.has ops globalRef k) then M.referenceError (undefinedMessage n)
    else
      let ok ← Objects.setWith ops globalRef k v (.obj globalRef)
      if !ok && strict then M.typeError ("cannot set non-writable property: " ++ n)

def declare (s : Nat) (n : String) (b : Binding) : M Unit :=
  modify fun r => r.modifyScope s fun sc => sc.bind n b

def initBinding (s : Nat) (n : String) (v : Value) : M Unit :=
  modify fun r => r.modifyScope s fun sc => match sc.find? n with
    | some b => sc.bind n { b with value := v, ready := true }
    | none => sc.bind n ⟨v, true, true⟩

def enter (parent : Nat) (this? : Option Value := none) : M Nat :=
  modifyGet fun r => r.newScope { parent := some parent, this? }

def copy (s : Nat) : M Nat :=
  modifyGet fun r => r.newScope (r.scope s)

end Env

end ScriptBridge.Script
