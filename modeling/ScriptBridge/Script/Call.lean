import ScriptBridge.Script.Invoke
import ScriptBridge.Script.Builtins.Dispatch

/-!
# Calling and constructing functions

This module ties the knot between the evaluator and the functions it calls. `callAt`,
`constructAt` and `evalAt` take a fuel argument, the nesting depth they may still reach, and hand
the evaluator and the built-ins an `Ops` built from themselves one level down; so every call of a
function, however it is reached, goes through here.

Each call of a script function is a frame. A frame may not be entered when as many frames are
already running as the recursion limit allows, and each frame counts its own loop iterations;
both counts are restored when the frame ends, normally or not. Built-in functions run without a
frame of their own.
-/

namespace ScriptBridge.Script

namespace Calls

def recursionMessage : String := "exceeded maximum number of recursive calls"

def inFrame {α : Type} (body : M α) : M α := do
  let r ← get
  if r.limits.recursion ≤ r.depth then throw (.limit recursionMessage)
  let depth := r.depth
  let loops := r.loops
  set { r with depth := depth + 1, loops := 0 }
  let restore : M Unit := modify fun r => { r with depth, loops }
  let v ← tryCatch body fun e => do
    restore
    throw e
  restore
  pure v

def argumentsArray (args : List Value) : M Value := do pure (.obj (← M.newArray args))

def initFields (ops : Ops) (c : Closure) (ctor o : Nat) : List Field → M Unit
  | [] => pure ()
  | fd :: rest => do
    let v ← inFrame (Invoke.fieldValue ops c ctor o fd)
    Objects.createDataOrThrow ops o fd.key v
    initFields ops c ctor o rest

def classFields (ops : Ops) (ctor o : Nat) : M Unit := do
  match (← M.obj ctor).kind with
  | .closure c => initFields ops c ctor o c.fields
  | _ => pure ()

mutual

def callAt : Nat → Value → Value → List Value → M Value
  | 0, _, _, _ => throw .exhausted
  | f + 1, fv, thisV, args => do
    let ops : Ops :=
      { call := callAt f, construct := constructAt f, evalScript := evalAt f, initFields := fieldsAt f }
    match fv with
    | .obj o => do
      match (← M.obj o).kind with
      | .closure c =>
        if c.isClass then M.typeError "class constructor cannot be invoked without 'new'"
        else do pure (← inFrame (Invoke.runFunction ops c o (some thisV) args .undefined)).1
      | .native n => Builtins.run n { ops, this := thisV, args, newTarget := none }
      | .bound t bthis bargs => callAt f (.obj t) bthis (bargs ++ args)
      | .proxy t h => do
        match ← Objects.trapAt ops (← Objects.chainBound) h "apply" with
        | some trap => ops.call trap (.obj h) [.obj t, thisV, ← argumentsArray args]
        | none => callAt f (.obj t) thisV args
      | _ => M.typeError "not a callable function"
    | _ => M.typeError "not a callable function"

def constructAt : Nat → Value → List Value → Value → M Value
  | 0, _, _, _ => throw .exhausted
  | f + 1, fv, args, newTarget => do
    let ops : Ops :=
      { call := callAt f, construct := constructAt f, evalScript := evalAt f, initFields := fieldsAt f }
    if !(← get).isConstructor fv then M.typeError "not a constructor"
    match fv with
    | .obj o => do
      match (← M.obj o).kind with
      | .closure c => do
        match c.heritage with
        | none => do
          let proto ← Builtins.protoFor ops (some newTarget) .objectPrototype
          let t ← M.newObject (some proto)
          initFields ops c o t c.fields
          let (res, _) ← inFrame (Invoke.runFunction ops c o (some (.obj t)) args newTarget)
          match res with
          | .obj _ => pure res
          | _ => pure (.obj t)
        | some _ => do
          -- a derived constructor binds `this` by calling its parent's
          let (res, thisV) ← inFrame (Invoke.runFunction ops c o none args newTarget)
          match res, thisV with
          | .obj _, _ => pure res
          | .undefined, some t => pure t
          | .undefined, none => M.referenceError Env.thisPendingMessage
          | _, _ => M.typeError "derived constructor can only return an Object or undefined"
      | .native n => Builtins.run n { ops, this := .undefined, args, newTarget := some newTarget }
      | .bound t _ bargs =>
        let nt := match newTarget with
          | .obj x => if x == o then Value.obj t else newTarget
          | _ => newTarget
        constructAt f (.obj t) (bargs ++ args) nt
      | .proxy t h => do
        match ← Objects.trapAt ops (← Objects.chainBound) h "construct" with
        | some trap => do
          let res ← ops.call trap (.obj h) [.obj t, ← argumentsArray args, newTarget]
          match res with
          | .obj _ => pure res
          | _ => M.typeError "proxy trap returned a non-object"
        | none => constructAt f (.obj t) args newTarget
      | _ => M.typeError "not a constructor"
    | _ => M.typeError "not a constructor"

def evalAt : Nat → Units → M Value
  | 0, _ => throw .exhausted
  | f + 1, src => do
    let ops : Ops :=
      { call := callAt f, construct := constructAt f, evalScript := evalAt f, initFields := fieldsAt f }
    inFrame (Invoke.evalSource ops (Units.toLossy src) true)

def fieldsAt : Nat → Nat → Nat → M Unit
  | 0, _, _ => throw .exhausted
  | f + 1, ctor, o => do
    let ops : Ops :=
      { call := callAt f, construct := constructAt f, evalScript := evalAt f, initFields := fieldsAt f }
    classFields ops ctor o

end

def opsWith (fuel : Nat) : Ops :=
  { call := callAt fuel, construct := constructAt fuel, evalScript := evalAt fuel,
    initFields := fieldsAt fuel }

end Calls

end ScriptBridge.Script
