import ScriptBridge.Script.Iteration
import ScriptBridge.Script.Function

/-!
# What built-in functions share

A built-in function receives one `Call`: the calling convention, the receiver, the arguments and,
under `new`, the constructor that `new` was applied to. The helpers here are the steps many
built-ins take: requiring an object, finding the prototype a constructor hands to new objects,
making arrays, and listing an object's enumerable keys.
-/

namespace ScriptBridge.Script.Builtins

/-- One invocation of a built-in function. -/
structure Call where
  ops : Ops
  this : Value
  args : List Value
  /-- The constructor `new` was applied to, or `none` for a plain call. -/
  newTarget : Option Value

namespace Call

def arg (c : Call) (i : Nat) : Value := argAt c.args i

end Call

def maxLength : Nat := 9007199254740991

def requireObject (v : Value) (msg : String) : M Nat :=
  match v with
  | .obj o => pure o
  | _ => M.typeError msg

def protoFor (ops : Ops) (newTarget : Option Value) (fallback : Intrinsic) : M Nat := do
  match newTarget with
  | some (.obj t) => do
    match ← Objects.getKey ops t (Key.ofString "prototype") with
    | .obj p => pure p
    | _ => pure fallback.ref
  | _ => pure fallback.ref

def arrayCreate (proto : Nat) (len : Nat) : M Nat :=
  if len > Key.indexBound then M.rangeError "invalid array length"
  else M.alloc { proto := some proto, kind := .array len true }

def arrayValue (vs : List Value) : M Value := do pure (.obj (← M.newArray vs))

def requireCallable (v : Value) (msg : String) : M Value := do
  if (← get).isCallable v then pure v else M.typeError msg

def reachesAt (r : Realm) (o : Nat) : Nat → Option Nat → Bool
  | 0, _ => false
  | _ + 1, none => false
  | f + 1, some p =>
    if p == o then true
    else match (r.obj p).kind with
      | .proxy _ _ => false
      | _ => reachesAt r o f (r.obj p).proto

def setProtoAt (ops : Ops) : Nat → Nat → Option Nat → M Bool
  | 0, _, _ => throw .exhausted
  | f + 1, o, p => do
    let ob ← M.obj o
    match ob.kind with
    | .proxy t _ => setProtoAt ops f t p
    | _ =>
      if ob.proto == p then pure true
      else if !ob.extensible then pure false
      else if reachesAt (← get) o ((← get).heap.size + 1) p then pure false
      else do
        M.modifyObj o fun ob => { ob with proto := p }
        pure true

def setProto (ops : Ops) (o : Nat) (p : Option Nat) : M Bool := do
  setProtoAt ops (← Objects.chainBound) o p

def enumerableOwnKeys (ops : Ops) (o : Nat) : M (List Key) := do
  let ks ← Objects.ownKeys ops o
  ks.filterM fun k => match k with
    | .sym _ => pure false
    | .str _ => do
      match ← Objects.getOwn ops o k with
      | some p => pure p.enumerable
      | none => pure false

def ownStringKeys (ops : Ops) (o : Nat) : M (List Key) := do
  let ks ← Objects.ownKeys ops o
  pure (ks.filter fun
    | .str _ => true
    | .sym _ => false)

def toIndex (ops : Ops) (v : Value) : M Nat := do
  match v with
  | .undefined => pure 0
  | _ => do
    let x ← Convert.toIntegerOrInfinity ops v
    if x < 0 || x.isInf || x > 9007199254740991 then M.rangeError "Index must be between 0 and  2^53 - 1"
    else pure ((Numeric.truncInt? x).getD 0).toNat

def speciesCreate (ops : Ops) (original : Nat) (len : Nat) : M Nat := do
  if !(← get).isArray (.obj original) then arrayCreate Intrinsic.arrayPrototype.ref len
  else
    let ctor ← Objects.getKey ops original (Key.ofString "constructor")
    let ctor ← match ctor with
      | .obj co => do
        let s ← Objects.getKey ops co WellKnown.species.key
        pure (if s matches .null then Value.undefined else s)
      | v => pure v
    match ctor with
    | .undefined => arrayCreate Intrinsic.arrayPrototype.ref len
    | _ =>
      if !(← get).isConstructor ctor then M.typeError "not a constructor"
      else do
        match ← ops.construct ctor [Value.ofNat len] ctor with
        | .obj a => pure a
        | _ => M.typeError "species constructor did not return an object"

def symbolDescriptive (r : Realm) (i : Nat) : Units :=
  Units.ofString "Symbol(" ++ ((r.symbols[i]?).bind id).getD #[] ++ Units.ofString ")"

def indexValue : Option Nat → Value
  | some k => Value.ofNat k
  | none => .num (-1)

def indexKey (n : Nat) : Key := Key.ofIndex n

end ScriptBridge.Script.Builtins
