import ScriptBridge.Script.Builtins.Support

/-!
# Built-ins about objects and functions

`Object` and its prototype, the methods every function inherits, `Reflect`, `Proxy`, the error
constructors, `Symbol`, `Boolean` and `Date`. Each follows the language's steps in order, since
the order in which properties are read and written can be seen through getters and proxies.
-/

namespace ScriptBridge.Script.Builtins

/-! ## Object -/

def objectCtor (c : Call) : M Value := do
  match c.arg 0 with
  | .undefined | .null => do
    pure (.obj (← M.newObject (some (← protoFor c.ops c.newTarget .objectPrototype))))
  | v => do pure (.obj (← Convert.toObject v))

def ownEntries (c : Call) (entry : Key → Value → M Value) : M Value := do
  let o ← Convert.toObject (c.arg 0)
  let ks ← Objects.ownKeys c.ops o
  let vs ← ks.filterMapM fun k => match k with
    | .sym _ => pure none
    | .str _ => do
      match ← Objects.getOwn c.ops o k with
      | some p =>
        if p.enumerable then do pure (some (← entry k (← Objects.getKey c.ops o k)))
        else pure none
      | none => pure none
  arrayValue vs

def objectKeys (c : Call) : M Value := do
  let o ← Convert.toObject (c.arg 0)
  arrayValue ((← enumerableOwnKeys c.ops o).map Key.toValue)

def objectValues (c : Call) : M Value := ownEntries c fun _ v => pure v

def objectEntries (c : Call) : M Value := ownEntries c fun k v => arrayValue [k.toValue, v]

def objectAssign (c : Call) : M Value := do
  let t ← Convert.toObject (c.arg 0)
  for src in c.args.drop 1 do
    if !src.isNullish then
      let s ← Convert.toObject src
      for k in ← Objects.ownKeys c.ops s do
        match ← Objects.getOwn c.ops s k with
        | some p =>
          if p.enumerable then
            let v ← Objects.getKey c.ops s k
            Objects.setOrThrow c.ops t k v
        | none => pure ()
  pure (.obj t)

def protoMessage (r : Realm) (v : Value) : String :=
  "Object prototype may only be an Object or null: " ++ match v with
    | .str s => Units.toEscaped s
    | .sym i => r.symbolText i
    | .num x => Decimal.scriptText x
    | .bool b => if b then "true" else "false"
    | .bigint n => toString n ++ "n"
    | .undefined => "undefined"
    | .null => "null"
    | .obj _ => "[object Object]"

def defineProperties (ops : Ops) (o : Nat) (props : Value) : M Unit := do
  let p ← Convert.toObject props
  let ks ← Objects.ownKeys ops p
  let descs ← ks.filterMapM fun k => do
    match ← Objects.getOwn ops p k with
    | some prop =>
      if prop.enumerable then
        match ← Objects.getKey ops p k with
        | .obj d => do pure (some (k, ← Objects.toDescriptor ops d))
        | _ => M.typeError "Property description must be an object"
      else pure none
    | none => pure none
  for (k, d) in descs do
    if !(← Objects.define ops o k d) then
      M.typeError ("cannot redefine property: " ++ (← get).keyText k)

def objectCreate (c : Call) : M Value := do
  let proto ← match c.arg 0 with
    | .obj p => pure (some p)
    | .null => pure none
    | v => do M.typeError (protoMessage (← get) v)
  let o ← M.newObject proto
  if !(c.arg 1 matches .undefined) then defineProperties c.ops o (c.arg 1)
  pure (.obj o)

def setIntegrity (ops : Ops) (o : Nat) (frozen : Bool) : M Bool := do
  if !(← Objects.preventExtensions ops o) then return false
  for k in ← Objects.ownKeys ops o do
    let d : Option Descriptor ← if frozen then do
        match ← Objects.getOwn ops o k with
        | some p => match p.slot with
          | .accessor _ _ => pure (some { configurable := some false })
          | .data _ _ => pure (some { configurable := some false, writable := some false })
        | none => pure none
      else pure (some { configurable := some false })
    if let some d := d then
      if !(← Objects.define ops o k d) then
        M.typeError ("cannot redefine property: " ++ (← get).keyText k)
  pure true

def testIntegrity (ops : Ops) (o : Nat) (frozen : Bool) : M Bool := do
  if ← Objects.isExtensible ops o then return false
  for k in ← Objects.ownKeys ops o do
    match ← Objects.getOwn ops o k with
    | some p =>
      if p.configurable then return false
      if frozen then
        if let .data _ true := p.slot then return false
    | none => pure ()
  pure true

def objectFreeze (frozen : Bool) (c : Call) : M Value := do
  match c.arg 0 with
  | .obj o => do
    if !(← setIntegrity c.ops o frozen) then
      M.typeError (if frozen then "cannot freeze object" else "cannot seal object")
    pure (.obj o)
  | v => pure v

def objectIsFrozen (frozen : Bool) (c : Call) : M Value := do
  match c.arg 0 with
  | .obj o => do pure (.bool (← testIntegrity c.ops o frozen))
  | _ => pure (.bool true)

def objectPreventExtensions (c : Call) : M Value := do
  match c.arg 0 with
  | .obj o => do
    if !(← Objects.preventExtensions c.ops o) then M.typeError "cannot prevent extensions"
    pure (.obj o)
  | v => pure v

def objectIsExtensible (c : Call) : M Value := do
  match c.arg 0 with
  | .obj o => do pure (.bool (← Objects.isExtensible c.ops o))
  | _ => pure (.bool false)

def objectDefineProperty (c : Call) : M Value := do
  match c.arg 0 with
  | .obj o => do
    let k ← Convert.toKey c.ops (c.arg 1)
    let d ← match c.arg 2 with
      | .obj a => Objects.toDescriptor c.ops a
      | _ => M.typeError "Property description must be an object"
    if !(← Objects.define c.ops o k d) then
      M.typeError ("cannot redefine property: " ++ (← get).keyText k)
    pure (.obj o)
  | _ => M.typeError "Object.defineProperty called on non-object"

def objectDefineProperties (c : Call) : M Value := do
  match c.arg 0 with
  | .obj o => do
    defineProperties c.ops o (c.arg 1)
    pure (.obj o)
  | _ => M.typeError "Object.defineProperties called on non-object"

def objectGetOwnPropertyNames (c : Call) : M Value := do
  let o ← Convert.toObject (c.arg 0)
  arrayValue ((← ownStringKeys c.ops o).map Key.toValue)

def ownDescriptor (ops : Ops) (o : Nat) (k : Key) : M Value := do
  match ← Objects.getOwn ops o k with
  | some p => do pure (.obj (← descriptorObject (Descriptor.ofProperty p)))
  | none => pure .undefined

def objectGetOwnPropertyDescriptor (c : Call) : M Value := do
  let o ← Convert.toObject (c.arg 0)
  let k ← Convert.toKey c.ops (c.arg 1)
  ownDescriptor c.ops o k

def protoValue : Option Nat → Value
  | some p => .obj p
  | none => .null

def objectGetPrototypeOf (c : Call) : M Value := do
  let o ← Convert.toObject (c.arg 0)
  pure (protoValue (← Objects.protoOf c.ops o))

def objectSetPrototypeOf (c : Call) : M Value := do
  let v := c.arg 0
  if v.isNullish then M.typeError nullishMessage
  let p ← match c.arg 1 with
    | .obj p => pure (some p)
    | .null => pure none
    | w => do M.typeError (protoMessage (← get) w)
  match v with
  | .obj o => do
    if !(← setProto c.ops o p) then M.typeError "can't set prototype of this object"
    pure v
  | _ => pure v

def objectFromEntries (c : Call) : M Value := do
  if (c.arg 0).isNullish then M.typeError nullishMessage
  let o ← M.newObject (some Intrinsic.objectPrototype.ref)
  for e in ← Iteration.values c.ops (c.arg 0) do
    match e with
    | .obj eo => do
      let k ← Objects.getKey c.ops eo (Key.ofIndex 0)
      let v ← Objects.getKey c.ops eo (Key.ofIndex 1)
      let key ← Convert.toKey c.ops k
      Objects.createDataOrThrow c.ops o key v
    | _ => M.typeError "iterator value is not an entry object"
  pure (.obj o)

def hasOwnProperty (c : Call) : M Value := do
  let k ← Convert.toKey c.ops (c.arg 0)
  let o ← Convert.toObject c.this
  pure (.bool (← Objects.getOwn c.ops o k).isSome)

def protoChainHas (ops : Ops) (o : Nat) : Nat → Nat → M Bool
  | 0, _ => pure false
  | f + 1, v => do
    match ← Objects.protoOf ops v with
    | some p => if p == o then pure true else protoChainHas ops o f p
    | none => pure false

def isPrototypeOf (c : Call) : M Value := do
  match c.arg 0 with
  | .obj v => do
    let o ← Convert.toObject c.this
    pure (.bool (← protoChainHas c.ops o ((← get).heap.size + 1) v))
  | _ => pure (.bool false)

def propertyIsEnumerable (c : Call) : M Value := do
  let k ← Convert.toKey c.ops (c.arg 0)
  let o ← Convert.toObject c.this
  match ← Objects.getOwn c.ops o k with
  | some p => pure (.bool p.enumerable)
  | none => pure (.bool false)

def builtinTag (r : Realm) (o : Nat) : String :=
  match (r.obj o).kind with
  | .array _ _ => "Array"
  | .arguments => "Arguments"
  | .error _ _ => "Error"
  | .boxed (.bool _) => "Boolean"
  | .boxed (.num _) => "Number"
  | .boxed (.str _) => "String"
  | .date _ => "Date"
  | _ =>
    if r.isCallable (.obj o) then "Function"
    else if r.isArray (.obj o) then "Array"
    else "Object"

def objectToString (c : Call) : M Value := do
  match c.this with
  | .undefined => pure (Value.ofString "[object Undefined]")
  | .null => pure (Value.ofString "[object Null]")
  | v => do
    let o ← Convert.toObject v
    let tag ← match ← Objects.getKey c.ops o WellKnown.toStringTag.key with
      | .str s => pure s
      | _ => pure (Units.ofString (builtinTag (← get) o))
    pure (.str (Units.ofString "[object " ++ tag ++ Units.ofString "]"))

def toLocaleString (c : Call) : M Value := do
  let f ← Convert.getValue c.ops c.this (Key.ofString "toString")
  if !(← get).isCallable f then M.typeError "not a callable function"
  c.ops.call f c.this []

def objectValueOf (c : Call) : M Value := do pure (.obj (← Convert.toObject c.this))

/-! ## Functions -/

def functionCall (c : Call) : M Value := do
  let f ← requireCallable c.this "not a callable function"
  c.ops.call f (c.arg 0) (c.args.drop 1)

def argumentList (ops : Ops) (v : Value) : M (List Value) := do
  match v with
  | .undefined | .null => pure []
  | .obj a => Convert.listOf ops a
  | _ => M.typeError "CreateListFromArrayLike called on non-object"

def functionApply (c : Call) : M Value := do
  let f ← requireCallable c.this "not a callable function"
  c.ops.call f (c.arg 0) (← argumentList c.ops (c.arg 1))

def functionBind (c : Call) : M Value := do
  let _ ← requireCallable c.this "not a callable function"
  match c.this with
  | .obj t => do
    let args := c.args.drop 1
    let proto ← Objects.protoOf c.ops t
    let b ← M.alloc { proto, kind := .bound t (c.arg 0) args }
    let len ← if (← Objects.getOwn c.ops t lengthKey).isSome then do
        match ← Objects.getKey c.ops t lengthKey with
        | .num x =>
          if x.isInf then pure (if x > 0 then x else 0)
          else
            let n := (Numeric.truncInt? x).getD 0
            pure (Numeric.ofInt (max 0 (n - args.length)))
        | _ => pure 0
      else pure 0
    let name ← match ← Objects.getKey c.ops t (Key.ofString "name") with
      | .str s => pure s
      | _ => pure #[]
    modify fun r => r.putProp b lengthKey (functionMeta (.num len))
    modify fun r => r.putProp b (Key.ofString "name")
      (functionMeta (.str (Units.ofString "bound " ++ name)))
    pure (.obj b)
  | _ => M.typeError "not a callable function"

def functionToString (c : Call) : M Value := do
  if !(← get).isCallable c.this then M.typeError "not a callable function"
  match c.this with
  | .obj f => do
    let name ← match ← Objects.getKey c.ops f (Key.ofString "name") with
      | .undefined | .null => pure #[]
      | v => Convert.toString c.ops v
    pure (.str (Units.ofString "function " ++ name ++ Units.ofString "() \x7b [native code] \x7d"))
  | _ => M.typeError "not a callable function"

/-! ## Reflect and Proxy -/

def reflectTarget (v : Value) : M Nat := requireObject v "target must be an object"

def reflectGet (c : Call) : M Value := do
  let t ← reflectTarget (c.arg 0)
  let k ← Convert.toKey c.ops (c.arg 1)
  let receiver := if c.args.length > 2 then c.arg 2 else .obj t
  Objects.getWith c.ops t k receiver

def reflectSet (c : Call) : M Value := do
  let t ← reflectTarget (c.arg 0)
  let k ← Convert.toKey c.ops (c.arg 1)
  let receiver := if c.args.length > 3 then c.arg 3 else .obj t
  pure (.bool (← Objects.setWith c.ops t k (c.arg 2) receiver))

def reflectHas (c : Call) : M Value := do
  let t ← reflectTarget (c.arg 0)
  let k ← Convert.toKey c.ops (c.arg 1)
  pure (.bool (← Objects.has c.ops t k))

def reflectOwnKeys (c : Call) : M Value := do
  let t ← reflectTarget (c.arg 0)
  arrayValue ((← Objects.ownKeys c.ops t).map Key.toValue)

def reflectGetPrototypeOf (c : Call) : M Value := do
  let t ← reflectTarget (c.arg 0)
  pure (protoValue (← Objects.protoOf c.ops t))

def reflectSetPrototypeOf (c : Call) : M Value := do
  let t ← reflectTarget (c.arg 0)
  let p ← match c.arg 1 with
    | .obj p => pure (some p)
    | .null => pure none
    | _ => M.typeError "proto must be an object or null"
  pure (.bool (← setProto c.ops t p))

def reflectDefineProperty (c : Call) : M Value := do
  let t ← reflectTarget (c.arg 0)
  let k ← Convert.toKey c.ops (c.arg 1)
  let d ← match c.arg 2 with
    | .obj a => Objects.toDescriptor c.ops a
    | _ => M.typeError "Property description must be an object"
  pure (.bool (← Objects.define c.ops t k d))

def reflectDeleteProperty (c : Call) : M Value := do
  let t ← reflectTarget (c.arg 0)
  let k ← Convert.toKey c.ops (c.arg 1)
  pure (.bool (← Objects.delete c.ops t k))

def reflectApply (c : Call) : M Value := do
  let f ← requireCallable (c.arg 0) "not a callable function"
  match c.arg 2 with
  | .obj a => c.ops.call f (c.arg 1) (← Convert.listOf c.ops a)
  | _ => M.typeError "CreateListFromArrayLike called on non-object"

def reflectConstruct (c : Call) : M Value := do
  let f := c.arg 0
  if !(← get).isConstructor f then M.typeError "not a constructor"
  let nt := if c.args.length > 2 then c.arg 2 else f
  if !(← get).isConstructor nt then M.typeError "not a constructor"
  match c.arg 1 with
  | .obj a => c.ops.construct f (← Convert.listOf c.ops a) nt
  | _ => M.typeError "CreateListFromArrayLike called on non-object"

def reflectGetOwnPropertyDescriptor (c : Call) : M Value := do
  let t ← reflectTarget (c.arg 0)
  let k ← Convert.toKey c.ops (c.arg 1)
  ownDescriptor c.ops t k

def reflectIsExtensible (c : Call) : M Value := do
  let t ← reflectTarget (c.arg 0)
  pure (.bool (← Objects.isExtensible c.ops t))

def reflectPreventExtensions (c : Call) : M Value := do
  let t ← reflectTarget (c.arg 0)
  pure (.bool (← Objects.preventExtensions c.ops t))

def proxyCtor (c : Call) : M Value := do
  if c.newTarget.isNone then M.typeError "Proxy constructor called without new"
  let t ← requireObject (c.arg 0) "Proxy constructor called with non-object target"
  let h ← requireObject (c.arg 1) "Proxy constructor called with non-object handler"
  pure (.obj (← M.alloc { proto := none, kind := .proxy t h }))

/-! ## Errors -/

def errorCtor (k : ErrorKind) (c : Call) : M Value := do
  let proto ← protoFor c.ops c.newTarget (Intrinsic.errorPrototypeOf k)
  let pos := (← get).site
  let o ← M.alloc { proto := some proto, kind := .error k pos }
  match c.arg 0 with
  | .undefined => pure ()
  | m => do
    let s ← Convert.toString c.ops m
    modify fun r => r.putProp o (Key.ofString "message") (Property.hidden (.str s))
  match c.arg 1 with
  | .obj opts => do
    let ck := Key.ofString "cause"
    if ← Objects.has c.ops opts ck then
      let v ← Objects.getKey c.ops opts ck
      modify fun r => r.putProp o ck (Property.hidden v)
  | _ => pure ()
  pure (.obj o)

def errorToString (c : Call) : M Value := do
  let o ← requireObject c.this "Error.prototype.toString called on non-object"
  let name ← match ← Objects.getKey c.ops o (Key.ofString "name") with
    | .undefined => pure (Units.ofString "Error")
    | v => Convert.toString c.ops v
  let msg ← match ← Objects.getKey c.ops o (Key.ofString "message") with
    | .undefined => pure #[]
    | v => Convert.toString c.ops v
  if name.isEmpty then pure (.str msg)
  else if msg.isEmpty then pure (.str name)
  else pure (.str (name ++ Units.ofString ": " ++ msg))

/-! ## Symbols, booleans and dates -/

def symbolCtor (c : Call) : M Value := do
  let desc ← match c.arg 0 with
    | .undefined => pure none
    | v => do pure (some (← Convert.toString c.ops v))
  pure (.sym (← M.newSymbol desc))

def thisSymbol (v : Value) : M Nat := do
  match v with
  | .sym i => pure i
  | .obj o => do
    match (← M.obj o).kind with
    | .boxed (.sym i) => pure i
    | _ => M.typeError "'this' is not a Symbol"
  | _ => M.typeError "'this' is not a Symbol"

def symbolToString (c : Call) : M Value := do
  let i ← thisSymbol c.this
  pure (.str (symbolDescriptive (← get) i))

def symbolValueOf (c : Call) : M Value := do pure (.sym (← thisSymbol c.this))

def symbolDescription (c : Call) : M Value := do
  let i ← thisSymbol c.this
  match ((← get).symbols[i]?).bind id with
  | some d => pure (.str d)
  | none => pure .undefined

def booleanCtor (c : Call) : M Value := do
  let b := (c.arg 0).truthy
  match c.newTarget with
  | none => pure (.bool b)
  | some _ => do
    let proto ← protoFor c.ops c.newTarget .booleanPrototype
    pure (.obj (← M.alloc { proto := some proto, kind := .boxed (.bool b) }))

def thisBoolean (v : Value) : M Bool := do
  match v with
  | .bool b => pure b
  | .obj o => do
    match (← M.obj o).kind with
    | .boxed (.bool b) => pure b
    | _ => M.typeError "'this' is not a Boolean"
  | _ => M.typeError "'this' is not a Boolean"

def booleanToString (c : Call) : M Value := do
  pure (Value.ofString (if ← thisBoolean c.this then "true" else "false"))

def booleanValueOf (c : Call) : M Value := do pure (.bool (← thisBoolean c.this))

def timeClip (t : Float) : Float :=
  if t.isNaN || t.isInf || t.abs > 8.64e15 then 0.0 / 0.0
  else match Numeric.truncInt? t with
    | some n => Numeric.ofInt n
    | none => 0.0 / 0.0

def dateCtor (c : Call) : M Value := do
  match c.newTarget with
  | none => pure (Value.ofString "Invalid Date")
  | some _ => do
    let t ← match c.args with
      | [] => pure 0
      | [v] => do
        match ← Convert.toPrimitive c.ops v .default with
        | .str _ => pure (0.0 / 0.0)
        | p => do pure (timeClip (← Convert.primToNumber p))
      | _ => pure (0.0 / 0.0)
    let proto ← protoFor c.ops c.newTarget .datePrototype
    pure (.obj (← M.alloc { proto := some proto, kind := .date t }))

def dateGetTime (c : Call) : M Value := do
  match c.this with
  | .obj o => do
    match (← M.obj o).kind with
    | .date t => pure (.num t)
    | _ => M.typeError "'this' is not a Date"
  | _ => M.typeError "'this' is not a Date"

end ScriptBridge.Script.Builtins
