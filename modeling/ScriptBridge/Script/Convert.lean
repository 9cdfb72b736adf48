import ScriptBridge.Script.Object

/-!
# Conversions between values

The conversions the language applies implicitly: an object becomes a primitive through its
`Symbol.toPrimitive`, `valueOf` or `toString` method; primitives become numbers, strings,
property keys and wrapper objects by fixed rules. Reading and writing a property of any value
goes through these: a primitive base reads from its prototype, and `undefined` and `null`
refuse.
-/

namespace ScriptBridge.Script

/-- The preferred type when an object is turned into a primitive. -/
inductive Hint where
  | default | number | string
  deriving BEq, Inhabited

def Hint.name : Hint → String
  | .default => "default"
  | .number => "number"
  | .string => "string"

def nullishMessage : String := "cannot convert 'null' or 'undefined' to object"

def bigintText (n : Int) : Units := Units.ofString (toString n)

namespace Convert

def protoOfPrimitive : Value → Option Intrinsic
  | .str _ => some .stringPrototype
  | .num _ => some .numberPrototype
  | .bool _ => some .booleanPrototype
  | .bigint _ => some .bigintPrototype
  | .sym _ => some .symbolPrototype
  | _ => none

def toObject (v : Value) : M Nat :=
  match v with
  | .obj o => pure o
  | _ => match protoOfPrimitive v with
    | some p => M.alloc { proto := some p.ref, kind := .boxed v }
    | none => M.typeError nullishMessage

def getValue (ops : Ops) (base : Value) (k : Key) : M Value :=
  match base with
  | .obj o => Objects.getWith ops o k base
  | .str s => match stringOwn? s k with
    | some ⟨.data v _, _, _⟩ => pure v
    | _ => Objects.getWith ops Intrinsic.stringPrototype.ref k base
  | _ => match protoOfPrimitive base with
    | some p => Objects.getWith ops p.ref k base
    | none => M.typeError nullishMessage

def putValue (ops : Ops) (base : Value) (k : Key) (v : Value) (strict : Bool) : M Unit := do
  let o ← toObject base
  let ok ← Objects.setWith ops o k v base
  if !ok && strict then
    M.typeError ("cannot set non-writable property: " ++ (← get).keyText k)

def getMethod (ops : Ops) (v : Value) (k : Key) : M (Option Value) := do
  let f ← getValue ops v k
  if f.isNullish then pure none
  else if (← get).isCallable f then pure (some f)
  else M.typeError "not a callable function"

def ordinaryToPrimitive (ops : Ops) (o : Nat) (hint : Hint) : M Value := do
  let names := if hint == .string then ["toString", "valueOf"] else ["valueOf", "toString"]
  let tryName (acc : Option Value) (name : String) : M (Option Value) := do
    match acc with
    | some r => pure (some r)
    | none => do
      let f ← Objects.getKey ops o (Key.ofString name)
      if (← get).isCallable f then do
        let r ← ops.call f (.obj o) []
        match r with
        | .obj _ => pure none
        | _ => pure (some r)
      else pure none
  match ← names.foldlM tryName none with
  | some r => pure r
  | none => M.typeError "cannot convert object to primitive value"

def toPrimitive (ops : Ops) (v : Value) (hint : Hint) : M Value := do
  match v with
  | .obj o => do
    match ← getMethod ops v WellKnown.toPrimitive.key with
    | some ex => do
      let r ← ops.call ex v [Value.ofString hint.name]
      match r with
      | .obj _ => M.typeError "Symbol.toPrimitive cannot return an object"
      | _ => pure r
    | none => do
      let isDate := match (← M.obj o).kind with
        | .date _ => true
        | _ => false
      let hint := if hint == .default && isDate then .string else hint
      ordinaryToPrimitive ops o hint
  | _ => pure v

def primToNumber (v : Value) : M Float :=
  match v with
  | .bigint _ => M.typeError "cannot convert a BigInt value to a number"
  | .sym _ => M.typeError "cannot convert a Symbol value to a number"
  | _ => pure v.primitiveNumber

def toNumber (ops : Ops) (v : Value) : M Float := do
  primToNumber (← toPrimitive ops v .number)

def toNumeric (ops : Ops) (v : Value) : M Value := do
  let p ← toPrimitive ops v .number
  match p with
  | .bigint _ => pure p
  | _ => pure (.num (← primToNumber p))

def primToString (v : Value) : M Units :=
  match v with
  | .undefined => pure (Units.ofString "undefined")
  | .null => pure (Units.ofString "null")
  | .bool b => pure (Units.ofString (if b then "true" else "false"))
  | .num x => pure (Numeric.text x)
  | .str s => pure s
  | .bigint n => pure (bigintText n)
  | .sym _ => M.typeError "cannot convert a Symbol value to a string"
  | .obj _ => pure (Units.ofString "[object Object]")

def toString (ops : Ops) (v : Value) : M Units := do
  primToString (← toPrimitive ops v .string)

def toKey (ops : Ops) (v : Value) : M Key := do
  match v with
  | .str s => pure (.str s)
  | .sym i => pure (.sym i)
  | .num x => pure (.str (Numeric.text x))
  | _ => do
    let p ← toPrimitive ops v .string
    match p with
    | .sym i => pure (.sym i)
    | _ => pure (.str (← primToString p))

def toIntegerOrInfinity (ops : Ops) (v : Value) : M Float := do
  let x ← toNumber ops v
  if x.isNaN then pure 0
  else if x.isInf then pure x
  else pure (match Numeric.truncInt? x with
    | some n => Numeric.ofInt n
    | none => 0)

def toLength (ops : Ops) (v : Value) : M Nat := do
  let x ← toIntegerOrInfinity ops v
  if x ≤ 0 then pure 0
  else if x.isInf then pure 9007199254740991
  else pure (min ((Numeric.truncInt? x).getD 0).toNat 9007199254740991)

def lengthOf (ops : Ops) (o : Nat) : M Nat := do
  toLength ops (← Objects.getKey ops o lengthKey)

def relativeIndex (ops : Ops) (v : Value) (len : Nat) (dflt : Nat) : M Nat := do
  match v with
  | .undefined => pure dflt
  | _ => do
    let x ← toIntegerOrInfinity ops v
    if x < 0 then
      if x.isInf then pure 0
      else
        let n := ((Numeric.truncInt? x).getD 0)
        pure ((len : Int) + n).toNat
    else if x.isInf then pure len
    else pure (min ((Numeric.truncInt? x).getD 0).toNat len)

def listOf (ops : Ops) (o : Nat) : M (List Value) := do
  let n ← lengthOf ops o
  (List.range n).mapM fun i => Objects.getKey ops o (Key.ofIndex i)

def toBigInt (ops : Ops) (v : Value) : M Int := do
  let p ← toPrimitive ops v .number
  match p with
  | .bigint n => pure n
  | .bool b => pure (if b then 1 else 0)
  | .str s => match Numeric.bigintOfText? s with
    | some n => pure n
    | none => M.syntaxError ("cannot convert string to a BigInt")
  | .num _ => M.typeError "cannot convert Number to a BigInt"
  | .undefined => M.typeError "cannot convert undefined to a BigInt"
  | .null => M.typeError "cannot convert null to a BigInt"
  | .sym _ => M.typeError "cannot convert Symbol to a BigInt"
  | .obj _ => M.typeError "cannot convert object to a BigInt"

end Convert

end ScriptBridge.Script
