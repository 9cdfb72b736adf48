import ScriptBridge.Script.Builtins.Support

/-!
# Built-ins about arrays

`Array`, its prototype's methods and the byte arrays of `Uint8Array`. The prototype's methods
work on any object with a `length`: they read and write its properties one index at a time, in
the order the language fixes, so getters, holes and frozen elements behave as they would for
any generic object. Methods that make a new array make it through the receiver's species.
-/

namespace ScriptBridge.Script.Builtins

def arrayThis (c : Call) : M (Nat × Nat) := do
  let o ← Convert.toObject c.this
  pure (o, ← Convert.lengthOf c.ops o)

def arrayCtor (c : Call) : M Value := do
  let proto ← protoFor c.ops c.newTarget .arrayPrototype
  match c.args with
  | [] => do pure (.obj (← arrayCreate proto 0))
  | [.num x] =>
    let n := Numeric.toUint32 x
    if Numeric.ofRatio false n 1 != x then M.rangeError "invalid array length"
    else do pure (.obj (← arrayCreate proto n))
  | vs => do
    let a ← M.newArray vs
    M.modifyObj a fun ob => { ob with proto := some proto }
    pure (.obj a)

def arrayIsArray (c : Call) : M Value := do pure (.bool ((← get).isArray (c.arg 0)))

def arrayOf (c : Call) : M Value := arrayValue c.args

def arrayFrom (c : Call) : M Value := do
  let items := c.arg 0
  have mapFn := c.arg 1
  if !(mapFn matches .undefined) && !(← get).isCallable mapFn then
    M.typeError "Array.from: mapFn is not callable"
  if items.isNullish then M.typeError nullishMessage
  let iterable ← match items with
    | .str _ => pure true
    | _ => do pure (← Convert.getMethod c.ops items WellKnown.iterator.key).isSome
  let vs ← if iterable then Iteration.values c.ops items
    else do Convert.listOf c.ops (← Convert.toObject items)
  let vs ← if mapFn matches .undefined then pure vs
    else (vs.zipIdx).mapM fun (v, i) => c.ops.call mapFn (c.arg 2) [v, Value.ofNat i]
  arrayValue vs

def arraySpecies (c : Call) : M Value := pure c.this

def arrayPush (c : Call) : M Value := do
  let (o, len) ← arrayThis c
  if len + c.args.length > maxLength then M.typeError "array length overflow"
  let n ← c.args.foldlM (fun n v => do
    Objects.setOrThrow c.ops o (indexKey n) v
    pure (n + 1)) len
  Objects.setOrThrow c.ops o lengthKey (Value.ofNat n)
  pure (Value.ofNat n)

def arrayPop (c : Call) : M Value := do
  let (o, len) ← arrayThis c
  if len == 0 then
    Objects.setOrThrow c.ops o lengthKey (Value.ofNat 0)
    pure .undefined
  else
    let i := len - 1
    let e ← Objects.getKey c.ops o (indexKey i)
    Objects.deleteOrThrow c.ops o (indexKey i)
    Objects.setOrThrow c.ops o lengthKey (Value.ofNat i)
    pure e

def moveElement (ops : Ops) (o : Nat) (src dst : Nat) : M Unit := do
  if ← Objects.has ops o (indexKey src) then
    let v ← Objects.getKey ops o (indexKey src)
    Objects.setOrThrow ops o (indexKey dst) v
  else Objects.deleteOrThrow ops o (indexKey dst)

def arrayShift (c : Call) : M Value := do
  let (o, len) ← arrayThis c
  if len == 0 then
    Objects.setOrThrow c.ops o lengthKey (Value.ofNat 0)
    pure .undefined
  else
    let first ← Objects.getKey c.ops o (indexKey 0)
    for k in List.range' 1 (len - 1) do
      moveElement c.ops o k (k - 1)
    Objects.deleteOrThrow c.ops o (indexKey (len - 1))
    Objects.setOrThrow c.ops o lengthKey (Value.ofNat (len - 1))
    pure first

def arrayUnshift (c : Call) : M Value := do
  let (o, len) ← arrayThis c
  let n := c.args.length
  if n > 0 then
    if len + n > maxLength then M.typeError "array length overflow"
    for k in (List.range len).reverse do
      moveElement c.ops o k (k + n)
    for (v, j) in c.args.zipIdx do
      Objects.setOrThrow c.ops o (indexKey j) v
  Objects.setOrThrow c.ops o lengthKey (Value.ofNat (len + n))
  pure (Value.ofNat (len + n))

def copyRange (ops : Ops) (o a : Nat) (start stop : Nat) : M Unit := do
  for k in List.range' start (stop - start) do
    if ← Objects.has ops o (indexKey k) then
      let v ← Objects.getKey ops o (indexKey k)
      Objects.createDataOrThrow ops a (indexKey (k - start)) v
  Objects.setOrThrow ops a lengthKey (Value.ofNat (stop - start))

def arraySlice (c : Call) : M Value := do
  let (o, len) ← arrayThis c
  let k ← Convert.relativeIndex c.ops (c.arg 0) len 0
  let final ← Convert.relativeIndex c.ops (c.arg 1) len len
  let a ← speciesCreate c.ops o (final - k)
  copyRange c.ops o a k (max k final)
  pure (.obj a)

def arraySplice (c : Call) : M Value := do
  let (o, len) ← arrayThis c
  let start ← Convert.relativeIndex c.ops (c.arg 0) len 0
  let items := c.args.drop 2
  let dc ← match c.args with
    | [] => pure 0
    | [_] => pure (len - start)
    | _ => do
      let x ← Convert.toIntegerOrInfinity c.ops (c.arg 1)
      if x ≤ 0 then pure 0
      else if x.isInf then pure (len - start)
      else pure (min ((Numeric.truncInt? x).getD 0).toNat (len - start))
  let ic := items.length
  if len + ic - dc > maxLength then M.typeError "array length overflow"
  let a ← speciesCreate c.ops o dc
  copyRange c.ops o a start (start + dc)
  if ic < dc then
    for k in List.range' start (len - dc - start) do
      moveElement c.ops o (k + dc) (k + ic)
    for k in (List.range' (len - dc + ic) (dc - ic)).reverse do
      Objects.deleteOrThrow c.ops o (indexKey k)
  else if ic > dc then
    for k in (List.range' start (len - dc - start)).reverse do
      moveElement c.ops o (k + dc) (k + ic)
  for (v, j) in items.zipIdx do
    Objects.setOrThrow c.ops o (indexKey (start + j)) v
  Objects.setOrThrow c.ops o lengthKey (Value.ofNat (len - dc + ic))
  pure (.obj a)

def isConcatSpreadable (ops : Ops) (v : Value) : M Bool := do
  match v with
  | .obj o => do
    match ← Objects.getKey ops o WellKnown.isConcatSpreadable.key with
    | .undefined => pure ((← get).isArray v)
    | s => pure s.truthy
  | _ => pure false

def arrayConcat (c : Call) : M Value := do
  let o ← Convert.toObject c.this
  let a ← speciesCreate c.ops o 0
  let n ← ((Value.obj o) :: c.args).foldlM (fun n e => do
    if ← isConcatSpreadable c.ops e then
      match e with
      | .obj eo => do
        let len ← Convert.lengthOf c.ops eo
        if n + len > maxLength then M.typeError "array length overflow"
        for k in List.range len do
          if ← Objects.has c.ops eo (indexKey k) then
            let v ← Objects.getKey c.ops eo (indexKey k)
            Objects.createDataOrThrow c.ops a (indexKey (n + k)) v
        pure (n + len)
      | _ => pure n
    else do
      if n ≥ maxLength then M.typeError "array length overflow"
      Objects.createDataOrThrow c.ops a (indexKey n) e
      pure (n + 1)) 0
  Objects.setOrThrow c.ops a lengthKey (Value.ofNat n)
  pure (.obj a)

def arrayJoin (c : Call) : M Value := do
  let (o, len) ← arrayThis c
  let sep ← match c.arg 0 with
    | .undefined => pure (Units.ofString ",")
    | v => Convert.toString c.ops v
  let r ← (List.range len).foldlM (fun acc k => do
    let acc := if k > 0 then acc ++ sep else acc
    let e ← Objects.getKey c.ops o (indexKey k)
    if e.isNullish then pure acc else do pure (acc ++ (← Convert.toString c.ops e))) #[]
  pure (.str r)

def arrayToString (c : Call) (objectText : Call → M Value) : M Value := do
  let o ← Convert.toObject c.this
  let f ← Objects.getKey c.ops o (Key.ofString "join")
  if (← get).isCallable f then c.ops.call f (.obj o) []
  else objectText { c with this := .obj o }

def findPresent (ops : Ops) (o : Nat) (p : Value → Bool) : List Nat → M (Option Nat)
  | [] => pure none
  | k :: ks => do
    if ← Objects.has ops o (indexKey k) then
      if p (← Objects.getKey ops o (indexKey k)) then return some k
    findPresent ops o p ks

def arrayIndexOf (c : Call) : M Value := do
  let (o, len) ← arrayThis c
  if len == 0 then return .num (-1)
  let n ← Convert.toIntegerOrInfinity c.ops (c.arg 1)
  if n.isInf && n > 0 then return .num (-1)
  let start : Nat := if n ≥ 0 then ((Numeric.truncInt? n).getD 0).toNat
    else if n.isInf then 0 else ((len : Int) + (Numeric.truncInt? n).getD 0).toNat
  let found ← findPresent c.ops o (Value.strictEquals (c.arg 0)) (List.range' start (len - start))
  pure (indexValue found)

def arrayLastIndexOf (c : Call) : M Value := do
  let (o, len) ← arrayThis c
  if len == 0 then return .num (-1)
  let n ← if c.args.length > 1 then Convert.toIntegerOrInfinity c.ops (c.arg 1)
    else pure (Value.ofNat (len - 1)).primitiveNumber
  if n.isInf && n < 0 then return .num (-1)
  let top : Int := if n.isInf then len - 1
    else if n ≥ 0 then min ((Numeric.truncInt? n).getD 0) (len - 1)
    else (len : Int) + (Numeric.truncInt? n).getD 0
  if top < 0 then return .num (-1)
  let found ← findPresent c.ops o (Value.strictEquals (c.arg 0))
    (List.range (top.toNat + 1)).reverse
  pure (indexValue found)

def arrayIncludes (c : Call) : M Value := do
  let (o, len) ← arrayThis c
  if len == 0 then return .bool false
  let n ← Convert.toIntegerOrInfinity c.ops (c.arg 1)
  if n.isInf && n > 0 then return .bool false
  let start : Nat := if n ≥ 0 then ((Numeric.truncInt? n).getD 0).toNat
    else if n.isInf then 0 else ((len : Int) + (Numeric.truncInt? n).getD 0).toNat
  for k in List.range' start (len - start) do
    if Value.sameValueZero (c.arg 0) (← Objects.getKey c.ops o (indexKey k)) then
      return .bool true
  pure (.bool false)

def arrayFill (c : Call) : M Value := do
  let (o, len) ← arrayThis c
  let k ← Convert.relativeIndex c.ops (c.arg 1) len 0
  let final ← Convert.relativeIndex c.ops (c.arg 2) len len
  for i in List.range' k (final - k) do
    Objects.setOrThrow c.ops o (indexKey i) (c.arg 0)
  pure (.obj o)

def callbackOf (c : Call) (method : String) : M Value :=
  requireCallable (c.arg 0) ("Array.prototype." ++ method ++ ": callback is not callable")

def arrayMap (c : Call) : M Value := do
  let (o, len) ← arrayThis c
  let f ← callbackOf c "map"
  let a ← speciesCreate c.ops o len
  for k in List.range len do
    if ← Objects.has c.ops o (indexKey k) then
      let v ← Objects.getKey c.ops o (indexKey k)
      let m ← c.ops.call f (c.arg 1) [v, Value.ofNat k, .obj o]
      Objects.createDataOrThrow c.ops a (indexKey k) m
  pure (.obj a)

def arrayFilter (c : Call) : M Value := do
  let (o, len) ← arrayThis c
  let f ← callbackOf c "filter"
  let a ← speciesCreate c.ops o 0
  let _ ← (List.range len).foldlM (fun n k => do
    if ← Objects.has c.ops o (indexKey k) then
      let v ← Objects.getKey c.ops o (indexKey k)
      if (← c.ops.call f (c.arg 1) [v, Value.ofNat k, .obj o]).truthy then
        Objects.createDataOrThrow c.ops a (indexKey n) v
        return n + 1
    pure n) 0
  pure (.obj a)

def arrayForEach (c : Call) : M Value := do
  let (o, len) ← arrayThis c
  let f ← callbackOf c "forEach"
  for k in List.range len do
    if ← Objects.has c.ops o (indexKey k) then
      let v ← Objects.getKey c.ops o (indexKey k)
      let _ ← c.ops.call f (c.arg 1) [v, Value.ofNat k, .obj o]
  pure .undefined

def arrayTest (want : Bool) (c : Call) : M Value := do
  let (o, len) ← arrayThis c
  let f ← callbackOf c (if want then "some" else "every")
  for k in List.range len do
    if ← Objects.has c.ops o (indexKey k) then
      let v ← Objects.getKey c.ops o (indexKey k)
      if (← c.ops.call f (c.arg 1) [v, Value.ofNat k, .obj o]).truthy == want then
        return .bool want
  pure (.bool !want)

def arrayFind (wantIndex : Bool) (c : Call) : M Value := do
  let (o, len) ← arrayThis c
  let f ← callbackOf c (if wantIndex then "findIndex" else "find")
  for k in List.range len do
    let v ← Objects.getKey c.ops o (indexKey k)
    if (← c.ops.call f (c.arg 1) [v, Value.ofNat k, .obj o]).truthy then
      return (if wantIndex then Value.ofNat k else v)
  pure (if wantIndex then .num (-1) else .undefined)

def arrayReduce (c : Call) : M Value := do
  let (o, len) ← arrayThis c
  let f ← callbackOf c "reduce"
  let present ← (List.range len).filterM fun k => Objects.has c.ops o (indexKey k)
  let (acc, rest) ← if c.args.length > 1 then pure (c.arg 1, List.range len)
    else match present with
      | [] => M.typeError "Array.prototype.reduce: called on an empty array with no initial value"
      | k :: _ => do pure (← Objects.getKey c.ops o (indexKey k), List.range' (k + 1) (len - k - 1))
  rest.foldlM (fun acc k => do
    if ← Objects.has c.ops o (indexKey k) then
      let v ← Objects.getKey c.ops o (indexKey k)
      c.ops.call f .undefined [acc, v, Value.ofNat k, .obj o]
    else pure acc) acc

def arrayReverse (c : Call) : M Value := do
  let (o, len) ← arrayThis c
  for lower in List.range (len / 2) do
    let upper := len - 1 - lower
    let lk := indexKey lower
    let uk := indexKey upper
    let lowerExists ← Objects.has c.ops o lk
    let lv ← if lowerExists then Objects.getKey c.ops o lk else pure .undefined
    let upperExists ← Objects.has c.ops o uk
    let uv ← if upperExists then Objects.getKey c.ops o uk else pure .undefined
    match lowerExists, upperExists with
    | true, true => do
      Objects.setOrThrow c.ops o lk uv
      Objects.setOrThrow c.ops o uk lv
    | false, true => do
      Objects.setOrThrow c.ops o lk uv
      Objects.deleteOrThrow c.ops o uk
    | true, false => do
      Objects.deleteOrThrow c.ops o lk
      Objects.setOrThrow c.ops o uk lv
    | false, false => pure ()
  pure (.obj o)

def mergeBy (before : Value → Value → M Bool) : Nat → List Value → List Value → M (List Value)
  | 0, xs, ys => pure (xs ++ ys)
  | _ + 1, [], ys => pure ys
  | _ + 1, xs, [] => pure xs
  | f + 1, x :: xs, y :: ys => do
    if ← before y x then pure (y :: (← mergeBy before f (x :: xs) ys))
    else pure (x :: (← mergeBy before f xs (y :: ys)))

def sortBy (before : Value → Value → M Bool) : Nat → List Value → M (List Value)
  | 0, xs => pure xs
  | f + 1, xs =>
    if xs.length ≤ 1 then pure xs
    else do
      let (a, b) := xs.splitAt (xs.length / 2)
      let a ← sortBy before f a
      let b ← sortBy before f b
      mergeBy before (a.length + b.length) a b

def sortBefore (ops : Ops) (cmp : Value) (x y : Value) : M Bool := do
  match x, y with
  | .undefined, _ => pure false
  | _, .undefined => pure true
  | _, _ =>
    if cmp matches .undefined then do
      let xs ← Convert.toString ops x
      let ys ← Convert.toString ops y
      pure (Units.lt xs ys)
    else do
      let v ← Convert.toNumber ops (← ops.call cmp .undefined [x, y])
      pure (v < 0)

def arraySort (c : Call) : M Value := do
  let cmp := c.arg 0
  if !(cmp matches .undefined) && !(← get).isCallable cmp then
    M.typeError "The comparison function must be either a function or undefined"
  let (o, len) ← arrayThis c
  let present ← (List.range len).filterM fun k => Objects.has c.ops o (indexKey k)
  let items ← present.mapM fun k => Objects.getKey c.ops o (indexKey k)
  let sorted ← sortBy (sortBefore c.ops cmp) (items.length + 1) items
  for (v, j) in sorted.zipIdx do
    Objects.setOrThrow c.ops o (indexKey j) v
  for k in List.range' sorted.length (len - sorted.length) do
    Objects.deleteOrThrow c.ops o (indexKey k)
  pure (.obj o)

def arrayAt (c : Call) : M Value := do
  let (o, len) ← arrayThis c
  let x ← Convert.toIntegerOrInfinity c.ops (c.arg 0)
  if x.isInf then return .undefined
  let n := (Numeric.truncInt? x).getD 0
  let k := if n ≥ 0 then n else len + n
  if k < 0 || k ≥ len then pure .undefined
  else Objects.getKey c.ops o (indexKey k.toNat)

/-! ## Byte arrays -/

def thisBytes (v : Value) : M (Nat × Array UInt8) := do
  match v with
  | .obj o => do
    match (← M.obj o).kind with
    | .bytes d => pure (o, d)
    | _ => M.typeError "'this' is not a typed array"
  | _ => M.typeError "'this' is not a typed array"

def uint8ArrayCtor (c : Call) : M Value := do
  if c.newTarget.isNone then M.typeError "calling a builtin Uint8Array constructor without new is forbidden"
  let proto ← protoFor c.ops c.newTarget .uint8ArrayPrototype
  let data ← match c.arg 0 with
    | .obj s => do
      match (← M.obj s).kind with
      | .bytes d => pure d
      | _ => do
        let vs ← if (← Convert.getMethod c.ops (.obj s) WellKnown.iterator.key).isSome then
            Iteration.values c.ops (.obj s)
          else Convert.listOf c.ops s
        let xs ← vs.mapM (Convert.toNumber c.ops)
        pure (xs.map toByte).toArray
    | v => do
      let n ← toIndex c.ops v
      pure (Array.replicate n 0)
  pure (.obj (← M.alloc { proto := some proto, kind := .bytes data }))

def typedLength (c : Call) : M Value := do
  let (_, d) ← thisBytes c.this
  pure (Value.ofNat d.size)

def typedJoin (c : Call) : M Value := do
  let (_, d) ← thisBytes c.this
  let sep ← match c.arg 0 with
    | .undefined => pure (Units.ofString ",")
    | v => Convert.toString c.ops v
  let parts := d.toList.map fun b => Units.ofNat b.toNat
  pure (.str ((parts.intersperse sep).foldl (· ++ ·) #[]))

def searchByte (v : Value) : Option Nat :=
  match v with
  | .num x => match Numeric.exactInt? x with
    | some n => if 0 ≤ n && n < 256 then some n.toNat else none
    | none => none
  | _ => none

def searchStart (ops : Ops) (v : Value) (len : Nat) : M Nat := do
  let n ← Convert.toIntegerOrInfinity ops v
  if n.isInf then pure (if n > 0 then len else 0)
  else
    let i := (Numeric.truncInt? n).getD 0
    pure (if i ≥ 0 then min i.toNat len else ((len : Int) + i).toNat)

def typedIndexOf (c : Call) : M Value := do
  let (_, d) ← thisBytes c.this
  let start ← searchStart c.ops (c.arg 1) d.size
  match searchByte (c.arg 0) with
  | some b => pure (indexValue ((List.range' start (d.size - start)).find? fun i => (d[i]!).toNat == b))
  | none => pure (.num (-1))

def typedLastIndexOf (c : Call) : M Value := do
  let (_, d) ← thisBytes c.this
  if d.size == 0 then return .num (-1)
  let top ← if c.args.length > 1 then do
      let n ← Convert.toIntegerOrInfinity c.ops (c.arg 1)
      if n.isInf then pure (if n > 0 then (d.size : Int) - 1 else -1)
      else
        let i := (Numeric.truncInt? n).getD 0
        pure (if i ≥ 0 then min i ((d.size : Int) - 1) else (d.size : Int) + i)
    else pure ((d.size : Int) - 1)
  if top < 0 then return .num (-1)
  match searchByte (c.arg 0) with
  | some b => pure (indexValue ((List.range (top.toNat + 1)).reverse.find? fun i => (d[i]!).toNat == b))
  | none => pure (.num (-1))

def typedIncludes (c : Call) : M Value := do
  let (_, d) ← thisBytes c.this
  let start ← searchStart c.ops (c.arg 1) d.size
  match searchByte (c.arg 0) with
  | some b => pure (.bool ((List.range' start (d.size - start)).any fun i => (d[i]!).toNat == b))
  | none => pure (.bool false)

def typedFill (c : Call) : M Value := do
  let (o, d) ← thisBytes c.this
  let b := toByte (← Convert.toNumber c.ops (c.arg 0))
  let k ← Convert.relativeIndex c.ops (c.arg 1) d.size 0
  let final ← Convert.relativeIndex c.ops (c.arg 2) d.size d.size
  let d' := (List.range' k (final - k)).foldl (fun acc i => acc.set! i b) d
  M.modifyObj o fun ob => { ob with kind := .bytes d' }
  pure (.obj o)

end ScriptBridge.Script.Builtins
