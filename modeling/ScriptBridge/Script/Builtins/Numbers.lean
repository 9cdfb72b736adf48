import ScriptBridge.Script.Builtins.Support

/-!
# Built-ins about numbers

`Number`, `BigInt`, `Math` and the global number functions. Where the language defines a result
exactly (rounding to a fixed number of places, `Math.round`, `Math.hypot`, reading numbers from
text) it is computed from the exact binary value, so it is the correctly rounded one; the
transcendental functions are the platform's.
-/

namespace ScriptBridge.Script.Builtins

open ScriptBridge.Decimal

def nan : Float := 0.0 / 0.0

def infinity : Float := 1.0 / 0.0

def isNegZero (x : Float) : Bool := x.toBits == 0x8000000000000000

def thisNumber (v : Value) : M Float := do
  match v with
  | .num x => pure x
  | .obj o => do
    match (← M.obj o).kind with
    | .boxed (.num x) => pure x
    | _ => M.typeError "'this' is not a Number"
  | _ => M.typeError "'this' is not a Number"

def numberCtor (c : Call) : M Value := do
  let x ← match c.args with
    | [] => pure 0
    | v :: _ => do
      match ← Convert.toNumeric c.ops v with
      | .bigint n => pure (Numeric.ofInt n)
      | p => pure p.primitiveNumber
  match c.newTarget with
  | none => pure (.num x)
  | some _ => do
    let proto ← protoFor c.ops c.newTarget .numberPrototype
    pure (.obj (← M.alloc { proto := some proto, kind := .boxed (.num x) }))

def numberArg (v : Value) : Option Float :=
  match v with
  | .num x => some x
  | _ => none

def numberIsInteger (c : Call) : M Value :=
  pure (.bool ((numberArg (c.arg 0)).map Numeric.isIntegral |>.getD false))

def numberIsSafeInteger (c : Call) : M Value :=
  pure (.bool ((numberArg (c.arg 0)).map (fun x =>
    match Numeric.exactInt? x with
    | some n => n.natAbs ≤ 9007199254740991
    | none => false) |>.getD false))

def numberIsFinite (c : Call) : M Value :=
  pure (.bool ((numberArg (c.arg 0)).map (fun x => !x.isNaN && !x.isInf) |>.getD false))

def numberIsNaN (c : Call) : M Value :=
  pure (.bool ((numberArg (c.arg 0)).map Float.isNaN |>.getD false))

def radixArg (ops : Ops) (v : Value) : M Nat := do
  match v with
  | .undefined => pure 10
  | _ => do
    let r ← Convert.toIntegerOrInfinity ops v
    if r < 2 || r > 36 then M.rangeError "radix must be an integer at least 2 and no greater than 36"
    else pure ((Numeric.truncInt? r).getD 10).toNat

def numberToString (c : Call) : M Value := do
  let x ← thisNumber c.this
  let radix ← radixArg c.ops (c.arg 0)
  pure (.str (Numeric.radixText x radix))

def numberValueOf (c : Call) : M Value := do pure (.num (← thisNumber c.this))

def fixedDigits (x : Float) (f : Nat) : String :=
  let n : Nat := match Binary.ofFloat x with
    | .finite _ m e _ =>
      if e ≥ 0 then m * 2 ^ e.toNat * 10 ^ f
      else (2 * m * 10 ^ f + 2 ^ (-e).toNat) / (2 * 2 ^ (-e).toNat)
    | _ => 0
  let digits := toString n
  if f == 0 then digits
  else
    let padded := if digits.length ≤ f then zeros (f + 1 - digits.length) ++ digits else digits
    let k := padded.length - f
    String.ofList (padded.toList.take k) ++ "." ++ String.ofList (padded.toList.drop k)

def toFixed (c : Call) : M Value := do
  let x ← thisNumber c.this
  let f ← Convert.toIntegerOrInfinity c.ops (c.arg 0)
  if f.isInf || f < 0 || f > 100 then M.rangeError "toFixed() digits argument must be between 0 and 100"
  let f := ((Numeric.truncInt? f).getD 0).toNat
  if x.isNaN || x.isInf || x.abs ≥ 1e21 then pure (.str (Numeric.text x))
  else
    let s := fixedDigits x.abs f
    pure (Value.ofString (if x < 0 then "-" ++ s else s))

def thisBigInt (v : Value) : M Int := do
  match v with
  | .bigint n => pure n
  | .obj o => do
    match (← M.obj o).kind with
    | .boxed (.bigint n) => pure n
    | _ => M.typeError "'this' is not a BigInt"
  | _ => M.typeError "'this' is not a BigInt"

def bigintCtor (c : Call) : M Value := do
  match ← Convert.toPrimitive c.ops (c.arg 0) .number with
  | .num x => match Numeric.exactInt? x with
    | some n => pure (.bigint n)
    | none => M.rangeError ("The number " ++ Decimal.scriptText x ++ " cannot be converted to a BigInt because it is not an integer")
  | p => do pure (.bigint (← Convert.toBigInt c.ops p))

def asUintN (c : Call) : M Value := do
  let bits ← toIndex c.ops (c.arg 0)
  let n ← Convert.toBigInt c.ops (c.arg 1)
  pure (.bigint (n % (2 ^ bits : Nat)))

def asIntN (c : Call) : M Value := do
  let bits ← toIndex c.ops (c.arg 0)
  let n ← Convert.toBigInt c.ops (c.arg 1)
  if bits == 0 then return .bigint 0
  let m := n % (2 ^ bits : Nat)
  pure (.bigint (if m ≥ (2 ^ (bits - 1) : Nat) then m - (2 ^ bits : Nat) else m))

def bigintToString (c : Call) : M Value := do
  let n ← thisBigInt c.this
  let radix ← radixArg c.ops (c.arg 0)
  let body := if radix == 10 then toString n.natAbs else Numeric.radixDigits radix n.natAbs
  pure (Value.ofString (if n < 0 then "-" ++ body else body))

def bigintValueOf (c : Call) : M Value := do pure (.bigint (← thisBigInt c.this))

/-! ## Math -/

def numberArgs (c : Call) : M (List Float) := c.args.mapM (Convert.toNumber c.ops)

def mathUnary (f : Float → Float) (c : Call) : M Value := do
  pure (.num (f (← Convert.toNumber c.ops (c.arg 0))))

def truncate (x : Float) : Float :=
  if x.isNaN || x.isInf then x else if x < 0 then x.ceil else x.floor

def signOf (x : Float) : Float :=
  if x.isNaN || x == 0 then x else if x > 0 then 1 else -1

def roundHalfUp (x : Float) : Float :=
  match Binary.ofFloat x with
  | .finite neg m e _ =>
    if e ≥ 0 then x
    else
      let k := (-e).toNat
      let s : Int := if neg then -(m : Int) else m
      let n := (2 * s + (2 ^ k : Nat)) / ((2 ^ (k + 1) : Nat) : Int)
      if n == 0 then Numeric.signedZero neg else Numeric.ofInt n
  | _ => x

def maxOf (a x : Float) : Float :=
  if a.isNaN || x.isNaN then nan
  else if x > a then x
  else if x == a && x == 0 && !isNegZero x then x
  else a

def minOf (a x : Float) : Float :=
  if a.isNaN || x.isNaN then nan
  else if x < a then x
  else if x == a && x == 0 && isNegZero x then x
  else a

def mathMax (c : Call) : M Value := do pure (.num ((← numberArgs c).foldl maxOf (-infinity)))

def mathMin (c : Call) : M Value := do pure (.num ((← numberArgs c).foldl minOf infinity))

def hypotExact (xs : List Float) : Float :=
  let parts := xs.filterMap fun x => match Binary.ofFloat x with
    | .finite _ m e _ => some (m, e)
    | _ => none
  match parts.map Prod.snd |>.min? with
  | none => 0
  | some low =>
    let a := parts.foldl (fun acc (m, e) => acc + (m * 2 ^ (e - low).toNat) ^ 2) 0
    let t := (112 - min 112 (bitLength a) + 1) / 2
    let q := Nat.sqrt (a * 4 ^ t)
    let sticky := if q * q == a * 4 ^ t then 0 else 1
    Numeric.ofScaled false (2 * q + sticky) (low - t - 1)

def mathHypot (c : Call) : M Value := do
  let xs ← numberArgs c
  if xs.any Float.isInf then pure (.num infinity)
  else if xs.any Float.isNaN then pure (.num nan)
  else pure (.num (hypotExact xs))

def mathPow (c : Call) : M Value := do
  let x ← Convert.toNumber c.ops (c.arg 0)
  let y ← Convert.toNumber c.ops (c.arg 1)
  pure (.num (Numeric.power x y))

def mathAtan2 (c : Call) : M Value := do
  let y ← Convert.toNumber c.ops (c.arg 0)
  let x ← Convert.toNumber c.ops (c.arg 1)
  pure (.num (Float.atan2 y x))

/-! ## Global number functions -/

def globalIsNaN (c : Call) : M Value := do pure (.bool (← Convert.toNumber c.ops (c.arg 0)).isNaN)

def globalIsFinite (c : Call) : M Value := do
  let x ← Convert.toNumber c.ops (c.arg 0)
  pure (.bool (!x.isNaN && !x.isInf))

def decimalPrefixLength (l : List UInt16) : Nat :=
  let (w, r) := Numeric.spanDigits l
  let (fr, r2, hasPoint) := match r with
    | 46 :: t => let (f, t2) := Numeric.spanDigits t; (f, t2, true)
    | _ => ([], r, false)
  if w.isEmpty && fr.isEmpty then 0
  else
    let base := w.length + (if hasPoint then 1 + fr.length else 0)
    match r2 with
    | e :: t =>
      if e == 101 || e == 69 then
        let (signLen, t2) := match t with
          | 43 :: t' => (1, t')
          | 45 :: t' => (1, t')
          | _ => (0, t)
        let ds := (Numeric.spanDigits t2).1
        if ds.isEmpty then base else base + 1 + signLen + ds.length
      else base
    | [] => base

def unsignedPrefix (l : List UInt16) : Option Float :=
  let inf := (Units.ofString "Infinity").toList
  if l.take inf.length == inf then some infinity
  else
    let n := decimalPrefixLength l
    if n == 0 then none else Numeric.unsignedDecimal (l.take n)

def parseFloat (c : Call) : M Value := do
  let s ← Convert.toString c.ops (c.arg 0)
  let l := (Units.trimStart s).toList
  let (neg, body) := match l with
    | 45 :: r => (true, r)
    | 43 :: r => (false, r)
    | _ => (false, l)
  match unsignedPrefix body with
  | some x => pure (.num (if neg then -x else x))
  | none => pure (.num nan)

def parseInt (c : Call) : M Value := do
  let s ← Convert.toString c.ops (c.arg 0)
  let l := (Units.trimStart s).toList
  let (neg, body) := match l with
    | 45 :: r => (true, r)
    | 43 :: r => (false, r)
    | _ => (false, l)
  let r ← Convert.toNumber c.ops (c.arg 1)
  let r := Numeric.toInt32 r
  if r != 0 && (r < 2 || r > 36) then return .num nan
  let strip := r == 0 || r == 16
  let (radix, body) := match body with
    | 48 :: x :: rest => if strip && (x == 120 || x == 88) then (16, rest) else (if r == 0 then 10 else r.toNat, body)
    | _ => (if r == 0 then 10 else r.toNat, body)
  let ds := body.takeWhile fun u => (Numeric.digitIn radix u).isSome
  match Numeric.digitsValue radix ds with
  | some n => pure (.num (Numeric.ofRatio neg n 1))
  | none => pure (.num nan)

end ScriptBridge.Script.Builtins
