import ScriptBridge.Script.Convert
import ScriptBridge.Script.Syntax

/-!
# Operators

The arithmetic, bitwise, relational and equality operators. Operands are converted to numbers
or big integers first; the two kinds never mix, except in comparisons, which compare exactly.
`+` joins strings when either primitive operand is a string. Loose equality `==` converts
across types by the language's table; strict equality is `Value.strictEquals`.
-/

namespace ScriptBridge.Script

namespace Operators

def intAnd (a b : Int) : Int :=
  match a, b with
  | .ofNat x, .ofNat y => .ofNat (x &&& y)
  | .ofNat x, .negSucc y => .ofNat (x ^^^ (x &&& y))
  | .negSucc x, .ofNat y => .ofNat (y ^^^ (y &&& x))
  | .negSucc x, .negSucc y => .negSucc (x ||| y)

def intOr (a b : Int) : Int :=
  match a, b with
  | .ofNat x, .ofNat y => .ofNat (x ||| y)
  | .ofNat x, .negSucc y => .negSucc (y ^^^ (y &&& x))
  | .negSucc x, .ofNat y => .negSucc (x ^^^ (x &&& y))
  | .negSucc x, .negSucc y => .negSucc (x &&& y)

def intXor (a b : Int) : Int :=
  match a, b with
  | .ofNat x, .ofNat y => .ofNat (x ^^^ y)
  | .ofNat x, .negSucc y => .negSucc (x ^^^ y)
  | .negSucc x, .ofNat y => .negSucc (x ^^^ y)
  | .negSucc x, .negSucc y => .ofNat (x ^^^ y)

def signed32 (u : Nat) : Float :=
  let u := u % 4294967296
  Numeric.ofInt (if u ≥ 2147483648 then (u : Int) - 4294967296 else u)

def numberBinary (op : BinaryOp) (x y : Float) : Float :=
  match op with
  | .add => x + y
  | .sub => x - y
  | .mul => x * y
  | .div => x / y
  | .mod => Numeric.remainder x y
  | .pow => Numeric.power x y
  | .shl => signed32 (Numeric.toUint32 x * 2 ^ (Numeric.toUint32 y % 32))
  | .shr => Numeric.ofInt (Numeric.toInt32 x >>> (Numeric.toUint32 y % 32))
  | .ushr => Numeric.ofRatio false (Numeric.toUint32 x >>> (Numeric.toUint32 y % 32)) 1
  | .band => signed32 (Numeric.toUint32 x &&& Numeric.toUint32 y)
  | .bor => signed32 (Numeric.toUint32 x ||| Numeric.toUint32 y)
  | .bxor => signed32 (Numeric.toUint32 x ^^^ Numeric.toUint32 y)
  | _ => 0.0 / 0.0

def bigintBinary (op : BinaryOp) (a b : Int) : M Int :=
  match op with
  | .add => pure (a + b)
  | .sub => pure (a - b)
  | .mul => pure (a * b)
  | .div => if b = 0 then M.rangeError "BigInt division by zero" else pure (a.tdiv b)
  | .mod => if b = 0 then M.rangeError "BigInt division by zero" else pure (a.tmod b)
  | .pow => if b < 0 then M.rangeError "BigInt negative exponent" else pure (a ^ b.toNat)
  | .shl => pure (if b ≥ 0 then a * 2 ^ b.toNat else a >>> (-b).toNat)
  | .shr => pure (if b ≥ 0 then a >>> b.toNat else a * 2 ^ (-b).toNat)
  | .ushr => M.typeError "BigInts have no unsigned right shift, use >> instead"
  | .band => pure (intAnd a b)
  | .bor => pure (intOr a b)
  | .bxor => pure (intXor a b)
  | _ => pure 0

def mixMessage : String := "cannot mix BigInt and other types, use explicit conversions"

def numeric (op : BinaryOp) (a b : Value) : M Value :=
  match a, b with
  | .num x, .num y => pure (.num (numberBinary op x y))
  | .bigint x, .bigint y => do pure (.bigint (← bigintBinary op x y))
  | _, _ => M.typeError mixMessage

def arith (ops : Ops) (op : BinaryOp) (a b : Value) : M Value := do
  let x ← Convert.toNumeric ops a
  let y ← Convert.toNumeric ops b
  numeric op x y

def add (ops : Ops) (a b : Value) : M Value := do
  let pa ← Convert.toPrimitive ops a .default
  let pb ← Convert.toPrimitive ops b .default
  match pa, pb with
  | .str s, _ => pure (.str (s ++ (← Convert.primToString pb)))
  | _, .str t => pure (.str ((← Convert.primToString pa) ++ t))
  | _, _ => do
    let x ← Convert.toNumeric ops pa
    let y ← Convert.toNumeric ops pb
    numeric .add x y

def intLessFloat (n : Int) (x : Float) : Option Bool :=
  (Numeric.compareIntFloat n x).map (· == .lt)

def floatLessInt (x : Float) (n : Int) : Option Bool :=
  (Numeric.compareIntFloat n x).map (· == .gt)

def lessThan (ops : Ops) (a b : Value) (leftFirst : Bool) : M (Option Bool) := do
  let (pa, pb) ← if leftFirst then do
      let pa ← Convert.toPrimitive ops a .number
      let pb ← Convert.toPrimitive ops b .number
      pure (pa, pb)
    else do
      let pb ← Convert.toPrimitive ops b .number
      let pa ← Convert.toPrimitive ops a .number
      pure (pa, pb)
  match pa, pb with
  | .str s, .str t => pure (some (Units.lt s t))
  | .bigint n, .str t => pure ((Numeric.bigintOfText? t).map fun m => decide (n < m))
  | .str s, .bigint m => pure ((Numeric.bigintOfText? s).map fun n => decide (n < m))
  | _, _ => do
    let x ← Convert.toNumeric ops pa
    let y ← Convert.toNumeric ops pb
    match x, y with
    | .num x, .num y => pure (if x.isNaN || y.isNaN then none else some (x < y))
    | .bigint n, .bigint m => pure (some (decide (n < m)))
    | .bigint n, .num y => pure (intLessFloat n y)
    | .num x, .bigint m => pure (floatLessInt x m)
    | _, _ => pure none

def relational (ops : Ops) (op : BinaryOp) (a b : Value) : M Bool := do
  match op with
  | .lt => pure ((← lessThan ops a b true).getD false)
  | .gt => pure ((← lessThan ops b a false).getD false)
  | .le => pure (match ← lessThan ops b a false with
    | some false => true
    | _ => false)
  | .ge => pure (match ← lessThan ops a b true with
    | some false => true
    | _ => false)
  | _ => pure false

def looseEqualsAt (ops : Ops) : Nat → Value → Value → M Bool
  | 0, _, _ => pure false
  | f + 1, a, b =>
    match a, b with
    | .undefined, .undefined | .null, .null | .undefined, .null | .null, .undefined => pure true
    | .num x, .num y => pure (x == y)
    | .str s, .str t => pure (s == t)
    | .bool p, .bool q => pure (p == q)
    | .bigint n, .bigint m => pure (n == m)
    | .sym i, .sym j => pure (i == j)
    | .obj i, .obj j => pure (i == j)
    | .num x, .str t => pure (x == Numeric.ofText t)
    | .str s, .num y => pure (Numeric.ofText s == y)
    | .bigint n, .str t => pure ((Numeric.bigintOfText? t) == some n)
    | .str s, .bigint m => pure ((Numeric.bigintOfText? s) == some m)
    | .bool p, _ => looseEqualsAt ops f (.num (if p then 1 else 0)) b
    | _, .bool q => looseEqualsAt ops f a (.num (if q then 1 else 0))
    | .obj _, .num _ | .obj _, .str _ | .obj _, .bigint _ | .obj _, .sym _ => do
      looseEqualsAt ops f (← Convert.toPrimitive ops a .default) b
    | .num _, .obj _ | .str _, .obj _ | .bigint _, .obj _ | .sym _, .obj _ => do
      looseEqualsAt ops f a (← Convert.toPrimitive ops b .default)
    | .bigint n, .num y => pure (Numeric.compareIntFloat n y == some .eq)
    | .num x, .bigint m => pure (Numeric.compareIntFloat m x == some .eq)
    | _, _ => pure false

def looseEquals (ops : Ops) (a b : Value) : M Bool := looseEqualsAt ops 8 a b

def typeOf (r : Realm) (v : Value) : String :=
  match v with
  | .obj _ => if r.isCallable v then "function" else "object"
  | _ => v.primitiveType

def inChainAt (ops : Ops) : Nat → Nat → Nat → M Bool
  | 0, _, _ => pure false
  | f + 1, o, proto => do
    match ← Objects.protoOf ops o with
    | some p => if p == proto then pure true else inChainAt ops f p proto
    | none => pure false

def ordinaryHasInstance (ops : Ops) (c v : Value) : M Bool := do
  let r ← get
  if !r.isCallable c then pure false
  else match c with
    | .obj ci => match (r.obj ci).kind with
      | .bound t _ _ => do
        match v with
        | .obj o => do
          let p ← Objects.getKey ops t (Key.ofString "prototype")
          match p with
          | .obj pi => inChainAt ops (r.heap.size + 1) o pi
          | _ => M.typeError "function has non-object prototype in instanceof check"
        | _ => pure false
      | _ => match v with
        | .obj o => do
          let p ← Objects.getKey ops ci (Key.ofString "prototype")
          match p with
          | .obj pi => inChainAt ops ((← get).heap.size + 1) o pi
          | _ => M.typeError "function has non-object prototype in instanceof check"
        | _ => pure false
    | _ => pure false

def instanceOf (ops : Ops) (v c : Value) : M Bool := do
  match c with
  | .obj _ => do
    match ← Convert.getMethod ops c WellKnown.hasInstance.key with
    | some h => pure (← ops.call h c [v]).truthy
    | none =>
      if !(← get).isCallable c then M.typeError "right-hand side of 'instanceof' is not callable"
      else ordinaryHasInstance ops c v
  | _ => M.typeError "right-hand side of 'instanceof' is not an object"

def hasIn (ops : Ops) (k o : Value) : M Bool := do
  match o with
  | .obj oi => do Objects.has ops oi (← Convert.toKey ops k)
  | _ => M.typeError "cannot use 'in' operator to search for a key in a non-object"

def binary (ops : Ops) (op : BinaryOp) (a b : Value) : M Value := do
  match op with
  | .add => add ops a b
  | .lt | .gt | .le | .ge => pure (.bool (← relational ops op a b))
  | .eq => pure (.bool (← looseEquals ops a b))
  | .ne => pure (.bool !(← looseEquals ops a b))
  | .strictEq => pure (.bool (Value.strictEquals a b))
  | .strictNe => pure (.bool !(Value.strictEquals a b))
  | .isIn => pure (.bool (← hasIn ops a b))
  | .instanceOf => pure (.bool (← instanceOf ops a b))
  | _ => arith ops op a b

def negate (ops : Ops) (v : Value) : M Value := do
  match ← Convert.toNumeric ops v with
  | .bigint n => pure (.bigint (-n))
  | .num x => pure (.num (-x))
  | w => pure w

def complement (ops : Ops) (v : Value) : M Value := do
  match ← Convert.toNumeric ops v with
  | .bigint n => pure (.bigint (-n - 1))
  | .num x => pure (.num (signed32 (4294967295 - Numeric.toUint32 x)))
  | w => pure w

end Operators

end ScriptBridge.Script
