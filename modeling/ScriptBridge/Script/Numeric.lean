import ScriptBridge.Decimal.Layout
import ScriptBridge.Text.Blank

/-!
# Number rules of the script language

Numbers are doubles. The operations here are the ones whose result the language defines
exactly and that have no floating-point instruction: the truncating remainder, integer
conversions, exact comparison with big integers, and reading a number from text. Each works on
the exact binary value of its operands, so every result is the correctly rounded one.
-/

namespace ScriptBridge.Script.Numeric

open ScriptBridge.Decimal

def signedZero (neg : Bool) : Float := if neg then Float.ofBits 0x8000000000000000 else 0

def ofRatio (neg : Bool) (n d : Nat) : Float :=
  if n = 0 then signedZero neg
  else
    let b := nearestBits n d
    Float.ofBits (if neg then b ||| 0x8000000000000000 else b)

def ofScaled (neg : Bool) (m : Nat) (e : Int) : Float :=
  if e ≥ 0 then ofRatio neg (m * 2 ^ e.toNat) 1 else ofRatio neg m (2 ^ (-e).toNat)

def ofInt (n : Int) : Float := ofRatio (n < 0) n.natAbs 1

def truncInt? (x : Float) : Option Int :=
  match Binary.ofFloat x with
  | .nan | .infinite _ => none
  | .zero _ => some 0
  | .finite neg m e _ =>
    let a : Nat := if e ≥ 0 then m * 2 ^ e.toNat else m / 2 ^ (-e).toNat
    some (if neg then -(a : Int) else a)

def exactInt? (x : Float) : Option Int :=
  match Binary.ofFloat x with
  | .zero _ => some 0
  | .finite neg m e _ =>
    if e ≥ 0 then some (if neg then -((m * 2 ^ e.toNat : Nat) : Int) else (m * 2 ^ e.toNat : Nat))
    else if m % 2 ^ (-e).toNat = 0 then
      let a := m / 2 ^ (-e).toNat
      some (if neg then -(a : Int) else a)
    else none
  | _ => none

def isIntegral (x : Float) : Bool := (exactInt? x).isSome

def remainder (x y : Float) : Float :=
  match Binary.ofFloat x, Binary.ofFloat y with
  | .nan, _ | _, .nan | .infinite _, _ | _, .zero _ => 0.0 / 0.0
  | _, .infinite _ => x
  | .zero _, _ => x
  | .finite nx mx ex _, .finite _ my ey _ =>
    let e := min ex ey
    let a := mx * 2 ^ (ex - e).toNat
    let b := my * 2 ^ (ey - e).toNat
    ofScaled nx (a % b) e

def power (x y : Float) : Float :=
  if y.isNaN then 0.0 / 0.0
  else if (x == 1 || x == -1) && y.isInf then 0.0 / 0.0
  else Float.pow x y

def toUint32 (x : Float) : Nat :=
  match truncInt? x with
  | some n => (n % 4294967296).toNat
  | none => 0

def toInt32 (x : Float) : Int :=
  let u := toUint32 x
  if u ≥ 2147483648 then (u : Int) - 4294967296 else u

def ofInt32 (n : Int) : Float := ofInt n

def compareIntFloat (n : Int) (x : Float) : Option Ordering :=
  match Binary.ofFloat x with
  | .nan => none
  | .infinite neg => some (if neg then .gt else .lt)
  | .zero _ => some (compare n 0)
  | .finite neg m e _ =>
    let k : Nat := if e < 0 then (-e).toNat else 0
    let lhs : Int := n * 2 ^ k
    let mag : Nat := m * 2 ^ (e + k).toNat
    some (compare lhs (if neg then -(mag : Int) else mag))

def text (x : Float) : Units := Units.ofString (scriptText x)

def digitChar (d : Nat) : Char :=
  if d < 10 then Char.ofNat (48 + d) else Char.ofNat (87 + d)

def radixDigitsAux (radix : Nat) : Nat → Nat → List Char → List Char
  | 0, _, acc => acc
  | fuel + 1, n, acc =>
    let acc := digitChar (n % radix) :: acc
    if n < radix then acc else radixDigitsAux radix fuel (n / radix) acc

def radixDigits (radix : Nat) (n : Nat) : String :=
  String.ofList (radixDigitsAux radix (n + 1) n [])

def radixText (x : Float) (radix : Nat) : Units :=
  if radix == 10 then text x
  else match exactInt? x with
    | some n =>
      if n = 0 then Units.ofString "0"
      else Units.ofString ((if n < 0 then "-" else "") ++ radixDigits radix n.natAbs)
    | none => text x

/-! ## Reading numbers from text -/

def digitIn (radix : Nat) (u : UInt16) : Option Nat :=
  let n := u.toNat
  let d := if 48 ≤ n ∧ n ≤ 57 then n - 48
    else if 97 ≤ n ∧ n ≤ 122 then n - 87
    else if 65 ≤ n ∧ n ≤ 90 then n - 55
    else 99
  if d < radix then some d else none

def digitsValue (radix : Nat) (ds : List UInt16) : Option Nat :=
  if ds.isEmpty then none
  else ds.foldl (fun acc u => do let a ← acc; let d ← digitIn radix u; pure (a * radix + d)) (some 0)

def spanDigits (l : List UInt16) : List UInt16 × List UInt16 :=
  (l.takeWhile fun u => (digitIn 10 u).isSome, l.dropWhile fun u => (digitIn 10 u).isSome)

def unsignedDecimal (l : List UInt16) : Option Float :=
  if l == (Units.ofString "Infinity").toList then some (1.0 / 0.0)
  else
    let (whole, rest) := spanDigits l
    let (frac, rest) := match rest with
      | 46 :: r => spanDigits r
      | _ => ([], rest)
    if whole.isEmpty && frac.isEmpty then none
    else
      let expo : Option Int := match rest with
        | [] => some 0
        | e :: r =>
          if e == 101 || e == 69 then
            match r with
            | 43 :: ds => (digitsValue 10 ds).map Int.ofNat
            | 45 :: ds => (digitsValue 10 ds).map fun n => -(n : Int)
            | ds => (digitsValue 10 ds).map Int.ofNat
          else none
      match expo, digitsValue 10 (whole ++ frac) with
      | some ex, some m => some (nearestDecimal m (ex - frac.length))
      | _, _ => none

def ofText (s : Units) : Float :=
  let l := (Units.trim s).toList
  let nan : Float := 0.0 / 0.0
  match l with
  | [] => 0
  | 48 :: p :: ds =>
    let radix := if p == 120 || p == 88 then 16 else if p == 111 || p == 79 then 8
      else if p == 98 || p == 66 then 2 else 0
    if radix == 0 then (unsignedDecimal l).getD nan
    else match digitsValue radix ds with
      | some n => ofRatio false n 1
      | none => nan
  | 45 :: r => match unsignedDecimal r with
    | some x => -x
    | none => nan
  | 43 :: r => (unsignedDecimal r).getD nan
  | _ => (unsignedDecimal l).getD nan

def bigintOfText? (s : Units) : Option Int :=
  let l := (Units.trim s).toList
  match l with
  | [] => some 0
  | 48 :: p :: ds =>
    let radix := if p == 120 || p == 88 then 16 else if p == 111 || p == 79 then 8
      else if p == 98 || p == 66 then 2 else 0
    if radix == 0 then (digitsValue 10 l).map Int.ofNat
    else (digitsValue radix ds).map Int.ofNat
  | 45 :: r => (digitsValue 10 r).map fun n => -(n : Int)
  | 43 :: r => (digitsValue 10 r).map Int.ofNat
  | _ => (digitsValue 10 l).map Int.ofNat

end ScriptBridge.Script.Numeric
