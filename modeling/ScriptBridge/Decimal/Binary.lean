/-!
# Doubles as exact binary numbers

A double is read from its 64 bits: sign, an 11-bit biased exponent and a 52-bit fraction. A
finite nonzero double is `mant · 2 ^ exp` with `mant < 2 ^ 53`. This module decodes bits into that
form and encodes back, rounding a positive ratio of naturals to the nearest double with ties to an
even mantissa, so decimal reading is exact and needs no floating-point operation.
-/

namespace ScriptBridge.Decimal

/-- Powers of naturals are `Nat.pow`, also where a library with a power of its own for every
monoid is loaded, so the arithmetic of this library reads the same wherever it is used. -/
@[default_instance 20000]
instance (priority := 1100) natPow : Pow Nat Nat := instPowNat

/-- Powers of integers are `Int.pow`, for the same reason. -/
@[default_instance 20000]
instance (priority := 1100) intPow : Pow Int Nat := instPowNat

/-- The class of a double, with the exact value of a finite nonzero one. -/
inductive Binary where
  | nan
  | infinite (neg : Bool)
  | zero (neg : Bool)
  /-- `mant · 2 ^ exp`; `narrow` holds when the gap to the next smaller double is half the gap to
  the next larger one, which happens at a power of two above the subnormal range. -/
  | finite (neg : Bool) (mant : Nat) (exp : Int) (narrow : Bool)
  deriving Repr, BEq, Inhabited

namespace Binary

def ofBits (b : UInt64) : Binary :=
  let neg := b >>> 63 == 1
  let be := ((b >>> 52) &&& 0x7FF).toNat
  let frac := (b &&& 0xFFFFFFFFFFFFF).toNat
  if be == 0x7FF then (if frac == 0 then .infinite neg else .nan)
  else if be == 0 then (if frac == 0 then .zero neg else .finite neg frac (-1074) false)
  else .finite neg (frac + 2 ^ 52) ((be : Int) - 1075) (frac == 0 && be > 1)

def ofFloat (x : Float) : Binary := ofBits x.toBits

end Binary

def bitLength (n : Nat) : Nat := if n = 0 then 0 else Nat.log2 n + 1

def bitsOf (mant : Nat) (exp : Int) : UInt64 :=
  if mant < 2 ^ 52 then mant.toUInt64
  else if exp > 971 then 0x7FF0000000000000
  else (((exp + 1075).toNat <<< 52) + (mant - 2 ^ 52)).toUInt64

def nearestBits (n d : Nat) : UInt64 :=
  let quotientBits (e : Int) : Nat := bitLength (n * 2 ^ (-e).toNat / (d * 2 ^ e.toNat))
  let adjust (e : Int) : Int :=
    if quotientBits e > 53 then e + 1 else if quotientBits e < 53 then e - 1 else e
  let guess : Int := (bitLength n : Int) - (bitLength d : Int) - 53
  let e := max (adjust (adjust guess)) (-1074)
  let num := n * 2 ^ (-e).toNat
  let den := d * 2 ^ e.toNat
  let q := num / den
  let r := num % den
  let q' := if 2 * r > den || (2 * r == den && q % 2 == 1) then q + 1 else q
  if q' == 2 ^ 53 then bitsOf (2 ^ 52) (e + 1) else bitsOf q' e

def nearestDecimal (mant : Nat) (exp : Int) : Float :=
  let digits : Int := (toString mant).length
  if mant = 0 then 0
  else if digits - 1 + exp ≥ 310 then Float.ofBits 0x7FF0000000000000
  else if digits + exp ≤ -325 then 0
  else if exp ≥ 0 then Float.ofBits (nearestBits (mant * 10 ^ exp.toNat) 1)
  else Float.ofBits (nearestBits mant (10 ^ (-exp).toNat))

end ScriptBridge.Decimal
