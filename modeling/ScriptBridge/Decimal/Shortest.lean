import ScriptBridge.Decimal.Binary

/-!
# Shortest decimal digits of a double

Reading a decimal rounds it to the nearest double, ties to an even mantissa. So the decimals that
read back as the finite positive double `m · 2 ^ q` are exactly those strictly between the
midpoints to its two neighbours, with both ends included when `m` is even. `shortest` returns the
decimal `d · 10 ^ k` of fewest digits in that interval. On one grid of `10 ^ k` only the two
neighbours of the value can lie in it; if both do, the nearer wins, and of two equally near ones
the even.

All comparisons are exact comparisons of naturals.
-/

namespace ScriptBridge.Decimal

/-- A decimal `digits · 10 ^ exp`. -/
structure Digits where
  digits : Nat
  exp : Int
  deriving Repr, BEq, Inhabited

def cmpScaled (a : Nat) (i : Int) (b : Nat) (j : Int) : Ordering :=
  compare (a * 10 ^ i.toNat * 2 ^ (-j).toNat) (b * 2 ^ j.toNat * 10 ^ (-i).toNat)

def floorScaled (m : Nat) (q k : Int) : Nat :=
  m * 2 ^ q.toNat * 10 ^ (-k).toNat / (2 ^ (-q).toNat * 10 ^ k.toNat)

def log10Floor (m : Nat) (q : Int) : Int :=
  let e2 : Int := q + (Nat.log2 m : Int)
  let est : Int := e2 * 78913 / 262144
  let down (t : Int) : Int := if cmpScaled 1 t m q == .gt then t - 1 else t
  let up (t : Int) : Int := if cmpScaled 1 (t + 1) m q != .gt then t + 1 else t
  up (up (down (down est)))

def Digits.trim : Nat → Digits → Digits
  | 0, d => d
  | n + 1, d =>
    if d.digits != 0 && d.digits % 10 == 0 then Digits.trim n ⟨d.digits / 10, d.exp + 1⟩ else d

def shortestOf (m : Nat) (q : Int) (narrow : Bool) : Digits :=
  let unit := q - 2
  let lo := 4 * m - (if narrow then 1 else 2)
  let hi := 4 * m + 2
  let even := m % 2 == 0
  let inside (c : Nat) (k : Int) : Bool :=
    let a := cmpScaled c k lo unit
    let b := cmpScaled c k hi unit
    (a == .gt || (even && a == .eq)) && (b == .lt || (even && b == .eq))
  let t := log10Floor m q
  let attempt (n : Nat) : Option Digits :=
    let k := t - (n : Int) + 1
    let d := floorScaled m q k
    match inside d k, inside (d + 1) k with
    | true, true =>
      match cmpScaled (2 * d + 1) k (8 * m) unit with
      | .lt => some ⟨d + 1, k⟩
      | .gt => some ⟨d, k⟩
      | .eq => some (if d % 2 == 0 then ⟨d, k⟩ else ⟨d + 1, k⟩)
    | true, false => some ⟨d, k⟩
    | false, true => some ⟨d + 1, k⟩
    | false, false => none
  let found := ((List.range 17).map (· + 1)).findSome? attempt
  let result := found.getD ⟨floorScaled m q (t - 16), t - 16⟩
  Digits.trim 20 result

def digitString (n : Nat) : String := toString n

def Digits.lead (d : Digits) : String × Int :=
  let s := digitString d.digits
  (s, d.exp + (s.length : Int) - 1)

end ScriptBridge.Decimal
