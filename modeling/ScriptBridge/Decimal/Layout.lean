import ScriptBridge.Decimal.Shortest

/-!
# Writing shortest digits

A finite double is written from its shortest digits `d₁d₂…dₙ` and the decimal exponent `e` of
the leading digit. A `Layout` records the choices of one written form: the range of `e` written
positionally, the suffix of a positional whole number, the sign of the exponent, and whether zero
keeps its sign. Two layouts are used: the script language's number text and the text of a float
in a JSON document.
-/

namespace ScriptBridge.Decimal

/-- The choices of one way of writing doubles. -/
structure Layout where
  /-- The least exponent of the leading digit written positionally. -/
  lowest : Int
  /-- The greatest exponent of the leading digit written positionally. -/
  highest : Int
  /-- Appended to a number written positionally without a fractional part. -/
  wholeSuffix : String
  /-- Whether a nonnegative exponent carries a plus sign. -/
  plusExponent : Bool
  /-- Whether negative zero is written with its sign. -/
  signedZero : Bool

def Layout.script : Layout := ⟨-6, 20, "", true, false⟩

def Layout.json : Layout := ⟨-5, 15, ".0", true, true⟩

def zeros (n : Nat) : String := String.ofList (List.replicate n '0')

def Layout.body (L : Layout) (s : String) (e : Int) : String :=
  let n := s.length
  if L.lowest ≤ e ∧ e ≤ L.highest then
    if e ≥ (n : Int) - 1 then s ++ zeros (e.toNat + 1 - n) ++ L.wholeSuffix
    else if e ≥ 0 then
      String.ofList (s.toList.take (e.toNat + 1)) ++ "." ++ String.ofList (s.toList.drop (e.toNat + 1))
    else "0." ++ zeros ((-e).toNat - 1) ++ s
  else
    let rest := String.ofList (s.toList.drop 1)
    let mant := String.ofList (s.toList.take 1) ++ (if rest.isEmpty then "" else "." ++ rest)
    let sign := if e < 0 then "-" else if L.plusExponent then "+" else ""
    mant ++ "e" ++ sign ++ toString e.natAbs

def Layout.finite? (L : Layout) (x : Float) : Option String :=
  match Binary.ofFloat x with
  | .nan | .infinite _ => none
  | .zero neg => some ((if neg && L.signedZero then "-" else "") ++ L.body "0" 0)
  | .finite neg m q narrow =>
    let (s, e) := (shortestOf m q narrow).lead
    some ((if neg then "-" else "") ++ L.body s e)

def scriptText (x : Float) : String :=
  match Binary.ofFloat x with
  | .nan => "NaN"
  | .infinite neg => if neg then "-Infinity" else "Infinity"
  | _ => (Layout.script.finite? x).getD ""

def jsonText (x : Float) : String := (Layout.json.finite? x).getD ""

end ScriptBridge.Decimal
