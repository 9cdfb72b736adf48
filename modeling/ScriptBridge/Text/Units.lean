/-!
# Text as UTF-16 code units

Script strings are sequences of 16-bit code units. A unit in `0xD800–0xDBFF` followed by one in
`0xDC00–0xDFFF` is a pair and stands for one code point; any other unit of `0xD800–0xDFFF` is a
lone surrogate. Lean's `String` cannot hold lone surrogates, so script text is kept as units and
turned into a `String` only at the edge, where a lone surrogate is written as the six characters
`\uXXXX` with upper-case hex digits.
-/

namespace ScriptBridge

/-- Script text: a sequence of UTF-16 code units. -/
abbrev Units := Array UInt16

namespace Units

def ofChar (c : Char) : List UInt16 :=
  let n := c.toNat
  if n < 0x10000 then [n.toUInt16]
  else
    let m := n - 0x10000
    [(0xD800 + m / 0x400).toUInt16, (0xDC00 + m % 0x400).toUInt16]

def ofString (s : String) : Units :=
  (s.toList.flatMap ofChar).toArray

instance : Coe String Units := ⟨ofString⟩

def isHigh (u : UInt16) : Bool := 0xD800 ≤ u.toNat ∧ u.toNat ≤ 0xDBFF

def isLow (u : UInt16) : Bool := 0xDC00 ≤ u.toNat ∧ u.toNat ≤ 0xDFFF

/-- A code point read from units, or a lone surrogate. -/
inductive Piece where
  | point (c : Char)
  | lone (u : UInt16)
  deriving Repr, BEq, Inhabited

def piecesOf : List UInt16 → List Piece
  | [] => []
  | [u] => if isHigh u || isLow u then [.lone u] else [.point (Char.ofNat u.toNat)]
  | u :: lo :: rest =>
    if isHigh u && isLow lo then
      .point (Char.ofNat (0x10000 + (u.toNat - 0xD800) * 0x400 + (lo.toNat - 0xDC00)))
        :: piecesOf rest
    else if isHigh u || isLow u then .lone u :: piecesOf (lo :: rest)
    else .point (Char.ofNat u.toNat) :: piecesOf (lo :: rest)
termination_by l => l.length

def pieces (s : Units) : List Piece := piecesOf s.toList

def hexDigit (n : Nat) : Char :=
  if n < 10 then Char.ofNat (48 + n) else Char.ofNat (55 + n)

def hex4 (n : Nat) : String :=
  String.ofList [hexDigit (n / 4096 % 16), hexDigit (n / 256 % 16), hexDigit (n / 16 % 16),
    hexDigit (n % 16)]

def toEscaped (s : Units) : String :=
  String.ofList ((pieces s).flatMap fun
    | .point c => [c]
    | .lone u => ("\\u" ++ hex4 u.toNat).toList)

def toLossy (s : Units) : String :=
  String.ofList ((pieces s).map fun
    | .point c => c
    | .lone _ => Char.ofNat 0xFFFD)

def isWellFormed (s : Units) : Bool :=
  (pieces s).all fun
    | .point _ => true
    | .lone _ => false

def lt (a b : Units) : Bool := decide (a.toList.map UInt16.toNat < b.toList.map UInt16.toNat)

def ofNat (n : Nat) : Units := ofString (toString n)

def repeatN (s : Units) : Nat → Units
  | 0 => #[]
  | n + 1 => repeatN s n ++ s

def occursAt (s p : Units) (i : Nat) : Bool :=
  i + p.size ≤ s.size && (List.range p.size).all fun j => s[i + j]? == p[j]?

end Units

end ScriptBridge
