import ScriptBridge.Script.Builtins.Support
import ScriptBridge.Text.Case

/-!
# Built-ins about strings

`String` and its prototype's methods. Strings are sequences of UTF-16 code units, so positions,
lengths and searches count code units; only `codePointAt`, case mapping and iteration look at
code points. Every method first turns its receiver into a string, refusing `null` and
`undefined`.
-/

namespace ScriptBridge.Script.Builtins

def thisText (c : Call) : M Units := do
  if c.this.isNullish then M.typeError nullishMessage
  Convert.toString c.ops c.this

def stringCtor (c : Call) : M Value := do
  let s ← match c.args, c.newTarget with
    | [], _ => pure #[]
    | .sym i :: _, none => do pure (symbolDescriptive (← get) i)
    | v :: _, _ => Convert.toString c.ops v
  match c.newTarget with
  | none => pure (.str s)
  | some _ => do
    let proto ← protoFor c.ops c.newTarget .stringPrototype
    pure (.obj (← M.alloc { proto := some proto, kind := .boxed (.str s) }))

def fromCharCode (c : Call) : M Value := do
  let us ← c.args.mapM fun v => do
    pure (Numeric.toUint32 (← Convert.toNumber c.ops v) % 65536).toUInt16
  pure (.str us.toArray)

def fromCodePoint (c : Call) : M Value := do
  let parts ← c.args.mapM fun v => do
    let x ← Convert.toNumber c.ops v
    match Numeric.exactInt? x with
    | some n =>
      if 0 ≤ n && n ≤ 0x10FFFF then
        let n := n.toNat
        if n < 0x10000 then pure [n.toUInt16]
        else
          let m := n - 0x10000
          pure [(0xD800 + m / 1024).toUInt16, (0xDC00 + m % 1024).toUInt16]
      else M.rangeError ("codepoint " ++ Decimal.scriptText x ++ " is not valid")
    | none => M.rangeError ("codepoint " ++ Decimal.scriptText x ++ " is not valid")
  pure (.str parts.flatten.toArray)

def thisStringValue (v : Value) : M Units := do
  match v with
  | .str s => pure s
  | .obj o => do
    match (← M.obj o).kind with
    | .boxed (.str s) => pure s
    | _ => M.typeError "'this' is not a string"
  | _ => M.typeError "'this' is not a string"

def stringValueOf (c : Call) : M Value := do pure (.str (← thisStringValue c.this))

def positionOf (ops : Ops) (v : Value) : M Int := do
  let x ← Convert.toIntegerOrInfinity ops v
  if x.isInf then pure (if x > 0 then 9007199254740992 else -9007199254740992)
  else pure ((Numeric.truncInt? x).getD 0)

def clampTo (len : Nat) (i : Int) : Nat := if i < 0 then 0 else min i.toNat len

def unitsBetween (s : Units) (a b : Nat) : Units := s.extract a b

def charAt (c : Call) : M Value := do
  let s ← thisText c
  let p ← positionOf c.ops (c.arg 0)
  if p < 0 || p ≥ s.size then pure (.str #[])
  else pure (.str #[s[p.toNat]!])

def charCodeAt (c : Call) : M Value := do
  let s ← thisText c
  let p ← positionOf c.ops (c.arg 0)
  if p < 0 || p ≥ s.size then pure (.num (0.0 / 0.0))
  else pure (Value.ofNat (s[p.toNat]!).toNat)

def codePointAt (c : Call) : M Value := do
  let s ← thisText c
  let p ← positionOf c.ops (c.arg 0)
  if p < 0 || p ≥ s.size then pure .undefined
  else
    let i := p.toNat
    let u := s[i]!
    match s[i + 1]? with
    | some w =>
      if Units.isHigh u && Units.isLow w then
        pure (Value.ofNat (0x10000 + (u.toNat - 0xD800) * 1024 + (w.toNat - 0xDC00)))
      else pure (Value.ofNat u.toNat)
    | none => pure (Value.ofNat u.toNat)

def stringAt (c : Call) : M Value := do
  let s ← thisText c
  let n ← positionOf c.ops (c.arg 0)
  let k := if n ≥ 0 then n else s.size + n
  if k < 0 || k ≥ s.size then pure .undefined
  else pure (.str #[s[k.toNat]!])

def indexFrom (s p : Units) (start : Nat) : Option Nat :=
  (List.range' start (s.size + 1 - start)).find? fun i => Units.occursAt s p i

def stringIndexOf (c : Call) : M Value := do
  let s ← thisText c
  let p ← Convert.toString c.ops (c.arg 0)
  let start := clampTo s.size (← positionOf c.ops (c.arg 1))
  pure (indexValue (indexFrom s p start))

def stringLastIndexOf (c : Call) : M Value := do
  let s ← thisText c
  let p ← Convert.toString c.ops (c.arg 0)
  let x ← Convert.toNumber c.ops (c.arg 1)
  let start : Nat ← if x.isNaN then pure s.size
    else do pure (clampTo s.size (← positionOf c.ops (.num x)))
  let top := min start (s.size - p.size)
  if p.size > s.size then return .num (-1)
  pure (indexValue ((List.range (top + 1)).reverse.find? fun i => Units.occursAt s p i))

def stringIncludes (c : Call) : M Value := do
  let s ← thisText c
  let p ← Convert.toString c.ops (c.arg 0)
  let start := clampTo s.size (← positionOf c.ops (c.arg 1))
  pure (.bool (indexFrom s p start).isSome)

def startsWith (c : Call) : M Value := do
  let s ← thisText c
  let p ← Convert.toString c.ops (c.arg 0)
  let start := clampTo s.size (← positionOf c.ops (c.arg 1))
  pure (.bool (Units.occursAt s p start))

def endsWith (c : Call) : M Value := do
  let s ← thisText c
  let p ← Convert.toString c.ops (c.arg 0)
  let stop ← match c.arg 1 with
    | .undefined => pure s.size
    | v => do pure (clampTo s.size (← positionOf c.ops v))
  if p.size > stop then pure (.bool false)
  else pure (.bool (Units.occursAt s p (stop - p.size)))

def stringSlice (c : Call) : M Value := do
  let s ← thisText c
  let a ← Convert.relativeIndex c.ops (c.arg 0) s.size 0
  let b ← Convert.relativeIndex c.ops (c.arg 1) s.size s.size
  pure (.str (unitsBetween s a (max a b)))

def substring (c : Call) : M Value := do
  let s ← thisText c
  let a := clampTo s.size (← positionOf c.ops (c.arg 0))
  let b ← match c.arg 1 with
    | .undefined => pure s.size
    | v => do pure (clampTo s.size (← positionOf c.ops v))
  pure (.str (unitsBetween s (min a b) (max a b)))

def substr (c : Call) : M Value := do
  let s ← thisText c
  let a ← Convert.relativeIndex c.ops (c.arg 0) s.size 0
  let n ← match c.arg 1 with
    | .undefined => pure s.size
    | v => do pure (clampTo s.size (← positionOf c.ops v))
  pure (.str (unitsBetween s a (min (a + n) s.size)))

def toUpperCase (c : Call) : M Value := do pure (.str (Text.Case.toUpper (← thisText c)))

def toLowerCase (c : Call) : M Value := do pure (.str (Text.Case.toLower (← thisText c)))

def trimWith (f : Units → Units) (c : Call) : M Value := do pure (.str (f (← thisText c)))

def pad (atStart : Bool) (c : Call) : M Value := do
  let s ← thisText c
  let target ← Convert.toLength c.ops (c.arg 0)
  let filler ← match c.arg 1 with
    | .undefined => pure (Units.ofString " ")
    | v => Convert.toString c.ops v
  if target ≤ s.size || filler.isEmpty then return .str s
  if target > 1073741823 then M.rangeError "string too long"
  let n := target - s.size
  let reps := Units.repeatN filler (n / filler.size + 1)
  let fill := reps.extract 0 n
  pure (.str (if atStart then fill ++ s else s ++ fill))

def stringRepeat (c : Call) : M Value := do
  let s ← thisText c
  let x ← Convert.toIntegerOrInfinity c.ops (c.arg 0)
  if x < 0 || x.isInf then M.rangeError "repeat count must be a positive finite number that doesn't overflow the maximum string length (2^32 - 1)"
  let n := ((Numeric.truncInt? x).getD 0).toNat
  if s.size * n > 4294967295 then
    M.rangeError "repeat count must be a positive finite number that doesn't overflow the maximum string length (2^32 - 1)"
  pure (.str (Units.repeatN s n))

def splitPieces (s sep : Units) (lim : Nat) : Nat → Nat → List Units → List Units
  | 0, _, acc => acc.reverse
  | f + 1, i, acc =>
    if acc.length ≥ lim then acc.reverse
    else match indexFrom s sep i with
      | some j =>
        if j + sep.size > s.size then (unitsBetween s i s.size :: acc).reverse
        else splitPieces s sep lim f (j + sep.size) (unitsBetween s i j :: acc)
      | none => (unitsBetween s i s.size :: acc).reverse

def split (c : Call) : M Value := do
  let s ← thisText c
  let lim ← match c.arg 1 with
    | .undefined => pure 4294967295
    | v => do pure (Numeric.toUint32 (← Convert.toNumber c.ops v))
  let sep ← Convert.toString c.ops (c.arg 0)
  if lim == 0 then return ← arrayValue []
  if c.arg 0 matches .undefined then return ← arrayValue [.str s]
  if sep.isEmpty then
    return ← arrayValue ((s.toList.take lim).map fun u => .str #[u])
  if s.isEmpty then return ← arrayValue [.str s]
  let pieces := splitPieces s sep lim (s.size + 2) 0 []
  arrayValue ((pieces.take lim).map Value.str)

def substitute (matched s : Units) (pos : Nat) : List UInt16 → Units → Units
  | [], acc => acc
  | u :: rest, acc =>
    if u != 36 then substitute matched s pos rest (acc.push u)
    else match rest with
      | v :: r =>
        if v == 36 then substitute matched s pos r (acc.push 36)
        else if v == 38 then substitute matched s pos r (acc ++ matched)
        else if v == 96 then substitute matched s pos r (acc ++ unitsBetween s 0 pos)
        else if v == 39 then
          substitute matched s pos r (acc ++ unitsBetween s (pos + matched.size) s.size)
        else substitute matched s pos r ((acc.push u).push v)
      | [] => acc.push u

def matchPositions (s p : Units) (step : Nat) : Nat → Nat → List Nat
  | 0, _ => []
  | f + 1, i => match indexFrom s p i with
    | some j => j :: matchPositions s p step f (j + step)
    | none => []

def replace (all : Bool) (c : Call) : M Value := do
  let s ← thisText c
  let p ← Convert.toString c.ops (c.arg 0)
  let rv := c.arg 1
  let functional := (← get).isCallable rv
  let template ← if functional then pure #[] else Convert.toString c.ops rv
  let positions := if all then matchPositions s p (max 1 p.size) (s.size + 2) 0
    else (indexFrom s p 0).toList
  let mut out : Units := #[]
  let mut last := 0
  for pos in positions do
    let piece ← if functional then do
        Convert.toString c.ops (← c.ops.call rv .undefined [.str p, Value.ofNat pos, .str s])
      else pure (substitute p s pos template.toList #[])
    out := out ++ unitsBetween s last pos ++ piece
    last := pos + p.size
  pure (.str (out ++ unitsBetween s last s.size))

def stringConcat (c : Call) : M Value := do
  let s ← thisText c
  let r ← c.args.foldlM (fun acc v => do pure (acc ++ (← Convert.toString c.ops v))) s
  pure (.str r)

end ScriptBridge.Script.Builtins
