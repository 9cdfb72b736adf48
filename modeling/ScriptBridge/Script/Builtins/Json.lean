import ScriptBridge.Script.Builtins.Support
import ScriptBridge.Json.Reader

/-!
# JSON

`JSON.parse` accepts exactly the texts of the JSON grammar, reporting the first fault with its
line and column; the value it builds has the members of each object in text order, a repeated
member keeping its first place and its last value. `JSON.stringify` writes a value as the
language fixes: `toJSON` and a replacer are asked first, wrapped primitives are unwrapped,
functions, symbols and `undefined` are left out of objects and written `null` in arrays, and
cycles are refused.
-/

namespace ScriptBridge.Script.Builtins

mutual

def ofJson : Json.Value → M Value
  | .null => pure .null
  | .bool b => pure (.bool b)
  | .num x => pure (.num x)
  | .str s => pure (Value.ofString s)
  | .arr items => do arrayValue (← ofJsonList items)
  | .obj members => do
    let o ← M.newObject (some Intrinsic.objectPrototype.ref)
    ofJsonMembers o members
    pure (.obj o)

def ofJsonList : List Json.Value → M (List Value)
  | [] => pure []
  | v :: r => do
    let x ← ofJson v
    pure (x :: (← ofJsonList r))

def ofJsonMembers (o : Nat) : List (String × Json.Value) → M Unit
  | [] => pure ()
  | (k, v) :: r => do
    let x ← ofJson v
    modify fun rl => rl.putProp o (Key.ofString k) (Property.plain x)
    ofJsonMembers o r

end

def jsonParse (c : Call) : M Value := do
  let s ← Convert.toString c.ops (c.arg 0)
  match Json.parse (Units.toLossy s) with
  | .ok v => ofJson v
  | .error e => M.syntaxError e.message

def hexLowerDigit (n : Nat) : UInt16 := if n < 10 then (48 + n).toUInt16 else (87 + n).toUInt16

def unicodeEscape (n : Nat) : List UInt16 :=
  [92, 117] ++ [n / 4096 % 16, n / 256 % 16, n / 16 % 16, n % 16].map hexLowerDigit

def quoteJson (s : Units) : Units :=
  let body := (Units.pieces s).flatMap fun
    | .point ch =>
      let n := ch.toNat
      if n == 34 then [92, 34]
      else if n == 92 then [92, 92]
      else if n == 8 then [92, 98]
      else if n == 12 then [92, 102]
      else if n == 10 then [92, 110]
      else if n == 13 then [92, 114]
      else if n == 9 then [92, 116]
      else if n < 32 then unicodeEscape n
      else Units.ofChar ch
    | .lone u => unicodeEscape u.toNat
  (34 :: body ++ [34]).toArray

/-- How a `JSON.stringify` call writes: its replacer function, the keys a replacer list allows,
and the indentation step. -/
structure Writer where
  replacer : Option Value
  keys : Option (List Key)
  gap : Units

def joinMembers (gap indent inner : Units) (parts : List Units) (openB closeB : UInt16) : Units :=
  if parts.isEmpty then #[openB, closeB]
  else if gap.isEmpty then
    #[openB] ++ (parts.intersperse (Units.ofString ",")).foldl (· ++ ·) #[] ++ #[closeB]
  else
    let sep := Units.ofString ",\n" ++ inner
    #[openB, 10] ++ inner ++ (parts.intersperse sep).foldl (· ++ ·) #[] ++ #[10] ++ indent ++ #[closeB]

mutual

def writeProperty (ops : Ops) (w : Writer) (stack : List Nat) (indent : Units) :
    Nat → Nat → Key → M (Option Units)
  | 0, _, _ => throw .exhausted
  | f + 1, holder, k => do
    let mut v ← Objects.getKey ops holder k
    let needsToJson := match v with
      | .obj _ | .bigint _ => true
      | _ => false
    if needsToJson then
      let tj ← Convert.getValue ops v (Key.ofString "toJSON")
      if (← get).isCallable tj then v ← ops.call tj v [k.toValue]
    if let some rf := w.replacer then
      v ← ops.call rf (.obj holder) [k.toValue, v]
    if let .obj o := v then
      match (← M.obj o).kind with
      | .boxed (.num _) => v := .num (← Convert.toNumber ops v)
      | .boxed (.str _) => v := .str (← Convert.toString ops v)
      | .boxed (.bool b) => v := .bool b
      | .boxed (.bigint n) => v := .bigint n
      | _ => pure ()
    match v with
    | .null => pure (some (Units.ofString "null"))
    | .bool b => pure (some (Units.ofString (if b then "true" else "false")))
    | .str s => pure (some (quoteJson s))
    | .num x => pure (some (if x.isNaN || x.isInf then Units.ofString "null" else Numeric.text x))
    | .bigint _ => M.typeError "cannot serialize a BigInt to JSON"
    | .obj o =>
      if (← get).isCallable v then pure none
      else if stack.contains o then M.typeError "cyclic object value"
      else if (← get).isArray v then do pure (some (← writeArray ops w (o :: stack) indent f o))
      else do pure (some (← writeObject ops w (o :: stack) indent f o))
    | _ => pure none

def writeArray (ops : Ops) (w : Writer) (stack : List Nat) (indent : Units) :
    Nat → Nat → M Units
  | 0, _ => throw .exhausted
  | f + 1, o => do
    let inner := indent ++ w.gap
    let len ← Convert.lengthOf ops o
    let parts ← (List.range len).mapM fun i => do
      pure ((← writeProperty ops w stack inner f o (Key.ofIndex i)).getD (Units.ofString "null"))
    pure (joinMembers w.gap indent inner parts 91 93)

def writeObject (ops : Ops) (w : Writer) (stack : List Nat) (indent : Units) :
    Nat → Nat → M Units
  | 0, _ => throw .exhausted
  | f + 1, o => do
    let inner := indent ++ w.gap
    let ks ← match w.keys with
      | some ks => pure ks
      | none => enumerableOwnKeys ops o
    let colon := if w.gap.isEmpty then Units.ofString ":" else Units.ofString ": "
    let parts ← ks.filterMapM fun k => do
      match ← writeProperty ops w stack inner f o k with
      | some t => pure (some (quoteJson (match k with
          | .str s => s
          | .sym _ => #[]) ++ colon ++ t))
      | none => pure none
    pure (joinMembers w.gap indent inner parts 123 125)

end

def gapOf (ops : Ops) (space : Value) : M Units := do
  let space ← match space with
    | .obj o => do
      match (← M.obj o).kind with
      | .boxed (.num _) => pure (Value.num (← Convert.toNumber ops space))
      | .boxed (.str _) => pure (Value.str (← Convert.toString ops space))
      | _ => pure space
    | _ => pure space
  match space with
  | .num _ => do
    let k ← Convert.toIntegerOrInfinity ops space
    let n := if k < 1 then 0 else min 10 ((Numeric.truncInt? (min k 10)).getD 0).toNat
    pure (Units.repeatN (Units.ofString " ") n)
  | .str s => pure (s.extract 0 10)
  | _ => pure #[]

def replacerKeys (ops : Ops) (o : Nat) : M (List Key) := do
  let vs ← Convert.listOf ops o
  vs.foldlM (fun acc v => do
    let item ← match v with
      | .str s => pure (some s)
      | .num x => pure (some (Numeric.text x))
      | .obj vo => do
        match (← M.obj vo).kind with
        | .boxed (.num _) | .boxed (.str _) => do pure (some (← Convert.toString ops v))
        | _ => pure none
      | _ => pure none
    match item with
    | some s => pure (if acc.contains (Key.str s) then acc else acc ++ [Key.str s])
    | none => pure acc) []

def jsonStringify (c : Call) : M Value := do
  let r ← get
  let (replacer, keys) ← match c.arg 1 with
    | .obj ro =>
      if r.isCallable (c.arg 1) then pure (some (c.arg 1), none)
      else if r.isArray (c.arg 1) then do pure (none, some (← replacerKeys c.ops ro))
      else pure (none, none)
    | _ => pure (none, none)
  let gap ← gapOf c.ops (c.arg 2)
  let holder ← M.newObject (some Intrinsic.objectPrototype.ref)
  let _ ← Objects.createData c.ops holder (Key.ofString "") (c.arg 0)
  match ← writeProperty c.ops { replacer, keys, gap } [] #[] 100000 holder (Key.ofString "") with
  | some t => pure (.str t)
  | none => pure .undefined

end ScriptBridge.Script.Builtins
