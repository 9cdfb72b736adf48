import ScriptBridge.Decimal.Layout

/-!
# Answers and their JSON text

An answer of the transcript is a JSON tree. Numbers keep the double they stand for and are
written by one rule: an integer when the value is whole and below `2 ^ 53` in magnitude, the
shortest float text otherwise, and the strings `"NaN"`, `"Infinity"`, `"-Infinity"` and `"-0"` for
the values JSON cannot write.
-/

namespace ScriptBridge.Session

/-- A JSON tree of an answer. -/
inductive Answer where
  | null
  | bool (b : Bool)
  | nat (n : Nat)
  | num (x : Float)
  | str (s : String)
  | list (items : List Answer)
  | obj (fields : List (String × Answer))
  deriving Inhabited

def quote (s : String) : String :=
  let body := s.toList.flatMap fun c =>
    if c = '"' then ['\\', '"']
    else if c = '\\' then ['\\', '\\']
    else if c = '\n' then ['\\', 'n']
    else if c = '\r' then ['\\', 'r']
    else if c = '\t' then ['\\', 't']
    else if c.toNat < 0x20 then
      let h := Nat.toDigits 16 c.toNat
      ['\\', 'u', '0', '0'] ++ (if h.length < 2 then '0' :: h else h)
    else [c]
  "\"" ++ String.ofList body ++ "\""

def numberText (x : Float) : String :=
  match Decimal.Binary.ofFloat x with
  | .nan => "\"NaN\""
  | .infinite neg => if neg then "\"-Infinity\"" else "\"Infinity\""
  | .zero neg => if neg then "\"-0\"" else "0"
  | .finite neg m q _ =>
    let whole : Option Nat :=
      if q ≥ 0 then some (m * 2 ^ q.toNat)
      else if m % 2 ^ (-q).toNat == 0 then some (m / 2 ^ (-q).toNat) else none
    match whole with
    | some n => if n < 2 ^ 53 then (if neg then "-" else "") ++ toString n else Decimal.jsonText x
    | none => Decimal.jsonText x

mutual
def Answer.render : Answer → String
  | .null => "null"
  | .bool b => if b then "true" else "false"
  | .nat n => toString n
  | .num x => numberText x
  | .str s => quote s
  | .list items => "[" ++ renderItems items ++ "]"
  | .obj fields => "\x7b" ++ renderFields fields ++ "\x7d"

def renderItems : List Answer → String
  | [] => ""
  | [a] => a.render
  | a :: rest => a.render ++ "," ++ renderItems rest

def renderFields : List (String × Answer) → String
  | [] => ""
  | [(k, a)] => quote k ++ ":" ++ a.render
  | (k, a) :: rest => quote k ++ ":" ++ a.render ++ "," ++ renderFields rest
end

end ScriptBridge.Session
