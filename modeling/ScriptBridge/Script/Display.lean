import ScriptBridge.Script.Object

/-!
# How the engine shows a value

Uncaught exceptions are reported by showing the thrown value. Strings are shown quoted, numbers
as their text with `-0` kept, big integers with the suffix `n`. An error object is shown as its
name and message, followed by the place of the call that made it. An array is shown as its
elements, nested arrays by their length only; wrapped primitives by their kind and value; any
other object by its own properties, one per line, nested objects indented and cycles cut.
-/

namespace ScriptBridge.Script

namespace Display

def numberText (x : Float) : String :=
  if x.toBits == 0x8000000000000000 then "-0" else Decimal.scriptText x

def primitive (r : Realm) : Value → String
  | .undefined => "undefined"
  | .null => "null"
  | .bool b => if b then "true" else "false"
  | .num x => numberText x
  | .str s => "\"" ++ Units.toEscaped s ++ "\""
  | .bigint n => toString n ++ "n"
  | .sym i => r.symbolText i
  | .obj _ => "[object]"

def lookupData (r : Realm) (k : Key) : Nat → Nat → Option Value
  | 0, _ => none
  | f + 1, o =>
    let ob := r.obj o
    match ob.props.find? k with
    | some ⟨.data v _, _, _⟩ => some v
    | some _ => none
    | none => match ob.proto with
      | some p => lookupData r k f p
      | none => none

def partText (r : Realm) : Value → String
  | .str s => Units.toEscaped s
  | v => primitive r v

def errorText (r : Realm) (o : Nat) : String :=
  let fuel := r.heap.size + 1
  let name := match lookupData r (Key.ofString "name") fuel o with
    | some v => partText r v
    | none => "<error>"
  let msg := match lookupData r (Key.ofString "message") fuel o with
    | some v => partText r v
    | none => ""
  let base := if name.isEmpty then msg else if msg.isEmpty then name else name ++ ": " ++ msg
  match (r.obj o).kind with
  | .error _ (some pos) =>
    base ++ " (unknown at :" ++ toString pos.line ++ ":" ++ toString pos.col ++ ")"
  | _ => base

def padKey (width : Nat) (s : String) : String :=
  String.ofList (List.replicate (width - s.length) ' ') ++ s

mutual

def objectText (r : Realm) : Nat → List Nat → Nat → Nat → String
  | 0, _, _, _ => "[Cycle]"
  | f + 1, seen, indent, o =>
    if seen.contains o then "[Cycle]"
    else
      let lines := entriesText r f (o :: seen) indent (r.obj o).props.keys o
      "\x7b\n" ++ lines ++ String.ofList (List.replicate (indent - 4) ' ') ++ "\x7d"

def entriesText (r : Realm) : Nat → List Nat → Nat → List Key → Nat → String
  | _, _, _, [], _ => ""
  | f, seen, indent, k :: ks, o =>
    let v := match (r.obj o).props.find? k with
      | some ⟨.data v _, _, _⟩ => v
      | _ => .undefined
    let vt := match v with
      | .obj c => objectText r f seen (indent + 4) c
      | _ => primitive r v
    padKey indent (r.keyText k) ++ ": " ++ vt ++ ",\n" ++ entriesText r f seen indent ks o

end

def objectShown (r : Realm) (top : Bool) (o : Nat) : String :=
  let ob := r.obj o
  match ob.kind with
  | .error _ _ => errorText r o
  | .boxed (.str s) => "String \x7b \"" ++ Units.toEscaped s ++ "\" \x7d"
  | .boxed (.bool b) => "Boolean \x7b " ++ (if b then "true" else "false") ++ " \x7d"
  | .boxed (.num x) => "Number \x7b " ++ numberText x ++ " \x7d"
  | .array len _ =>
    if !top then "Array(" ++ toString len ++ ")"
    else if len == 0 then "[]"
    else
      let items := (List.range len).map fun i =>
        match ob.props.find? (Key.ofIndex i) with
        | some ⟨.data (.obj c) _, _, _⟩ => match (r.obj c).kind with
          | .array n _ => "Array(" ++ toString n ++ ")"
          | .error _ _ => errorText r c
          | _ => objectText r (r.heap.size + 1) [] 4 c
        | some ⟨.data v _, _, _⟩ => primitive r v
        | _ => "undefined"
      "[ " ++ ", ".intercalate items ++ " ]"
  | _ => objectText r (r.heap.size + 1) [] 4 o

def value (r : Realm) : Value → String
  | .obj o => objectShown r true o
  | v => primitive r v

end Display

end ScriptBridge.Script
