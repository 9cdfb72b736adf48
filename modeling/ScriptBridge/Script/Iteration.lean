import ScriptBridge.Script.Convert

/-!
# Iterating over values

Spreading and `for … of` walk a value's elements. Arrays, argument objects and byte arrays are
walked by index, reading `length` again at every step, so elements added during the walk are
seen. Strings are walked by code point. Any other object must have a `Symbol.iterator` method,
whose iterator is asked for `next` results until one is `done`.
-/

namespace ScriptBridge.Script

namespace Iteration

/-- Where the remaining elements of a walk come from. -/
inductive Source where
  /-- An array-like object and the next index. -/
  | indexed (o : Nat) (next : Nat)
  /-- Elements known in advance. -/
  | list (vs : List Value)
  /-- An iterator object and its `next` method. -/
  | protocol (iter next : Value)

def codePoints (s : Units) : List Value :=
  (Units.pieces s).map fun
    | .point c => .str (Units.ofChar c).toArray
    | .lone u => .str #[u]

def notIterable : String := "value is not iterable"

def start (ops : Ops) (v : Value) : M Source := do
  match v with
  | .str s => pure (.list (codePoints s))
  | .obj o => do
    let r ← get
    match (r.obj o).kind with
    | .array _ _ | .arguments | .bytes _ => pure (.indexed o 0)
    | .boxed (.str s) => pure (.list (codePoints s))
    | _ =>
      if r.isArray v then pure (.indexed o 0)
      else match ← Convert.getMethod ops v WellKnown.iterator.key with
        | some m => do
          let iter ← ops.call m v []
          match iter with
          | .obj _ => pure (.protocol iter (← Convert.getValue ops iter (Key.ofString "next")))
          | _ => M.typeError "iterator is not an object"
        | none => M.typeError notIterable
  | _ => M.typeError notIterable

def step (ops : Ops) : Source → M (Option (Value × Source))
  | .indexed o i => do
    let n ← Convert.lengthOf ops o
    if i < n then pure (some (← Objects.getKey ops o (Key.ofIndex i), .indexed o (i + 1)))
    else pure none
  | .list [] => pure none
  | .list (v :: vs) => pure (some (v, .list vs))
  | .protocol iter next => do
    let res ← ops.call next iter []
    match res with
    | .obj _ => do
      if (← Convert.getValue ops res (Key.ofString "done")).truthy then pure none
      else pure (some (← Convert.getValue ops res (Key.ofString "value"), .protocol iter next))
    | _ => M.typeError "iterator result is not an object"

def drain (ops : Ops) : Nat → Source → List Value → M (List Value)
  | 0, _, _ => throw .exhausted
  | f + 1, src, acc => do
    match ← step ops src with
    | some (v, rest) => drain ops f rest (v :: acc)
    | none => pure acc.reverse

def values (ops : Ops) (v : Value) : M (List Value) := do
  drain ops 4294967296 (← start ops v) []

end Iteration

end ScriptBridge.Script
