import ScriptBridge.Wrapper.Basic

/-!
# Arrays of wrapped objects

A wrapper array is a typed view of a script array whose elements are objects: reading a slot
gives a wrapper for the object there, or nothing for any other value. With its cache on, the
view remembers one wrapper per object it has read, in the order first read, and hands the same
wrapper out again whenever it reads that object; the cache keeps objects that have since left
the array, until it is cleared or turned off.

Lengths and indices come back from the script as numbers and must be whole numbers from `0` to
`2 ^ 32 - 1`; `-1` as an index means "not found".
-/

namespace ScriptBridge.Wrapper

open ScriptBridge.Host

/-- A view of a script array with its wrapper cache. -/
structure WrapperArray where
  source : Handle
  useCache : Bool
  /-- Objects read so far and their wrappers, in the order first read. -/
  cache : List (Handle × Wrapper) := []
  deriving Inhabited

def maxArrayLength : Nat := 4294967295

def toLength (v : Foreign) : Except HostError Nat := do
  let x ← v.asF64
  match Script.Numeric.exactInt? x with
  | some n =>
    if 0 ≤ n && n ≤ maxArrayLength then pure n.toNat
    else throw (.typeMismatch "array length" "number out of range")
  | none => throw (.typeMismatch "array length" "number out of range")

def toIndex (v : Foreign) : Except HostError (Option Nat) := do
  let x ← v.asF64
  if x == -1 then pure none else some <$> toLength v

namespace WrapperArray

def ofForeign (candidate : Foreign) (useCache : Bool) : Except HostError WrapperArray := do
  pure { source := ← candidate.intoHandle, useCache }

def cached (a : WrapperArray) (h : Handle) : Option Wrapper :=
  (a.cache.find? fun (c, _) => c.sameObject h).map Prod.snd

def setUseCache (a : WrapperArray) (b : Bool) : WrapperArray :=
  { a with useCache := b, cache := if b then a.cache else [] }

def clearCache (a : WrapperArray) : WrapperArray := { a with cache := [] }

def cachedLen (a : WrapperArray) : Nat := a.cache.length

def slotValue : Option Wrapper → Foreign
  | some w => w.toForeign
  | none => .null

def wrapSlot (a : WrapperArray) (v : Foreign) : Op (Option Wrapper × WrapperArray) := do
  match v with
  | .object h =>
    if !a.useCache then do pure (some (← Op.fresh h), a)
    else match a.cached h with
      | some w => pure (some w, a)
      | none => do
        let w ← Op.fresh h
        pure (some w, { a with cache := a.cache ++ [(h, w)] })
  | _ => pure (none, a)

def length (a : WrapperArray) : Op Nat := do
  Op.lift (toLength (← Op.host (Host.getProperty a.source "length")))

def get (a : WrapperArray) (i : Nat) : Op (Option Wrapper × WrapperArray) := do
  wrapSlot a (← Op.host (Host.getProperty a.source (toString i)))

def set (a : WrapperArray) (i : Nat) (w : Option Wrapper) : Op Unit :=
  Op.host (Host.setProperty a.source (toString i) (slotValue w))

def push (a : WrapperArray) (w : Wrapper) : Op Nat := do
  Op.lift (toLength (← Op.host (Host.invoke a.source "push" [w.toForeign])))

def pop (a : WrapperArray) : Op (Option Wrapper × WrapperArray) := do
  wrapSlot a (← Op.host (Host.invoke a.source "pop" []))

def indexOf (a : WrapperArray) (w : Wrapper) : Op (Option Nat) := do
  Op.lift (toIndex (← Op.host (Host.invoke a.source "indexOf" [w.toForeign])))

def lastIndexOf (a : WrapperArray) (w : Wrapper) : Op (Option Nat) := do
  Op.lift (toIndex (← Op.host (Host.invoke a.source "lastIndexOf" [w.toForeign])))

def includes (a : WrapperArray) (w : Wrapper) : Op Bool := do
  Op.lift (← Op.host (Host.invoke a.source "includes" [w.toForeign])).asBool

def mergeCaches (mine other : List (Handle × Wrapper)) : List (Handle × Wrapper) :=
  other.foldl (fun acc (h, w) =>
    if acc.any fun (c, _) => c.sameObject h then acc else acc ++ [(h, w)]) mine

def concat (a other : WrapperArray) : Op WrapperArray := do
  let joined ← Op.host (Host.invoke a.source "concat" [.object other.source])
  let b ← Op.lift (ofForeign joined a.useCache)
  pure (if b.useCache then { b with cache := mergeCaches a.cache other.cache } else b)

def join (a : WrapperArray) (sep : String) : Op String := do
  Op.lift (← Op.host (Host.invoke a.source "join" [.string sep])).intoString

def fill (a : WrapperArray) (w : Option Wrapper) : Op Unit := do
  let _ ← Op.host (Host.invoke a.source "fill" [slotValue w])

def collect (a : WrapperArray) : Nat → Nat → List (Option Wrapper) →
    Op (Except HostError (List (Option Wrapper)) × WrapperArray)
  | 0, _, acc => pure (.ok acc.reverse, a)
  | n + 1, i, acc => do
    let r ← tryCatch (do pure (Except.ok (← get a i))) fun e => pure (.error e)
    match r with
    | .ok (w, a') => collect a' n (i + 1) (w :: acc)
    | .error e => pure (.error e, a)

def toList (a : WrapperArray) : Op (Except HostError (List (Option Wrapper)) × WrapperArray) := do
  let n ← length a
  collect a n 0 []

end WrapperArray

end ScriptBridge.Wrapper
