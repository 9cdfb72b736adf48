import ScriptBridge.Script.Machine
import ScriptBridge.Script.Compare
import ScriptBridge.Script.Numeric

/-!
# Object operations

The essential operations of objects: reading, defining and deleting own properties, listing
keys, and the inherited `get`, `set` and `has` that follow the prototype chain. Arrays keep
`length` one above their largest index; string wrappers expose their code units as fixed
properties; byte arrays expose their bytes under numeric names; a proxy asks its handler first
and falls back on its target.

A prototype chain has no cycles and a proxy refers to objects made before it, so every chain of
nested operations is bounded by the heap size. The operations take that bound as fuel, and the
entry points supply it.
-/

namespace ScriptBridge.Script

def Descriptor.apply (extensible : Bool) (current : Option Property) (d : Descriptor) :
    Option (Option Property) :=
  match current with
  | none => if extensible then some (some d.toProperty) else none
  | some cur =>
    let sameOpt (o : Option Value) (v : Value) : Bool := match o with
      | some w => Value.sameValue w v
      | none => true
    let refused : Bool :=
      if cur.configurable then false
      else if d.configurable == some true then true
      else if d.enumerable.isSome && d.enumerable != some cur.enumerable then true
      else match cur.slot with
        | .accessor g s =>
          if d.isData then true else !(sameOpt d.getter g && sameOpt d.setter s)
        | .data v w =>
          if d.isAccessor then true
          else if w then false
          else d.writable == some true || !sameOpt d.value v
    if refused then none
    else
      let enumerable := d.enumerable.getD cur.enumerable
      let configurable := d.configurable.getD cur.configurable
      let slot : Slot := match cur.slot with
        | .data v w =>
          if d.isAccessor then .accessor (d.getter.getD .undefined) (d.setter.getD .undefined)
          else .data (d.value.getD v) (d.writable.getD w)
        | .accessor g s =>
          if d.isData then .data (d.value.getD .undefined) (d.writable.getD false)
          else .accessor (d.getter.getD g) (d.setter.getD s)
      some (some ⟨slot, enumerable, configurable⟩)

namespace Realm

def callableAt (r : Realm) : Nat → Value → Bool
  | 0, _ => false
  | f + 1, .obj i => match (r.obj i).kind with
    | .closure _ | .native _ | .bound _ _ _ => true
    | .proxy t _ => r.callableAt f (.obj t)
    | _ => false
  | _, _ => false

def isCallable (r : Realm) (v : Value) : Bool := r.callableAt (r.heap.size + 1) v

def constructorAt (r : Realm) : Nat → Value → Bool
  | 0, _ => false
  | f + 1, .obj i => match (r.obj i).kind with
    | .closure c => match c.func.kind with
      | .normal | .classConstructor => !c.thisLexical
      | _ => false
    | .native n => n.isConstructor
    | .bound t _ _ => r.constructorAt f (.obj t)
    | .proxy t _ => r.constructorAt f (.obj t)
    | _ => false
  | _, _ => false

def isConstructor (r : Realm) (v : Value) : Bool := r.constructorAt (r.heap.size + 1) v

def arrayAt (r : Realm) : Nat → Nat → Bool
  | 0, _ => false
  | f + 1, i => match (r.obj i).kind with
    | .array _ _ => true
    | .proxy t _ => r.arrayAt f t
    | _ => false

def isArray (r : Realm) : Value → Bool
  | .obj i => r.arrayAt (r.heap.size + 1) i
  | _ => false

def symbolText (r : Realm) (i : Nat) : String :=
  "Symbol(" ++ ((r.symbols[i]?).bind id |>.map Units.toEscaped |>.getD "") ++ ")"

def keyText (r : Realm) : Key → String
  | .str s => Units.toEscaped s
  | .sym i => r.symbolText i

end Realm

def numericIndex? (s : Units) : Option Float :=
  if s == Units.ofString "-0" then some (Numeric.signedZero true)
  else
    let n := Numeric.ofText s
    if Numeric.text n == s then some n else none

def byteIndex? (x : Float) (size : Nat) : Option Nat :=
  if x.toBits == (Numeric.signedZero true).toBits then none
  else match Numeric.exactInt? x with
    | some n => if 0 ≤ n ∧ n < size then some n.toNat else none
    | none => none

def toByte (x : Float) : UInt8 := (Numeric.toUint32 x % 256).toUInt8

def lengthKey : Key := Key.ofString "length"

def Key.isLength (k : Key) : Bool := k == lengthKey

def Value.ofNat (n : Nat) : Value := .num (Numeric.ofRatio false n 1)

def arrayLengthProp (len : Nat) (writable : Bool) : Property :=
  ⟨.data (Value.ofNat len) writable, false, false⟩

def stringOwn? (s : Units) (k : Key) : Option Property :=
  match k.index? with
  | some i => if h : i < s.size then some ⟨.data (.str #[s[i]]) false, true, false⟩ else none
  | none => if k.isLength then some ⟨.data (Value.ofNat s.size) false, false, false⟩ else none

def Value.primitiveNumber : Value → Float
  | .undefined => 0.0 / 0.0
  | .null => 0
  | .bool b => if b then 1 else 0
  | .num x => x
  | .str s => Numeric.ofText s
  | _ => 0.0 / 0.0

def Value.truthy : Value → Bool
  | .undefined | .null => false
  | .bool b => b
  | .num x => !(x == 0 || x.isNaN)
  | .str s => s.size != 0
  | .bigint n => n != 0
  | _ => true

def defineOrdinary (o : Nat) (ob : Obj) (k : Key) (d : Descriptor) : M Bool := do
  match Descriptor.apply ob.extensible (ob.props.find? k) d with
  | none => pure false
  | some none => pure true
  | some (some p) => do
    M.modifyObj o fun ob => { ob with props := ob.props.insert k p }
    pure true

def deleteOrdinary (o : Nat) (ob : Obj) (k : Key) : M Bool :=
  match ob.props.find? k with
  | none => pure true
  | some p =>
    if p.configurable then do
      M.modifyObj o fun ob => { ob with props := ob.props.erase k }
      pure true
    else pure false

def descriptorObject (d : Descriptor) : M Nat := do
  let add (t : Table) (name : String) (v : Option Value) : Table :=
    match v with
    | some v => t.insert (Key.ofString name) (Property.plain v)
    | none => t
  let t := add {} "value" d.value
  let t := add t "writable" (d.writable.map Value.bool)
  let t := add t "get" d.getter
  let t := add t "set" d.setter
  let t := add t "enumerable" (d.enumerable.map Value.bool)
  let t := add t "configurable" (d.configurable.map Value.bool)
  M.alloc { proto := some Intrinsic.objectPrototype.ref, props := t }

namespace Objects

def setLength (o len : Nat) (w : Bool) (d : Descriptor) : M Bool := do
  let cur := arrayLengthProp len w
  match d.value with
  | none =>
    match Descriptor.apply false (some cur) d with
    | some (some p) => do
      let w' := match p.slot with | .data _ w' => w' | _ => w
      M.modifyObj o fun ob => { ob with kind := .array len w' }
      pure true
    | some none => pure true
    | none => pure false
  | some v => do
    let x := v.primitiveNumber
    let n := Numeric.toUint32 x
    if !(Numeric.ofRatio false n 1 == x) then M.rangeError "invalid array length"
    let d' := { d with value := some (Value.ofNat n) }
    let finalWritable := d.writable.getD w
    if n ≥ len then
      match Descriptor.apply false (some cur) d' with
      | some _ => do
        M.modifyObj o fun ob => { ob with kind := .array n finalWritable }
        pure true
      | none => pure false
    else if !w then pure false
    else match Descriptor.apply false (some cur) { d' with writable := none } with
      | none => pure false
      | some _ => do
        let ob ← M.obj o
        let doomed := ob.props.indicesFrom n
        let (kept, stuck) := doomed.foldl (fun (acc : Table × Option Nat) i =>
            match acc.2 with
            | some _ => acc
            | none => match acc.1.indexed.get? i with
              | some p => if p.configurable then (acc.1.erase (Key.ofIndex i), none) else (acc.1, some i)
              | none => acc) (ob.props, none)
        match stuck with
        | some i => do
          M.modifyObj o fun ob => { ob with props := kept, kind := .array (i + 1) finalWritable }
          pure false
        | none => do
          M.modifyObj o fun ob => { ob with props := kept, kind := .array n finalWritable }
          pure true

mutual

def getOwnAt (ops : Ops) : Nat → Nat → Key → M (Option Property)
  | 0, _, _ => throw .exhausted
  | f + 1, o, k => do
    let ob ← M.obj o
    match ob.kind with
    | .array len w =>
      if k.isLength then pure (some (arrayLengthProp len w)) else pure (ob.props.find? k)
    | .boxed (.str s) =>
      match stringOwn? s k with
      | some p => pure (some p)
      | none => pure (ob.props.find? k)
    | .bytes d =>
      match k with
      | .str s => match numericIndex? s with
        | some x => match byteIndex? x d.size with
          | some i => pure (some ⟨.data (Value.ofNat (d[i]!).toNat) true, true, true⟩)
          | none => pure none
        | none => pure (ob.props.find? k)
      | .sym _ => pure (ob.props.find? k)
    | .proxy t h => do
      match ← trapAt ops f h "getOwnPropertyDescriptor" with
      | none => getOwnAt ops f t k
      | some trap => do
        let res ← ops.call trap (.obj h) [.obj t, k.toValue]
        match res with
        | .undefined => pure none
        | .obj d => pure (some (← descriptorAt ops f d).toProperty)
        | _ => M.typeError "proxy trap result is neither object nor undefined"
    | _ => pure (ob.props.find? k)

def trapAt (ops : Ops) : Nat → Nat → String → M (Option Value)
  | 0, _, _ => throw .exhausted
  | f + 1, h, name => do
    let v ← getAt ops f h (Key.ofString name) (.obj h)
    if v.isNullish then pure none
    else if (← get).isCallable v then pure (some v)
    else M.typeError "not a callable function"

def descriptorAt (ops : Ops) : Nat → Nat → M Descriptor
  | 0, _ => throw .exhausted
  | f + 1, d => do
    let field (name : String) : M (Option Value) := do
      let k := Key.ofString name
      if ← hasAt ops f d k then pure (some (← getAt ops f d k (.obj d))) else pure none
    let enumerable ← field "enumerable"
    let configurable ← field "configurable"
    let value ← field "value"
    let writable ← field "writable"
    let getter ← field "get"
    let setter ← field "set"
    let r ← get
    if let some g := getter then
      if !(g matches .undefined) && !r.isCallable g then M.typeError "Property descriptor getter must be callable"
    if let some s := setter then
      if !(s matches .undefined) && !r.isCallable s then M.typeError "Property descriptor setter must be callable"
    if (getter.isSome || setter.isSome) && (value.isSome || writable.isSome) then
      M.typeError "Invalid property descriptor. Cannot both specify accessors and a value or writable attribute"
    pure { value, writable := writable.map Value.truthy, getter, setter,
           enumerable := enumerable.map Value.truthy, configurable := configurable.map Value.truthy }

def hasAt (ops : Ops) : Nat → Nat → Key → M Bool
  | 0, _, _ => throw .exhausted
  | f + 1, o, k => do
    let ob ← M.obj o
    match ob.kind with
    | .proxy t h => do
      match ← trapAt ops f h "has" with
      | none => hasAt ops f t k
      | some trap => do
        let res ← ops.call trap (.obj h) [.obj t, k.toValue]
        pure res.truthy
    | _ => do
      if (← getOwnAt ops f o k).isSome then pure true
      else match ob.proto with
        | some p => hasAt ops f p k
        | none => pure false

def getAt (ops : Ops) : Nat → Nat → Key → Value → M Value
  | 0, _, _, _ => throw .exhausted
  | f + 1, o, k, receiver => do
    let ob ← M.obj o
    match ob.kind with
    | .proxy t h => do
      match ← trapAt ops f h "get" with
      | none => getAt ops f t k receiver
      | some trap => ops.call trap (.obj h) [.obj t, k.toValue, receiver]
    | _ => do
      match ← getOwnAt ops f o k with
      | some p => match p.slot with
        | .data v _ => pure v
        | .accessor g _ => if g matches .undefined then pure .undefined else ops.call g receiver []
      | none => match ob.proto with
        | some p => getAt ops f p k receiver
        | none => pure .undefined

def setAt (ops : Ops) : Nat → Nat → Key → Value → Value → M Bool
  | 0, _, _, _, _ => throw .exhausted
  | f + 1, o, k, v, receiver => do
    let ob ← M.obj o
    match ob.kind with
    | .proxy t h => do
      match ← trapAt ops f h "set" with
      | none => setAt ops f t k v receiver
      | some trap => do
        let res ← ops.call trap (.obj h) [.obj t, k.toValue, v, receiver]
        pure res.truthy
    | .bytes d =>
      match k with
      | .str s => match numericIndex? s with
        | some x =>
          let same := match receiver with
            | .obj r => r == o
            | _ => false
          if same then do
            match byteIndex? x d.size with
            | some i => M.modifyObj o fun ob => { ob with kind := .bytes (d.set! i (toByte v.primitiveNumber)) }
            | none => pure ()
            pure true
          else setOrdinary ops f o ob k v receiver
        | none => setOrdinary ops f o ob k v receiver
      | .sym _ => setOrdinary ops f o ob k v receiver
    | _ => setOrdinary ops f o ob k v receiver

def setOrdinary (ops : Ops) : Nat → Nat → Obj → Key → Value → Value → M Bool
  | 0, _, _, _, _, _ => throw .exhausted
  | f + 1, o, ob, k, v, receiver => do
    match ← getOwnAt ops f o k with
    | none => match ob.proto with
      | some p => setAt ops f p k v receiver
      | none => setOnReceiver ops f k v receiver
    | some p => match p.slot with
      | .data _ w => if w then setOnReceiver ops f k v receiver else pure false
      | .accessor _ s =>
        if s matches .undefined then pure false
        else do let _ ← ops.call s receiver [v]; pure true

def setOnReceiver (ops : Ops) : Nat → Key → Value → Value → M Bool
  | 0, _, _, _ => throw .exhausted
  | f + 1, k, v, receiver => do
    match receiver with
    | .obj r => do
      match ← getOwnAt ops f r k with
      | some ex => match ex.slot with
        | .accessor _ _ => pure false
        | .data _ w => if w then defineAt ops f r k { value := some v } else pure false
      | none =>
        defineAt ops f r k
          { value := some v, writable := some true, enumerable := some true, configurable := some true }
    | _ => pure false

def defineAt (ops : Ops) : Nat → Nat → Key → Descriptor → M Bool
  | 0, _, _, _ => throw .exhausted
  | f + 1, o, k, d => do
    let ob ← M.obj o
    match ob.kind with
    | .array len w =>
      if k.isLength then setLength o len w d
      else match k.index? with
        | some i =>
          if i ≥ len && !w then pure false
          else do
            let ok ← defineOrdinary o ob k d
            if ok && i ≥ len then M.modifyObj o fun ob => { ob with kind := .array (i + 1) w }
            pure ok
        | none => defineOrdinary o ob k d
    | .boxed (.str s) =>
      match stringOwn? s k with
      | some cur => pure ((Descriptor.apply false (some cur) d).isSome)
      | none => defineOrdinary o ob k d
    | .bytes bs =>
      match k with
      | .str s => match numericIndex? s with
        | some x => match byteIndex? x bs.size with
          | some i =>
            if d.configurable == some false || d.enumerable == some false || d.isAccessor ||
               d.writable == some false then pure false
            else do
              if let some v := d.value then
                M.modifyObj o fun ob => { ob with kind := .bytes (bs.set! i (toByte v.primitiveNumber)) }
              pure true
          | none => pure false
        | none => defineOrdinary o ob k d
      | .sym _ => defineOrdinary o ob k d
    | .proxy t h => do
      match ← trapAt ops f h "defineProperty" with
      | none => defineAt ops f t k d
      | some trap => do
        let desc ← descriptorObject d
        let res ← ops.call trap (.obj h) [.obj t, k.toValue, .obj desc]
        pure res.truthy
    | _ => defineOrdinary o ob k d

def deleteAt (ops : Ops) : Nat → Nat → Key → M Bool
  | 0, _, _ => throw .exhausted
  | f + 1, o, k => do
    let ob ← M.obj o
    match ob.kind with
    | .array _ _ => if k.isLength then pure false else deleteOrdinary o ob k
    | .boxed (.str s) => if (stringOwn? s k).isSome then pure false else deleteOrdinary o ob k
    | .bytes bs =>
      match k with
      | .str s => match numericIndex? s with
        | some x => pure (byteIndex? x bs.size).isNone
        | none => deleteOrdinary o ob k
      | .sym _ => deleteOrdinary o ob k
    | .proxy t h => do
      match ← trapAt ops f h "deleteProperty" with
      | none => deleteAt ops f t k
      | some trap => do
        let res ← ops.call trap (.obj h) [.obj t, k.toValue]
        pure res.truthy
    | _ => deleteOrdinary o ob k

def ownKeysAt (ops : Ops) : Nat → Nat → M (List Key)
  | 0, _ => throw .exhausted
  | f + 1, o => do
    let ob ← M.obj o
    let keys := ob.props.keys
    let (idx, rest) := keys.partition fun k => k.index?.isSome
    match ob.kind with
    | .array _ _ => pure (idx ++ [lengthKey] ++ rest)
    | .boxed (.str s) =>
      pure ((List.range s.size).map Key.ofIndex ++ idx ++ [lengthKey] ++ rest)
    | .bytes bs => pure ((List.range bs.size).map Key.ofIndex ++ keys)
    | .proxy t h => do
      match ← trapAt ops f h "ownKeys" with
      | none => ownKeysAt ops f t
      | some trap => do
        let res ← ops.call trap (.obj h) [.obj t]
        match res with
        | .obj a => do
          let arr ← M.obj a
          let n := match arr.kind with | .array len _ => len | _ => 0
          (List.range n).foldlM (fun acc i => do
            match arr.props.find? (Key.ofIndex i) with
            | some ⟨.data (.str s) _, _, _⟩ => pure (acc ++ [Key.str s])
            | some ⟨.data (.sym y) _, _, _⟩ => pure (acc ++ [Key.sym y])
            | _ => M.typeError "proxy [[OwnPropertyKeys]] must return an array with only string and symbol elements") []
        | _ => M.typeError "proxy [[OwnPropertyKeys]] must return an object"
    | _ => pure keys

def protoAt (ops : Ops) : Nat → Nat → M (Option Nat)
  | 0, _ => throw .exhausted
  | f + 1, o => do
    let ob ← M.obj o
    match ob.kind with
    | .proxy t _ => protoAt ops f t
    | _ => pure ob.proto

def preventAt (ops : Ops) : Nat → Nat → M Bool
  | 0, _ => throw .exhausted
  | f + 1, o => do
    let ob ← M.obj o
    match ob.kind with
    | .proxy t _ => preventAt ops f t
    | _ => do M.modifyObj o fun ob => { ob with extensible := false }; pure true

def extensibleAt (ops : Ops) : Nat → Nat → M Bool
  | 0, _ => throw .exhausted
  | f + 1, o => do
    let ob ← M.obj o
    match ob.kind with
    | .proxy t _ => extensibleAt ops f t
    | _ => pure ob.extensible

end

end Objects

namespace Objects

def chainBound : M Nat := do pure (2 * (← get).heap.size + 16)

def getOwn (ops : Ops) (o : Nat) (k : Key) : M (Option Property) := do
  getOwnAt ops (← chainBound) o k

def has (ops : Ops) (o : Nat) (k : Key) : M Bool := do hasAt ops (← chainBound) o k

def getWith (ops : Ops) (o : Nat) (k : Key) (receiver : Value) : M Value := do
  getAt ops (← chainBound) o k receiver

def getKey (ops : Ops) (o : Nat) (k : Key) : M Value := getWith ops o k (.obj o)

def setWith (ops : Ops) (o : Nat) (k : Key) (v : Value) (receiver : Value) : M Bool := do
  setAt ops (← chainBound) o k v receiver

def define (ops : Ops) (o : Nat) (k : Key) (d : Descriptor) : M Bool := do
  defineAt ops (← chainBound) o k d

def delete (ops : Ops) (o : Nat) (k : Key) : M Bool := do deleteAt ops (← chainBound) o k

def ownKeys (ops : Ops) (o : Nat) : M (List Key) := do ownKeysAt ops (← chainBound) o

def protoOf (ops : Ops) (o : Nat) : M (Option Nat) := do protoAt ops (← chainBound) o

def preventExtensions (ops : Ops) (o : Nat) : M Bool := do preventAt ops (← chainBound) o

def isExtensible (ops : Ops) (o : Nat) : M Bool := do extensibleAt ops (← chainBound) o

def toDescriptor (ops : Ops) (d : Nat) : M Descriptor := do descriptorAt ops (← chainBound) d

def createData (ops : Ops) (o : Nat) (k : Key) (v : Value) : M Bool :=
  define ops o k { value := some v, writable := some true, enumerable := some true,
                   configurable := some true }

def createDataOrThrow (ops : Ops) (o : Nat) (k : Key) (v : Value) : M Unit := do
  if !(← createData ops o k v) then
    M.typeError ("cannot redefine property: " ++ (← get).keyText k)

def setOrThrow (ops : Ops) (o : Nat) (k : Key) (v : Value) : M Unit := do
  if !(← setWith ops o k v (.obj o)) then
    M.typeError ("cannot set non-writable property: " ++ (← get).keyText k)

def deleteOrThrow (ops : Ops) (o : Nat) (k : Key) : M Unit := do
  if !(← delete ops o k) then
    M.typeError ("cannot delete non-configurable property: " ++ (← get).keyText k)

end Objects

end ScriptBridge.Script
