import ScriptBridge.Script.Builtins.Numbers

/-!
# A fresh realm

A new realm holds the built-in objects at fixed places, in the order of `Intrinsic`, followed by
the built-in functions. The global object carries the constructors, `Math`, `JSON`, `Reflect`,
the global functions and the constants `NaN`, `Infinity` and `undefined`; built-in methods are
writable, configurable and hidden from enumeration, constants are fixed.
-/

namespace ScriptBridge.Script

namespace Setup

def put (o : Nat) (k : Key) (p : Property) : M Unit := modify fun r => r.putProp o k p

def methodAs (o : Nat) (name : String) (n : Native) : M Unit := do
  let f ← M.makeFunction (.native n) n.arity name false
  put o (Key.ofString name) (Property.hidden (.obj f))

def methods (o : Nat) (ns : List Native) : M Unit :=
  ns.forM fun n => methodAs o n.name n

def getter (o : Nat) (k : Key) (n : Native) : M Unit := do
  let f ← M.makeNative n
  put o k ⟨.accessor (.obj f) .undefined, false, true⟩

def constants (o : Nat) (cs : List (String × Value)) : M Unit :=
  cs.forM fun (name, v) => put o (Key.ofString name) (Property.fixed v)

def tag (o : Nat) (name : String) : M Unit :=
  put o WellKnown.toStringTag.key ⟨.data (Value.ofString name) false, false, true⟩

def globalRef : Nat := Intrinsic.globalObject.ref

def ctor (n : Native) (proto : Option Intrinsic) : M Nat := do
  let f ← M.makeNative n
  if let some p := proto then
    put f (Key.ofString "prototype") (Property.fixed (.obj p.ref))
    put p.ref (Key.ofString "constructor") (Property.hidden (.obj f))
  put globalRef (Key.ofString n.name) (Property.hidden (.obj f))
  pure f

def initial : Intrinsic → Obj
  | .objectPrototype => { proto := none }
  | .arrayPrototype => { proto := some Intrinsic.objectPrototype.ref, kind := .array 0 true }
  | .stringPrototype => { proto := some Intrinsic.objectPrototype.ref, kind := .boxed (.str #[]) }
  | .numberPrototype => { proto := some Intrinsic.objectPrototype.ref, kind := .boxed (.num 0) }
  | .booleanPrototype => { proto := some Intrinsic.objectPrototype.ref, kind := .boxed (.bool false) }
  | .typeErrorPrototype | .rangeErrorPrototype | .syntaxErrorPrototype
  | .referenceErrorPrototype | .evalErrorPrototype | .uriErrorPrototype =>
    { proto := some Intrinsic.errorPrototype.ref }
  | .uint8ArrayPrototype => { proto := some Intrinsic.typedArrayPrototype.ref }
  | _ => { proto := some Intrinsic.objectPrototype.ref }

def num (x : Float) : Value := .num x

def populate : M Unit := do
  let g := globalRef
  let str := fun (s : String) => Value.ofString s
  put g (Key.ofString "globalThis") (Property.hidden (.obj g))
  constants g [("NaN", num Builtins.nan), ("Infinity", num Builtins.infinity),
    ("undefined", .undefined)]
  methods g [.evalFn, .isNaN, .isFinite, .parseInt, .parseFloat]
  let objectCtor ← ctor .objectCtor (some .objectPrototype)
  methods objectCtor [.objectKeys, .objectValues, .objectEntries, .objectAssign, .objectCreate,
    .objectFreeze, .objectIsFrozen, .objectSeal, .objectIsSealed, .objectPreventExtensions,
    .objectIsExtensible, .objectDefineProperty, .objectDefineProperties,
    .objectGetOwnPropertyNames, .objectGetOwnPropertyDescriptor, .objectGetPrototypeOf,
    .objectSetPrototypeOf, .objectIs, .objectFromEntries]
  methods Intrinsic.objectPrototype.ref [.hasOwnProperty, .isPrototypeOf, .propertyIsEnumerable,
    .objectToString, .toLocaleString, .objectValueOf]
  let _ ← ctor .functionCtor (some .functionPrototype)
  methods Intrinsic.functionPrototype.ref [.functionCall, .functionApply, .functionBind,
    .functionToString]
  put Intrinsic.functionPrototype.ref (Key.ofString "length") (functionMeta (num 0))
  put Intrinsic.functionPrototype.ref (Key.ofString "name") (functionMeta (str ""))
  let arrayCtor ← ctor .arrayCtor (some .arrayPrototype)
  methods arrayCtor [.arrayIsArray, .arrayOf, .arrayFrom]
  getter arrayCtor WellKnown.species.key .arraySpecies
  methods Intrinsic.arrayPrototype.ref [.arrayPush, .arrayPop, .arrayShift, .arrayUnshift,
    .arraySlice, .arraySplice, .arrayConcat, .arrayJoin, .arrayToString, .arrayIndexOf,
    .arrayLastIndexOf, .arrayIncludes, .arrayFill, .arrayMap, .arrayFilter, .arrayForEach,
    .arrayReduce, .arraySome, .arrayEvery, .arrayFind, .arrayFindIndex, .arrayReverse,
    .arraySort, .arrayAt]
  let stringCtor ← ctor .stringCtor (some .stringPrototype)
  methods stringCtor [.fromCharCode, .fromCodePoint]
  let sp := Intrinsic.stringPrototype.ref
  methods sp [.charAt, .charCodeAt, .codePointAt, .stringAt, .stringIndexOf,
    .stringLastIndexOf, .stringIncludes, .startsWith, .endsWith, .stringSlice, .substring,
    .substr, .toUpperCase, .toLowerCase, .trim, .trimStart, .trimEnd, .padStart, .padEnd,
    .stringRepeat, .split, .stringConcat, .stringReplace, .stringReplaceAll]
  methodAs sp "toString" .stringValueOf
  methodAs sp "valueOf" .stringValueOf
  let numberCtor ← ctor .numberCtor (some .numberPrototype)
  methods numberCtor [.numberIsInteger, .numberIsSafeInteger, .numberIsFinite, .numberIsNaN]
  for name in ["parseFloat", "parseInt"] do
    if let some p := (← get).ownProp? g (Key.ofString name) then put numberCtor (Key.ofString name) p
  constants numberCtor [("MAX_SAFE_INTEGER", num 9007199254740991),
    ("MIN_SAFE_INTEGER", num (-9007199254740991)),
    ("EPSILON", num (Numeric.ofScaled false 1 (-52))),
    ("MAX_VALUE", num (Float.ofBits 0x7FEFFFFFFFFFFFFF)), ("MIN_VALUE", num (Float.ofBits 1)),
    ("NaN", num Builtins.nan), ("POSITIVE_INFINITY", num Builtins.infinity),
    ("NEGATIVE_INFINITY", num (-Builtins.infinity))]
  methods Intrinsic.numberPrototype.ref [.numberToString, .numberValueOf, .toFixed]
  let _ ← ctor .booleanCtor (some .booleanPrototype)
  methods Intrinsic.booleanPrototype.ref [.booleanToString, .booleanValueOf]
  let bigintCtor ← ctor .bigintCtor (some .bigintPrototype)
  methods bigintCtor [.asUintN, .asIntN]
  methods Intrinsic.bigintPrototype.ref [.bigintToString, .bigintValueOf]
  tag Intrinsic.bigintPrototype.ref "BigInt"
  let symbolCtor ← ctor .symbolCtor (some .symbolPrototype)
  for w in WellKnown.all do
    put symbolCtor (Key.ofString w.name) (Property.fixed (.sym w.id))
  methods Intrinsic.symbolPrototype.ref [.symbolToString, .symbolValueOf]
  getter Intrinsic.symbolPrototype.ref (Key.ofString "description") .symbolDescription
  tag Intrinsic.symbolPrototype.ref "Symbol"
  let errorCtor ← ctor (.errorCtor .error) (some .errorPrototype)
  for k in ErrorKind.all do
    let p := (Intrinsic.errorPrototypeOf k).ref
    put p (Key.ofString "name") (Property.hidden (str k.name))
    put p (Key.ofString "message") (Property.hidden (str ""))
    if k != .error then
      let f ← ctor (.errorCtor k) (some (Intrinsic.errorPrototypeOf k))
      M.modifyObj f fun ob => { ob with proto := some errorCtor }
  methods Intrinsic.errorPrototype.ref [.errorToString]
  let _ ← ctor .dateCtor (some .datePrototype)
  methods Intrinsic.datePrototype.ref [.dateGetTime, .dateValueOf]
  let u8 ← ctor .uint8ArrayCtor (some .uint8ArrayPrototype)
  constants u8 [("BYTES_PER_ELEMENT", num 1)]
  constants Intrinsic.uint8ArrayPrototype.ref [("BYTES_PER_ELEMENT", num 1)]
  let tp := Intrinsic.typedArrayPrototype.ref
  getter tp lengthKey .typedLength
  methods tp [.typedJoin, .typedIndexOf, .typedLastIndexOf, .typedIncludes, .typedFill]
  let _ ← ctor .proxyCtor none
  let m := Intrinsic.math.ref
  put g (Key.ofString "Math") (Property.hidden (.obj m))
  tag m "Math"
  constants m [("E", num (Decimal.nearestDecimal 2718281828459045 (-15))),
    ("LN10", num (Decimal.nearestDecimal 2302585092994046 (-15))),
    ("LN2", num (Decimal.nearestDecimal 6931471805599453 (-16))),
    ("LOG10E", num (Decimal.nearestDecimal 4342944819032518 (-16))),
    ("LOG2E", num (Decimal.nearestDecimal 14426950408889634 (-16))),
    ("PI", num (Decimal.nearestDecimal 3141592653589793 (-15))),
    ("SQRT1_2", num (Decimal.nearestDecimal 7071067811865476 (-16))),
    ("SQRT2", num (Decimal.nearestDecimal 14142135623730951 (-16)))]
  methods m [.mathAbs, .mathFloor, .mathCeil, .mathRound, .mathTrunc, .mathSign, .mathSqrt,
    .mathCbrt, .mathMax, .mathMin, .mathPow, .mathHypot, .mathExp, .mathLog, .mathLog2,
    .mathLog10, .mathSin, .mathCos, .mathTan, .mathAtan, .mathAtan2, .mathAsin, .mathAcos]
  let j := Intrinsic.json.ref
  put g (Key.ofString "JSON") (Property.hidden (.obj j))
  tag j "JSON"
  methods j [.jsonParse, .jsonStringify]
  let rf := Intrinsic.reflect.ref
  put g (Key.ofString "Reflect") (Property.hidden (.obj rf))
  tag rf "Reflect"
  methods rf [.reflectGet, .reflectSet, .reflectHas, .reflectOwnKeys, .reflectGetPrototypeOf,
    .reflectSetPrototypeOf, .reflectDefineProperty, .reflectDeleteProperty, .reflectApply,
    .reflectConstruct, .reflectGetOwnPropertyDescriptor, .reflectIsExtensible,
    .reflectPreventExtensions]

def skeleton (limits : Limits) : Realm :=
  { heap := (Intrinsic.all.map initial).toArray
    scopes := #[{ this? := some (.obj globalRef) }]
    symbols := (WellKnown.all.map fun w => some (Units.ofString ("Symbol." ++ w.name))).toArray
    limits }

def realm (limits : Limits) : Realm :=
  match (populate.run (skeleton limits)).run with
  | (_, r) => r

end Setup

end ScriptBridge.Script
