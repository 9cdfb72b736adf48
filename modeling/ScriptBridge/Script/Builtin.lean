/-!
# Built-in objects and functions

The objects every realm starts with, and the functions the language provides. Each built-in
object has a fixed place at the start of the heap, so a realm refers to the array prototype or
the global object by a constant. A built-in function is an object whose behaviour is one
constructor of `Native`; its `name` and `length` properties come from `Native.name` and
`Native.arity`.
-/

namespace ScriptBridge.Script

/-- The kinds of error object, each with its own constructor and prototype. -/
inductive ErrorKind where
  | error | typeError | rangeError | syntaxError | referenceError | evalError | uriError
  deriving Inhabited, BEq, Repr

def ErrorKind.name : ErrorKind → String
  | .error => "Error"
  | .typeError => "TypeError"
  | .rangeError => "RangeError"
  | .syntaxError => "SyntaxError"
  | .referenceError => "ReferenceError"
  | .evalError => "EvalError"
  | .uriError => "URIError"

def ErrorKind.all : List ErrorKind :=
  [.error, .typeError, .rangeError, .syntaxError, .referenceError, .evalError, .uriError]

/-- The built-in objects, in the order they are placed at the start of the heap. -/
inductive Intrinsic where
  | objectPrototype | functionPrototype | arrayPrototype | stringPrototype | numberPrototype
  | booleanPrototype | bigintPrototype | symbolPrototype
  | errorPrototype | typeErrorPrototype | rangeErrorPrototype | syntaxErrorPrototype
  | referenceErrorPrototype | evalErrorPrototype | uriErrorPrototype
  | datePrototype | typedArrayPrototype | uint8ArrayPrototype
  | globalObject | math | json | reflect
  deriving Inhabited, BEq, Repr

namespace Intrinsic

def ref (i : Intrinsic) : Nat := i.ctorIdx

def all : List Intrinsic :=
  [objectPrototype, functionPrototype, arrayPrototype, stringPrototype, numberPrototype,
   booleanPrototype, bigintPrototype, symbolPrototype,
   errorPrototype, typeErrorPrototype, rangeErrorPrototype, syntaxErrorPrototype,
   referenceErrorPrototype, evalErrorPrototype, uriErrorPrototype,
   datePrototype, typedArrayPrototype, uint8ArrayPrototype,
   globalObject, math, json, reflect]

def errorPrototypeOf : ErrorKind → Intrinsic
  | .error => errorPrototype
  | .typeError => typeErrorPrototype
  | .rangeError => rangeErrorPrototype
  | .syntaxError => syntaxErrorPrototype
  | .referenceError => referenceErrorPrototype
  | .evalError => evalErrorPrototype
  | .uriError => uriErrorPrototype

end Intrinsic

/-- The built-in functions. -/
inductive Native where
  | evalFn | isNaN | isFinite | parseInt | parseFloat
  | objectCtor | functionCtor | arrayCtor | stringCtor | numberCtor | booleanCtor
  | symbolCtor | bigintCtor | errorCtor (k : ErrorKind) | dateCtor | uint8ArrayCtor | proxyCtor
  | objectKeys | objectValues | objectEntries | objectAssign | objectCreate | objectFreeze
  | objectIsFrozen | objectSeal | objectIsSealed | objectPreventExtensions | objectIsExtensible
  | objectDefineProperty | objectDefineProperties | objectGetOwnPropertyNames
  | objectGetOwnPropertyDescriptor | objectGetPrototypeOf | objectSetPrototypeOf | objectIs
  | objectFromEntries
  | hasOwnProperty | isPrototypeOf | propertyIsEnumerable | objectToString | toLocaleString
  | objectValueOf
  | functionCall | functionApply | functionBind | functionToString
  | arrayIsArray | arrayOf | arrayFrom | arraySpecies
  | arrayPush | arrayPop | arrayShift | arrayUnshift | arraySlice | arraySplice | arrayConcat
  | arrayJoin | arrayToString | arrayIndexOf | arrayLastIndexOf | arrayIncludes | arrayFill
  | arrayMap | arrayFilter | arrayForEach | arrayReduce | arraySome | arrayEvery | arrayFind
  | arrayFindIndex | arrayReverse | arraySort | arrayAt
  | fromCharCode | fromCodePoint
  | stringValueOf | charAt | charCodeAt | codePointAt | stringAt | stringIndexOf
  | stringLastIndexOf | stringIncludes | startsWith | endsWith | stringSlice | substring
  | substr | toUpperCase | toLowerCase | trim | trimStart | trimEnd | padStart | padEnd
  | stringRepeat | split | stringConcat | stringReplace | stringReplaceAll
  | numberIsInteger | numberIsSafeInteger | numberIsFinite | numberIsNaN
  | numberToString | numberValueOf | toFixed
  | booleanToString | booleanValueOf
  | asUintN | asIntN | bigintToString | bigintValueOf
  | symbolToString | symbolValueOf | symbolDescription
  | mathAbs | mathFloor | mathCeil | mathRound | mathTrunc | mathSign | mathSqrt | mathCbrt
  | mathMax | mathMin | mathPow | mathHypot | mathExp | mathLog | mathLog2 | mathLog10
  | mathSin | mathCos | mathTan | mathAtan | mathAtan2 | mathAsin | mathAcos
  | jsonParse | jsonStringify
  | reflectGet | reflectSet | reflectHas | reflectOwnKeys | reflectGetPrototypeOf
  | reflectSetPrototypeOf | reflectDefineProperty | reflectDeleteProperty | reflectApply
  | reflectConstruct | reflectGetOwnPropertyDescriptor | reflectIsExtensible
  | reflectPreventExtensions
  | errorToString | dateGetTime | dateValueOf
  | typedLength | typedJoin | typedIndexOf | typedLastIndexOf | typedIncludes | typedFill
  deriving Inhabited, BEq, Repr

namespace Native

def name : Native → String
  | .evalFn => "eval" | .isNaN => "isNaN" | .isFinite => "isFinite"
  | .parseInt => "parseInt" | .parseFloat => "parseFloat"
  | .objectCtor => "Object" | .functionCtor => "Function" | .arrayCtor => "Array"
  | .stringCtor => "String" | .numberCtor => "Number" | .booleanCtor => "Boolean"
  | .symbolCtor => "Symbol" | .bigintCtor => "BigInt" | .errorCtor k => k.name
  | .dateCtor => "Date" | .uint8ArrayCtor => "Uint8Array" | .proxyCtor => "Proxy"
  | .objectKeys => "keys" | .objectValues => "values" | .objectEntries => "entries"
  | .objectAssign => "assign" | .objectCreate => "create" | .objectFreeze => "freeze"
  | .objectIsFrozen => "isFrozen" | .objectSeal => "seal" | .objectIsSealed => "isSealed"
  | .objectPreventExtensions => "preventExtensions" | .objectIsExtensible => "isExtensible"
  | .objectDefineProperty => "defineProperty" | .objectDefineProperties => "defineProperties"
  | .objectGetOwnPropertyNames => "getOwnPropertyNames"
  | .objectGetOwnPropertyDescriptor => "getOwnPropertyDescriptor"
  | .objectGetPrototypeOf => "getPrototypeOf" | .objectSetPrototypeOf => "setPrototypeOf"
  | .objectIs => "is" | .objectFromEntries => "fromEntries"
  | .hasOwnProperty => "hasOwnProperty" | .isPrototypeOf => "isPrototypeOf"
  | .propertyIsEnumerable => "propertyIsEnumerable" | .objectToString => "toString"
  | .toLocaleString => "toLocaleString" | .objectValueOf => "valueOf"
  | .functionCall => "call" | .functionApply => "apply" | .functionBind => "bind"
  | .functionToString => "toString"
  | .arrayIsArray => "isArray" | .arrayOf => "of" | .arrayFrom => "from"
  | .arraySpecies => "get [Symbol.species]"
  | .arrayPush => "push" | .arrayPop => "pop" | .arrayShift => "shift"
  | .arrayUnshift => "unshift" | .arraySlice => "slice" | .arraySplice => "splice"
  | .arrayConcat => "concat" | .arrayJoin => "join" | .arrayToString => "toString"
  | .arrayIndexOf => "indexOf" | .arrayLastIndexOf => "lastIndexOf"
  | .arrayIncludes => "includes" | .arrayFill => "fill" | .arrayMap => "map"
  | .arrayFilter => "filter" | .arrayForEach => "forEach" | .arrayReduce => "reduce"
  | .arraySome => "some" | .arrayEvery => "every" | .arrayFind => "find"
  | .arrayFindIndex => "findIndex" | .arrayReverse => "reverse" | .arraySort => "sort"
  | .arrayAt => "at"
  | .fromCharCode => "fromCharCode" | .fromCodePoint => "fromCodePoint"
  | .stringValueOf => "valueOf" | .charAt => "charAt" | .charCodeAt => "charCodeAt"
  | .codePointAt => "codePointAt" | .stringAt => "at" | .stringIndexOf => "indexOf"
  | .stringLastIndexOf => "lastIndexOf" | .stringIncludes => "includes"
  | .startsWith => "startsWith" | .endsWith => "endsWith" | .stringSlice => "slice"
  | .substring => "substring" | .substr => "substr" | .toUpperCase => "toUpperCase"
  | .toLowerCase => "toLowerCase" | .trim => "trim" | .trimStart => "trimStart"
  | .trimEnd => "trimEnd" | .padStart => "padStart" | .padEnd => "padEnd"
  | .stringRepeat => "repeat" | .split => "split" | .stringConcat => "concat"
  | .stringReplace => "replace" | .stringReplaceAll => "replaceAll"
  | .numberIsInteger => "isInteger" | .numberIsSafeInteger => "isSafeInteger"
  | .numberIsFinite => "isFinite" | .numberIsNaN => "isNaN"
  | .numberToString => "toString" | .numberValueOf => "valueOf" | .toFixed => "toFixed"
  | .booleanToString => "toString" | .booleanValueOf => "valueOf"
  | .asUintN => "asUintN" | .asIntN => "asIntN" | .bigintToString => "toString"
  | .bigintValueOf => "valueOf"
  | .symbolToString => "toString" | .symbolValueOf => "valueOf"
  | .symbolDescription => "get description"
  | .mathAbs => "abs" | .mathFloor => "floor" | .mathCeil => "ceil" | .mathRound => "round"
  | .mathTrunc => "trunc" | .mathSign => "sign" | .mathSqrt => "sqrt" | .mathCbrt => "cbrt"
  | .mathMax => "max" | .mathMin => "min" | .mathPow => "pow" | .mathHypot => "hypot"
  | .mathExp => "exp" | .mathLog => "log" | .mathLog2 => "log2" | .mathLog10 => "log10"
  | .mathSin => "sin" | .mathCos => "cos" | .mathTan => "tan" | .mathAtan => "atan"
  | .mathAtan2 => "atan2" | .mathAsin => "asin" | .mathAcos => "acos"
  | .jsonParse => "parse" | .jsonStringify => "stringify"
  | .reflectGet => "get" | .reflectSet => "set" | .reflectHas => "has"
  | .reflectOwnKeys => "ownKeys" | .reflectGetPrototypeOf => "getPrototypeOf"
  | .reflectSetPrototypeOf => "setPrototypeOf" | .reflectDefineProperty => "defineProperty"
  | .reflectDeleteProperty => "deleteProperty" | .reflectApply => "apply"
  | .reflectConstruct => "construct"
  | .reflectGetOwnPropertyDescriptor => "getOwnPropertyDescriptor"
  | .reflectIsExtensible => "isExtensible" | .reflectPreventExtensions => "preventExtensions"
  | .errorToString => "toString" | .dateGetTime => "getTime" | .dateValueOf => "valueOf"
  | .typedLength => "get length" | .typedJoin => "join" | .typedIndexOf => "indexOf"
  | .typedLastIndexOf => "lastIndexOf" | .typedIncludes => "includes" | .typedFill => "fill"

def arity : Native → Nat
  | .evalFn | .isNaN | .isFinite | .parseFloat => 1
  | .parseInt => 2
  | .objectCtor | .functionCtor | .arrayCtor | .stringCtor | .numberCtor | .booleanCtor => 1
  | .symbolCtor => 0
  | .bigintCtor | .errorCtor _ => 1
  | .dateCtor => 7
  | .uint8ArrayCtor => 3
  | .proxyCtor => 2
  | .objectKeys | .objectValues | .objectEntries => 1
  | .objectAssign | .objectCreate | .objectDefineProperties | .objectSetPrototypeOf
  | .objectIs | .objectGetOwnPropertyDescriptor => 2
  | .objectDefineProperty => 3
  | .objectFreeze | .objectIsFrozen | .objectSeal | .objectIsSealed | .objectPreventExtensions
  | .objectIsExtensible | .objectGetOwnPropertyNames | .objectGetPrototypeOf
  | .objectFromEntries => 1
  | .hasOwnProperty | .isPrototypeOf | .propertyIsEnumerable => 1
  | .objectToString | .toLocaleString | .objectValueOf => 0
  | .functionCall | .functionBind => 1
  | .functionApply => 2
  | .functionToString => 0
  | .arrayIsArray | .arrayFrom => 1
  | .arrayOf | .arraySpecies => 0
  | .arrayPush | .arrayUnshift | .arrayConcat => 1
  | .arrayPop | .arrayShift | .arrayToString | .arrayReverse => 0
  | .arraySlice | .arraySplice => 2
  | .arrayJoin | .arrayIndexOf | .arrayLastIndexOf | .arrayIncludes | .arrayFill => 1
  | .arrayMap | .arrayFilter | .arrayForEach | .arrayReduce | .arraySome | .arrayEvery
  | .arrayFind | .arrayFindIndex | .arraySort | .arrayAt => 1
  | .fromCharCode | .fromCodePoint => 1
  | .stringValueOf | .toUpperCase | .toLowerCase | .trim | .trimStart | .trimEnd => 0
  | .charAt | .charCodeAt | .codePointAt | .stringAt | .stringIndexOf | .stringLastIndexOf
  | .stringIncludes | .startsWith | .endsWith | .stringRepeat | .stringConcat => 1
  | .stringSlice | .substring | .substr | .padStart | .padEnd | .split => 2
  | .stringReplace | .stringReplaceAll => 2
  | .numberIsInteger | .numberIsSafeInteger | .numberIsFinite | .numberIsNaN => 1
  | .numberToString | .toFixed => 1
  | .numberValueOf | .booleanToString | .booleanValueOf => 0
  | .asUintN | .asIntN => 2
  | .bigintToString | .bigintValueOf | .symbolToString | .symbolValueOf
  | .symbolDescription => 0
  | .mathAbs | .mathFloor | .mathCeil | .mathRound | .mathTrunc | .mathSign | .mathSqrt
  | .mathCbrt | .mathExp | .mathLog | .mathLog2 | .mathLog10 | .mathSin | .mathCos | .mathTan
  | .mathAtan | .mathAsin | .mathAcos => 1
  | .mathMax | .mathMin | .mathPow | .mathHypot | .mathAtan2 => 2
  | .jsonParse => 2
  | .jsonStringify => 3
  | .reflectGet | .reflectHas | .reflectDeleteProperty | .reflectConstruct
  | .reflectGetOwnPropertyDescriptor | .reflectSetPrototypeOf => 2
  | .reflectSet | .reflectDefineProperty | .reflectApply => 3
  | .reflectOwnKeys | .reflectGetPrototypeOf | .reflectIsExtensible
  | .reflectPreventExtensions => 1
  | .errorToString | .dateGetTime | .dateValueOf | .typedLength => 0
  | .typedJoin | .typedIndexOf | .typedLastIndexOf | .typedIncludes | .typedFill => 1

def isConstructor : Native → Bool
  | .objectCtor | .functionCtor | .arrayCtor | .stringCtor | .numberCtor | .booleanCtor
  | .errorCtor _ | .dateCtor | .uint8ArrayCtor | .proxyCtor => true
  | _ => false

end Native

end ScriptBridge.Script
