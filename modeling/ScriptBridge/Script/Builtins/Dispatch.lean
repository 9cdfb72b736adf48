import ScriptBridge.Script.Builtins.Objects
import ScriptBridge.Script.Builtins.Arrays
import ScriptBridge.Script.Builtins.Strings
import ScriptBridge.Script.Builtins.Numbers
import ScriptBridge.Script.Builtins.Json

/-!
# Running a built-in function

Each `Native` tag names one built-in function; `Native.run` runs it on one invocation. Code given
to `eval` or `Function` is run by the calling convention's script runner.
-/

namespace ScriptBridge.Script.Builtins

def evalFn (c : Call) : M Value := do
  match c.arg 0 with
  | .str s => c.ops.evalScript s
  | v => pure v

def functionCtor (c : Call) : M Value := do
  let texts ← c.args.mapM (Convert.toString c.ops)
  let (params, body) := match texts.reverse with
    | [] => ([], #[])
    | b :: ps => (ps.reverse, b)
  let src := Units.ofString "(function anonymous(" ++
    ((params.intersperse (Units.ofString ",")).foldl (· ++ ·) #[]) ++
    Units.ofString "\n) \x7b\n" ++ body ++ Units.ofString "\n\x7d)"
  c.ops.evalScript src

def run : Native → Call → M Value
  | .evalFn => evalFn
  | .isNaN => globalIsNaN
  | .isFinite => globalIsFinite
  | .parseInt => parseInt
  | .parseFloat => parseFloat
  | .objectCtor => objectCtor
  | .functionCtor => functionCtor
  | .arrayCtor => arrayCtor
  | .stringCtor => stringCtor
  | .numberCtor => numberCtor
  | .booleanCtor => booleanCtor
  | .symbolCtor => symbolCtor
  | .bigintCtor => bigintCtor
  | .errorCtor k => errorCtor k
  | .dateCtor => dateCtor
  | .uint8ArrayCtor => uint8ArrayCtor
  | .proxyCtor => proxyCtor
  | .objectKeys => objectKeys
  | .objectValues => objectValues
  | .objectEntries => objectEntries
  | .objectAssign => objectAssign
  | .objectCreate => objectCreate
  | .objectFreeze => objectFreeze true
  | .objectIsFrozen => objectIsFrozen true
  | .objectSeal => objectFreeze false
  | .objectIsSealed => objectIsFrozen false
  | .objectPreventExtensions => objectPreventExtensions
  | .objectIsExtensible => objectIsExtensible
  | .objectDefineProperty => objectDefineProperty
  | .objectDefineProperties => objectDefineProperties
  | .objectGetOwnPropertyNames => objectGetOwnPropertyNames
  | .objectGetOwnPropertyDescriptor => objectGetOwnPropertyDescriptor
  | .objectGetPrototypeOf => objectGetPrototypeOf
  | .objectSetPrototypeOf => objectSetPrototypeOf
  | .objectIs => fun c => pure (.bool (Value.sameValue (c.arg 0) (c.arg 1)))
  | .objectFromEntries => objectFromEntries
  | .hasOwnProperty => hasOwnProperty
  | .isPrototypeOf => isPrototypeOf
  | .propertyIsEnumerable => propertyIsEnumerable
  | .objectToString => objectToString
  | .toLocaleString => toLocaleString
  | .objectValueOf => objectValueOf
  | .functionCall => functionCall
  | .functionApply => functionApply
  | .functionBind => functionBind
  | .functionToString => functionToString
  | .arrayIsArray => arrayIsArray
  | .arrayOf => arrayOf
  | .arrayFrom => arrayFrom
  | .arraySpecies => arraySpecies
  | .arrayPush => arrayPush
  | .arrayPop => arrayPop
  | .arrayShift => arrayShift
  | .arrayUnshift => arrayUnshift
  | .arraySlice => arraySlice
  | .arraySplice => arraySplice
  | .arrayConcat => arrayConcat
  | .arrayJoin => arrayJoin
  | .arrayToString => fun c => arrayToString c objectToString
  | .arrayIndexOf => arrayIndexOf
  | .arrayLastIndexOf => arrayLastIndexOf
  | .arrayIncludes => arrayIncludes
  | .arrayFill => arrayFill
  | .arrayMap => arrayMap
  | .arrayFilter => arrayFilter
  | .arrayForEach => arrayForEach
  | .arrayReduce => arrayReduce
  | .arraySome => arrayTest true
  | .arrayEvery => arrayTest false
  | .arrayFind => arrayFind false
  | .arrayFindIndex => arrayFind true
  | .arrayReverse => arrayReverse
  | .arraySort => arraySort
  | .arrayAt => arrayAt
  | .fromCharCode => fromCharCode
  | .fromCodePoint => fromCodePoint
  | .stringValueOf => stringValueOf
  | .charAt => charAt
  | .charCodeAt => charCodeAt
  | .codePointAt => codePointAt
  | .stringAt => stringAt
  | .stringIndexOf => stringIndexOf
  | .stringLastIndexOf => stringLastIndexOf
  | .stringIncludes => stringIncludes
  | .startsWith => startsWith
  | .endsWith => endsWith
  | .stringSlice => stringSlice
  | .substring => substring
  | .substr => substr
  | .toUpperCase => toUpperCase
  | .toLowerCase => toLowerCase
  | .trim => trimWith Units.trim
  | .trimStart => trimWith Units.trimStart
  | .trimEnd => trimWith Units.trimEnd
  | .padStart => pad true
  | .padEnd => pad false
  | .stringRepeat => stringRepeat
  | .split => split
  | .stringConcat => stringConcat
  | .stringReplace => replace false
  | .stringReplaceAll => replace true
  | .numberIsInteger => numberIsInteger
  | .numberIsSafeInteger => numberIsSafeInteger
  | .numberIsFinite => numberIsFinite
  | .numberIsNaN => numberIsNaN
  | .numberToString => numberToString
  | .numberValueOf => numberValueOf
  | .toFixed => toFixed
  | .booleanToString => booleanToString
  | .booleanValueOf => booleanValueOf
  | .asUintN => asUintN
  | .asIntN => asIntN
  | .bigintToString => bigintToString
  | .bigintValueOf => bigintValueOf
  | .symbolToString => symbolToString
  | .symbolValueOf => symbolValueOf
  | .symbolDescription => symbolDescription
  | .mathAbs => mathUnary Float.abs
  | .mathFloor => mathUnary Float.floor
  | .mathCeil => mathUnary Float.ceil
  | .mathRound => mathUnary roundHalfUp
  | .mathTrunc => mathUnary truncate
  | .mathSign => mathUnary signOf
  | .mathSqrt => mathUnary Float.sqrt
  | .mathCbrt => mathUnary Float.cbrt
  | .mathMax => mathMax
  | .mathMin => mathMin
  | .mathPow => mathPow
  | .mathHypot => mathHypot
  | .mathExp => mathUnary Float.exp
  | .mathLog => mathUnary Float.log
  | .mathLog2 => mathUnary Float.log2
  | .mathLog10 => mathUnary Float.log10
  | .mathSin => mathUnary Float.sin
  | .mathCos => mathUnary Float.cos
  | .mathTan => mathUnary Float.tan
  | .mathAtan => mathUnary Float.atan
  | .mathAtan2 => mathAtan2
  | .mathAsin => mathUnary Float.asin
  | .mathAcos => mathUnary Float.acos
  | .jsonParse => jsonParse
  | .jsonStringify => jsonStringify
  | .reflectGet => reflectGet
  | .reflectSet => reflectSet
  | .reflectHas => reflectHas
  | .reflectOwnKeys => reflectOwnKeys
  | .reflectGetPrototypeOf => reflectGetPrototypeOf
  | .reflectSetPrototypeOf => reflectSetPrototypeOf
  | .reflectDefineProperty => reflectDefineProperty
  | .reflectDeleteProperty => reflectDeleteProperty
  | .reflectApply => reflectApply
  | .reflectConstruct => reflectConstruct
  | .reflectGetOwnPropertyDescriptor => reflectGetOwnPropertyDescriptor
  | .reflectIsExtensible => reflectIsExtensible
  | .reflectPreventExtensions => reflectPreventExtensions
  | .errorToString => errorToString
  | .dateGetTime => dateGetTime
  | .dateValueOf => dateGetTime
  | .typedLength => typedLength
  | .typedJoin => typedJoin
  | .typedIndexOf => typedIndexOf
  | .typedLastIndexOf => typedLastIndexOf
  | .typedIncludes => typedIncludes
  | .typedFill => typedFill

end ScriptBridge.Script.Builtins
