import ScriptBridge.Script.Value

/-!
# Comparing values without conversion

The three equalities of the language that never convert their operands. `sameValue` is identity:
NaN equals itself and the two zeros differ. `sameValueZero` lets the zeros agree. `strictEquals`
(`===`) also lets the zeros agree but makes NaN differ from everything, itself included.
Objects and symbols are equal exactly when they are the same reference.
-/

namespace ScriptBridge.Script

namespace Value

def sameValue : Value → Value → Bool
  | .undefined, .undefined | .null, .null => true
  | .bool a, .bool b => a == b
  | .num x, .num y => x.toBits == y.toBits || (x.isNaN && y.isNaN)
  | .str a, .str b => a == b
  | .bigint a, .bigint b => a == b
  | .sym a, .sym b => a == b
  | .obj a, .obj b => a == b
  | _, _ => false

def sameValueZero : Value → Value → Bool
  | .num x, .num y => x == y || (x.isNaN && y.isNaN)
  | a, b => sameValue a b

def strictEquals : Value → Value → Bool
  | .num x, .num y => x == y
  | a, b => sameValue a b

def primitiveType : Value → String
  | .undefined => "undefined"
  | .null => "object"
  | .bool _ => "boolean"
  | .num _ => "number"
  | .str _ => "string"
  | .bigint _ => "bigint"
  | .sym _ => "symbol"
  | .obj _ => "object"

end Value

def Key.toValue : Key → Value
  | .str s => .str s
  | .sym i => .sym i

end ScriptBridge.Script
