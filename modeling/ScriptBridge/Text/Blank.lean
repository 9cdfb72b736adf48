import ScriptBridge.Text.Units

/-!
# Blank code units

The code units that the script language counts as white space or line terminators: the ones
trimmed from both ends of a string before it is read as a number, and by `trim`. They are tab,
vertical tab, form feed, space, no-break space, the byte order mark, the space separators of
Unicode (category Zs), and the four line terminators.
-/

namespace ScriptBridge.Units

def isBlank (u : UInt16) : Bool :=
  let n := u.toNat
  n == 0x09 || n == 0x0A || n == 0x0B || n == 0x0C || n == 0x0D || n == 0x20 || n == 0xA0 ||
  n == 0x1680 || (0x2000 ≤ n && n ≤ 0x200A) || n == 0x2028 || n == 0x2029 || n == 0x202F ||
  n == 0x205F || n == 0x3000 || n == 0xFEFF

def trimStart (s : Units) : Units := (s.toList.dropWhile isBlank).toArray

def trimEnd (s : Units) : Units := ((s.toList.reverse.dropWhile isBlank).reverse).toArray

def trim (s : Units) : Units := trimEnd (trimStart s)

example : trim (ofString " \t x y\n") = ofString "x y" := by decide

end ScriptBridge.Units
