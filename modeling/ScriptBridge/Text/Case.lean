import ScriptBridge.Text.Units

/-!
# Upper and lower case

The case maps of code points for the Latin, Greek and Cyrillic letters, with the few letters
whose upper case is two letters (`ß` becomes `SS`). Code points outside these alphabets keep
their case.
-/

namespace ScriptBridge.Text.Case

def within (c lo hi : Nat) : Bool := lo ≤ c && c ≤ hi

def evenCapitalBlock (c : Nat) : Bool := within c 0x100 0x137 || within c 0x14A 0x177

def oddCapitalBlock (c : Nat) : Bool := within c 0x139 0x148 || within c 0x179 0x17E

def upper (c : Nat) : List Nat :=
  if within c 0x61 0x7A then [c - 32]
  else if c == 0xB5 then [0x39C]
  else if c == 0xDF then [0x53, 0x53]
  else if within c 0xE0 0xFE && c != 0xF7 then [c - 32]
  else if c == 0xFF then [0x178]
  else if c == 0x131 then [0x49]
  else if c == 0x17F then [0x53]
  else if c == 0x149 then [0x2BC, 0x4E]
  else if evenCapitalBlock c then [if c % 2 == 1 then c - 1 else c]
  else if oddCapitalBlock c then [if c % 2 == 0 then c - 1 else c]
  else if c == 0x3C2 then [0x3A3]
  else if within c 0x3B1 0x3CB then [c - 32]
  else if c == 0x3AC then [0x386]
  else if within c 0x3AD 0x3AF then [c - 37]
  else if c == 0x3CC then [0x38C]
  else if within c 0x3CD 0x3CE then [c - 63]
  else if within c 0x430 0x44F then [c - 32]
  else if within c 0x450 0x45F then [c - 80]
  else [c]

def lower (c : Nat) : List Nat :=
  if within c 0x41 0x5A then [c + 32]
  else if within c 0xC0 0xDE && c != 0xD7 then [c + 32]
  else if c == 0x178 then [0xFF]
  else if c == 0x130 then [0x69, 0x307]
  else if evenCapitalBlock c then [if c % 2 == 0 then c + 1 else c]
  else if oddCapitalBlock c then [if c % 2 == 1 then c + 1 else c]
  else if within c 0x391 0x3AB && c != 0x3A2 then [c + 32]
  else if c == 0x386 then [0x3AC]
  else if within c 0x388 0x38A then [c + 37]
  else if c == 0x38C then [0x3CC]
  else if within c 0x38E 0x38F then [c + 63]
  else if within c 0x410 0x42F then [c + 32]
  else if within c 0x400 0x40F then [c + 80]
  else [c]

def mapUnits (f : Nat → List Nat) (s : Units) : Units :=
  ((Units.pieces s).flatMap fun
    | .point c => (f c.toNat).flatMap fun n => Units.ofChar (Char.ofNat n)
    | .lone u => [u]).toArray

def toUpper (s : Units) : Units := mapUnits upper s

def toLower (s : Units) : Units := mapUnits lower s

example : upper 0xDF = [0x53, 0x53] ∧ lower 0x41 = [0x61] ∧ upper 0x3C9 = [0x3A9] := by decide

end ScriptBridge.Text.Case
