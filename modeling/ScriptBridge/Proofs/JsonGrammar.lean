import ScriptBridge.Config.Basic

/-!
# The grammar of JSON text

JSON text as characters, in the words of its standard: whitespace, the three literals, numbers,
strings and the two containers, each nesting values of any depth. A predicate here holds of
exactly the characters of one such piece, so a text is cut into pieces by `++`.

Strings come in two readings. `StringText` is a string as the standard writes it, any escape of
four hexadecimal digits allowed. `StringLit` also says what it stands for, and there an escaped
surrogate must be the first half of a pair whose second half follows as another escape, since
only the pair stands for a character.

`Items` and `Bracketed` describe a list between brackets, items separated by commas with
whitespace about each; a configuration's lists and members are read in that shape.
-/

namespace ScriptBridge.Json.Grammar

def Blank (c : Char) : Prop := c = ' ' ∨ c = '\n' ∨ c = '\t' ∨ c = '\r'

instance : DecidablePred Blank := fun c =>
  inferInstanceAs (Decidable (c = ' ' ∨ c = '\n' ∨ c = '\t' ∨ c = '\r'))

def Ws (w : List Char) : Prop := ∀ c ∈ w, Blank c

instance : DecidablePred Ws := fun w => inferInstanceAs (Decidable (∀ c ∈ w, Blank c))

def Digit (c : Char) : Prop := '0' ≤ c ∧ c ≤ '9'

instance : DecidablePred Digit := fun c => inferInstanceAs (Decidable ('0' ≤ c ∧ c ≤ '9'))

def DigitRun (ds : List Char) : Prop := ∀ c ∈ ds, Digit c

def digitsValue (ds : List Char) : Nat := ds.foldl (fun n c => n * 10 + (c.toNat - 48)) 0

/-! ## Numbers -/

/-- The integer part of a number: `0`, or a digit from `1` to `9` and any digits after it. -/
inductive IntPart : List Char → Prop
  | zero : IntPart ['0']
  | lead {d : Char} {ds : List Char} : '1' ≤ d → d ≤ '9' → DigitRun ds → IntPart (d :: ds)

/-- The fraction of a number: nothing, or a point and at least one digit. -/
inductive Fraction : List Char → Prop
  | none : Fraction []
  | some {d : Char} {ds : List Char} : Digit d → DigitRun ds → Fraction ('.' :: d :: ds)

/-- The exponent of a number: nothing, or `e` or `E`, an optional sign and at least one digit. -/
inductive Exponent : List Char → Prop
  | none : Exponent []
  | some {e d : Char} {s ds : List Char} : (e = 'e' ∨ e = 'E') → (s = [] ∨ s = ['+'] ∨ s = ['-']) →
      Digit d → DigitRun ds → Exponent (e :: s ++ d :: ds)

/-- A number: an optional minus sign, the integer part, a fraction and an exponent. -/
inductive Number : List Char → Prop
  | mk {s i f e : List Char} : (s = [] ∨ s = ['-']) → IntPart i → Fraction f → Exponent e →
      Number (s ++ i ++ f ++ e)

/-! ## Strings -/

def Unescaped (c : Char) : Prop := 0x20 ≤ c.toNat ∧ c ≠ '"' ∧ c ≠ '\\'

instance : DecidablePred Unescaped := fun c =>
  inferInstanceAs (Decidable (0x20 ≤ c.toNat ∧ c ≠ '"' ∧ c ≠ '\\'))

def shortEscape : Char → Option Char
  | '"' => some '"'
  | '\\' => some '\\'
  | '/' => some '/'
  | 'b' => some '\x08'
  | 'f' => some '\x0c'
  | 'n' => some '\n'
  | 'r' => some '\r'
  | 't' => some '\t'
  | _ => none

def hexDigit (c : Char) : Option Nat :=
  if '0' ≤ c ∧ c ≤ '9' then some (c.toNat - 48)
  else if 'A' ≤ c ∧ c ≤ 'F' then some (c.toNat - 55)
  else if 'a' ≤ c ∧ c ≤ 'f' then some (c.toNat - 87)
  else none

/-- Four hexadecimal digits and the number they stand for. -/
inductive Hex4 : List Char → Nat → Prop
  | mk {a b c d : Char} {va vb vc vd : Nat} : hexDigit a = some va → hexDigit b = some vb →
      hexDigit c = some vc → hexDigit d = some vd → Hex4 [a, b, c, d] (((va * 16 + vb) * 16 + vc) * 16 + vd)

/-- The characters after a backslash as the standard writes them: one letter, or `u` and four
hexadecimal digits. -/
inductive EscapeText : List Char → Prop
  | short {e : Char} : (shortEscape e).isSome → EscapeText [e]
  | unicode {h : List Char} {n : Nat} : Hex4 h n → EscapeText ('u' :: h)

/-- The body of a string as the standard writes it: characters held as they are, and escapes. -/
inductive StringBody : List Char → Prop
  | nil : StringBody []
  | plain {c : Char} {t : List Char} : Unescaped c → StringBody t → StringBody (c :: t)
  | escape {e t : List Char} : EscapeText e → StringBody t → StringBody ('\\' :: e ++ t)

/-- A string as the standard writes it. -/
inductive StringText : List Char → Prop
  | mk {body : List Char} : StringBody body → StringText ('"' :: body ++ ['"'])

def IsSurrogate (n : Nat) : Prop := 0xD800 ≤ n ∧ n ≤ 0xDFFF

def pairChar (hi lo : Nat) : Char := Char.ofNat (0x10000 + (hi - 0xD800) * 0x400 + (lo - 0xDC00))

/-- The characters after a backslash and the character they stand for. A `u` escape of a
surrogate stands for nothing alone: a high surrogate must be followed by the escape of a low one,
and the two stand for one character. -/
inductive Escape : List Char → Char → Prop
  | short {e c : Char} : shortEscape e = some c → Escape [e] c
  | unicode {h : List Char} {n : Nat} : Hex4 h n → ¬IsSurrogate n → Escape ('u' :: h) (Char.ofNat n)
  | pair {h h' : List Char} {hi lo : Nat} : Hex4 h hi → 0xD800 ≤ hi → hi ≤ 0xDBFF →
      Hex4 h' lo → 0xDC00 ≤ lo → lo ≤ 0xDFFF → Escape ('u' :: h ++ '\\' :: 'u' :: h') (pairChar hi lo)

/-- The body of a string and the characters it stands for. -/
inductive Decodes : List Char → List Char → Prop
  | nil : Decodes [] []
  | plain {c : Char} {t s : List Char} : Unescaped c → Decodes t s → Decodes (c :: t) (c :: s)
  | escape {e t s : List Char} {c : Char} : Escape e c → Decodes t s → Decodes ('\\' :: e ++ t) (c :: s)

/-- A string and the text it stands for. -/
inductive StringLit : List Char → String → Prop
  | mk {body cs : List Char} : Decodes body cs → StringLit ('"' :: body ++ ['"']) (String.ofList cs)

/-! ## Values -/

mutual

/-- A JSON value, of any depth. -/
inductive Value : List Char → Prop
  | null : Value ['n', 'u', 'l', 'l']
  | true : Value ['t', 'r', 'u', 'e']
  | false : Value ['f', 'a', 'l', 's', 'e']
  | number {t : List Char} : Number t → Value t
  | string {t : List Char} : StringText t → Value t
  | emptyArray {w : List Char} : Ws w → Value ('[' :: w ++ [']'])
  | array {t : List Char} : Elements t → Value ('[' :: t ++ [']'])
  | emptyObject {w : List Char} : Ws w → Value ('{' :: w ++ ['}'])
  | object {t : List Char} : Fields t → Value ('{' :: t ++ ['}'])

/-- The elements of an array: values separated by commas, with whitespace about each. -/
inductive Elements : List Char → Prop
  | one {w₁ x w₂ : List Char} : Ws w₁ → Value x → Ws w₂ → Elements (w₁ ++ x ++ w₂)
  | cons {w₁ x w₂ t : List Char} : Ws w₁ → Value x → Ws w₂ → Elements t →
      Elements (w₁ ++ x ++ w₂ ++ ',' :: t)

/-- The members of an object: a name, a colon and a value, separated by commas. -/
inductive Fields : List Char → Prop
  | one {w₁ k w₂ w₃ x w₄ : List Char} : Ws w₁ → StringText k → Ws w₂ → Ws w₃ → Value x → Ws w₄ →
      Fields (w₁ ++ k ++ w₂ ++ ':' :: w₃ ++ x ++ w₄)
  | cons {w₁ k w₂ w₃ x w₄ t : List Char} : Ws w₁ → StringText k → Ws w₂ → Ws w₃ → Value x →
      Ws w₄ → Fields t → Fields (w₁ ++ k ++ w₂ ++ ':' :: w₃ ++ x ++ w₄ ++ ',' :: t)

end

/-! ## Lists between brackets -/

/-- Items separated by commas, with whitespace about each, and what they stand for. -/
inductive Items {α : Type} (P : List Char → α → Prop) : List Char → List α → Prop
  | one {w₁ x w₂ : List Char} {a : α} : Ws w₁ → P x a → Ws w₂ → Items P (w₁ ++ x ++ w₂) [a]
  | cons {w₁ x w₂ t : List Char} {a : α} {as : List α} : Ws w₁ → P x a → Ws w₂ → Items P t as →
      Items P (w₁ ++ x ++ w₂ ++ ',' :: t) (a :: as)

/-- A list between an opening and a closing bracket: only whitespace, or items. -/
inductive Bracketed {α : Type} (o c : Char) (P : List Char → α → Prop) : List Char → List α → Prop
  | empty {w : List Char} : Ws w → Bracketed o c P (o :: w ++ [c]) []
  | items {t : List Char} {as : List α} : Items P t as → Bracketed o c P (o :: t ++ [c]) as

end ScriptBridge.Json.Grammar
