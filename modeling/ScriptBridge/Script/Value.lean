import Std.Data.TreeMap.Basic
import ScriptBridge.Text.Units

/-!
# Script values and properties

The values a script computes with, the keys that name properties, and the table in which an
object keeps its own properties. Objects and symbols are referred to by number: two references
denote the same object exactly when their numbers agree, which is the identity that scripts
observe with `===`.

A property table keeps array indices (canonical decimal names below `2 ^ 32 - 1`) in ascending
order and every other name in the order it was first added, which is the order in which an
object lists its own keys.
-/

namespace ScriptBridge.Script

/-- A script value. Objects and symbols are references into the realm. -/
inductive Value where
  | undefined
  | null
  | bool (b : Bool)
  | num (x : Float)
  | str (s : Units)
  | bigint (n : Int)
  | sym (id : Nat)
  | obj (ref : Nat)
  deriving Inhabited, Repr

namespace Value

def isNullish : Value → Bool
  | .undefined | .null => true
  | _ => false

def asObj? : Value → Option Nat
  | .obj r => some r
  | _ => none

def ofString (s : String) : Value := .str (Units.ofString s)

end Value

/-- A property key: a string or a symbol. -/
inductive Key where
  | str (s : Units)
  | sym (id : Nat)
  deriving Inhabited, BEq, Repr

namespace Key

def ofString (s : String) : Key := .str (Units.ofString s)

def digitOf (u : UInt16) : Option Nat :=
  if 48 ≤ u.toNat ∧ u.toNat ≤ 57 then some (u.toNat - 48) else none

def canonicalNat? (s : Units) : Option Nat :=
  if s.size = 0 then none
  else if s.size > 1 && s[0]! == 48 then none
  else s.foldl (fun acc u => do let n ← acc; let d ← digitOf u; pure (n * 10 + d)) (some 0)

def indexBound : Nat := 4294967295

def index? : Key → Option Nat
  | .str s => match canonicalNat? s with
    | some n => if n < indexBound then some n else none
    | none => none
  | .sym _ => none

def ofIndex (n : Nat) : Key := .str (Units.ofNat n)

end Key

/-- The value part of a property: a stored value, or a pair of accessor functions. -/
inductive Slot where
  | data (value : Value) (writable : Bool)
  | accessor (getter setter : Value)
  deriving Inhabited

/-- An own property of an object. -/
structure Property where
  slot : Slot
  enumerable : Bool
  configurable : Bool
  deriving Inhabited

namespace Property

def plain (v : Value) : Property := ⟨.data v true, true, true⟩

def hidden (v : Value) : Property := ⟨.data v true, false, true⟩

def fixed (v : Value) : Property := ⟨.data v false, false, false⟩

end Property

/-- A partial property description, as `Object.defineProperty` receives. -/
structure Descriptor where
  value : Option Value := none
  writable : Option Bool := none
  getter : Option Value := none
  setter : Option Value := none
  enumerable : Option Bool := none
  configurable : Option Bool := none
  deriving Inhabited

namespace Descriptor

def isAccessor (d : Descriptor) : Bool := d.getter.isSome || d.setter.isSome

def isData (d : Descriptor) : Bool := d.value.isSome || d.writable.isSome

def toProperty (d : Descriptor) : Property :=
  if d.isAccessor then
    ⟨.accessor (d.getter.getD .undefined) (d.setter.getD .undefined),
      d.enumerable.getD false, d.configurable.getD false⟩
  else
    ⟨.data (d.value.getD .undefined) (d.writable.getD false),
      d.enumerable.getD false, d.configurable.getD false⟩

def ofProperty (p : Property) : Descriptor :=
  match p.slot with
  | .data v w => { value := some v, writable := some w, enumerable := some p.enumerable,
                   configurable := some p.configurable }
  | .accessor g s => { getter := some g, setter := some s, enumerable := some p.enumerable,
                       configurable := some p.configurable }

end Descriptor

/-- The own properties of an object: indices in ascending order, other keys in the order they
were added. -/
structure Table where
  indexed : Std.TreeMap Nat Property := {}
  named : Array (Key × Property) := #[]
  deriving Inhabited

namespace Table

def find? (t : Table) (k : Key) : Option Property :=
  match k.index? with
  | some i => t.indexed.get? i
  | none => (t.named.find? (fun e => e.1 == k)).map Prod.snd

def insert (t : Table) (k : Key) (p : Property) : Table :=
  match k.index? with
  | some i => { t with indexed := t.indexed.insert i p }
  | none =>
    match t.named.findIdx? (fun e => e.1 == k) with
    | some j => { t with named := t.named.set! j (k, p) }
    | none => { t with named := t.named.push (k, p) }

def erase (t : Table) (k : Key) : Table :=
  match k.index? with
  | some i => { t with indexed := t.indexed.erase i }
  | none => { t with named := t.named.filter (fun e => !(e.1 == k)) }

def keys (t : Table) : List Key :=
  let idx := t.indexed.keys.map Key.ofIndex
  let strs := t.named.toList.filterMap fun e => match e.1 with
    | .str _ => some e.1
    | .sym _ => none
  let syms := t.named.toList.filterMap fun e => match e.1 with
    | .sym _ => some e.1
    | .str _ => none
  idx ++ strs ++ syms

def mapProps (t : Table) (f : Property → Property) : Table :=
  { indexed := t.indexed.foldl (fun acc k p => acc.insert k (f p)) {}
    named := t.named.map (fun e => (e.1, f e.2)) }

def indicesFrom (t : Table) (lo : Nat) : List Nat :=
  ((t.indexed.filter fun k _ => lo ≤ k).keys).reverse

end Table

end ScriptBridge.Script
