import ScriptBridge.Proofs.JsonGrammar

/-!
# Written configurations

What a configuration text says, as a grammar over its characters. A configuration is one JSON
value with whitespace about it, in one of two shapes:

* an object whose members name settings, each at most once, beside members of any other name,
  which say nothing;
* an array of at most five values, the settings in the order of `Field.all`.

A limit is `null` or a natural number written with digits alone, at most `2 ^ 64 - 1`; a flag is
`true` or `false`; the scripts are an array of strings. A setting not written keeps its default.
-/

namespace ScriptBridge.Config

open ScriptBridge.Json.Grammar

/-- The fields of a configuration. -/
inductive Field where
  | loop
  | recursion
  | preload
  | cache
  | scripts
  deriving DecidableEq, Repr

def Field.name : Field → String
  | .loop => "loop_iteration_limit"
  | .recursion => "recursion_limit"
  | .preload => "preload_sample_classes"
  | .cache => "cache_wrappers"
  | .scripts => "scripts"

def Field.all : List Field := [.loop, .recursion, .preload, .cache, .scripts]

/-- A field with a value for it. -/
inductive Setting where
  | loop (limit : Option UInt64)
  | recursion (limit : Option UInt64)
  | preload (flag : Bool)
  | cache (flag : Bool)
  | scripts (paths : List String)
  deriving DecidableEq, Repr

def Setting.field : Setting → Field
  | .loop _ => .loop
  | .recursion _ => .recursion
  | .preload _ => .preload
  | .cache _ => .cache
  | .scripts _ => .scripts

def HostConfig.set (c : HostConfig) : Setting → HostConfig
  | .loop v => { c with loopIterationLimit := v }
  | .recursion v => { c with recursionLimit := v }
  | .preload b => { c with preloadSampleClasses := b }
  | .cache b => { c with cacheWrappers := b }
  | .scripts ps => { c with scripts := ps }

def configOf (ss : List Setting) : HostConfig := ss.foldr (fun s c => c.set s) {}

/-- A limit as written: `null`, or the digits of a natural number of at most 64 bits. -/
inductive LimitText : List Char → Option UInt64 → Prop
  | null : LimitText ['n', 'u', 'l', 'l'] none
  | natural {ds : List Char} : IntPart ds → digitsValue ds < 2 ^ 64 →
      LimitText ds (some (digitsValue ds).toUInt64)

/-- A flag as written. -/
inductive FlagText : List Char → Bool → Prop
  | true : FlagText ['t', 'r', 'u', 'e'] true
  | false : FlagText ['f', 'a', 'l', 's', 'e'] false

/-- A setting's value as written. -/
inductive SettingText : List Char → Setting → Prop
  | loop {t : List Char} {v : Option UInt64} : LimitText t v → SettingText t (.loop v)
  | recursion {t : List Char} {v : Option UInt64} : LimitText t v → SettingText t (.recursion v)
  | preload {t : List Char} {b : Bool} : FlagText t b → SettingText t (.preload b)
  | cache {t : List Char} {b : Bool} : FlagText t b → SettingText t (.cache b)
  | scripts {t : List Char} {ps : List String} : Bracketed '[' ']' StringLit t ps →
      SettingText t (.scripts ps)

/-- A member of the object shape: a setting under its field's name, or a member of another name
with any value, which sets nothing. -/
inductive Member : List Char → Option Setting → Prop
  | setting {k w₁ w₂ v : List Char} {s : Setting} : StringLit k s.field.name → Ws w₁ → Ws w₂ →
      SettingText v s → Member (k ++ w₁ ++ ':' :: w₂ ++ v) (some s)
  | other {k w₁ w₂ v : List Char} {n : String} : StringLit k n → (∀ f : Field, f.name ≠ n) →
      Ws w₁ → Ws w₂ → Value v → Member (k ++ w₁ ++ ':' :: w₂ ++ v) none

/-- A configuration in one of its two shapes, with nothing about it. -/
inductive Shape : List Char → HostConfig → Prop
  | array {t : List Char} {ss : List Setting} : Bracketed '[' ']' SettingText t ss →
      ss.map Setting.field = Field.all.take ss.length → Shape t (configOf ss)
  | object {t : List Char} {ms : List (Option Setting)} : Bracketed '{' '}' Member t ms →
      ((ms.filterMap id).map Setting.field).Nodup → Shape t (configOf (ms.filterMap id))

/-- A configuration text: a configuration with whitespace about it. -/
inductive Written : List Char → HostConfig → Prop
  | mk {w₁ t w₂ : List Char} {c : HostConfig} : Ws w₁ → Shape t c → Ws w₂ → Written (w₁ ++ t ++ w₂) c

end ScriptBridge.Config
