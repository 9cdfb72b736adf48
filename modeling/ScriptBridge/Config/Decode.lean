import ScriptBridge.Config.Basic

/-!
# Decoding a configuration from JSON

A configuration text is one JSON value, with only whitespace around it, of one of two shapes:

* an object whose members name settings (`loop_iteration_limit`, `recursion_limit`,
  `preload_sample_classes`, `cache_wrappers`, `scripts`); other members are skipped, and a
  setting named twice is an error;
* a list of at most five values, the settings in that order; a shorter list leaves the rest at
  their defaults.

The limits are `null` or integers from `0` to `2 ^ 64 - 1`, the flags are booleans and
`scripts` is a list of strings. A value of the wrong type is reported with what was found
(`invalid type: boolean `true`, expected u64`), a negative integer limit as an invalid value.
Each error is placed where the decoder stood when it noticed it.
-/

namespace ScriptBridge.Config

open ScriptBridge.Json

def foundInstead (expected : String) : Read α := do
  match ← peek? with
  | some c =>
    if c == 110 then do eat; expectIdent [117, 108, 108]; problem (.invalidType .null expected)
    else if c == 116 then do
      eat; expectIdent [114, 117, 101]; problem (.invalidType (.bool true) expected)
    else if c == 102 then do
      eat; expectIdent [97, 108, 115, 101]; problem (.invalidType (.bool false) expected)
    else if c == 45 || isDigit c then do
      (if c == 45 then eat else pure ())
      let (n, _) ← readNumber (c != 45)
      let u : Unexpected := match n with
        | .unsigned k => .unsigned k
        | .signed k => .signed k
        | .float x => .float x
      problem (.invalidType u expected)
    else if c == 34 then do eat; problem (.invalidType (.str (← readString)) expected)
    else if c == 91 then problem (.invalidType .seq expected)
    else if c == 123 then problem (.invalidType .map expected)
    else failPeek .expectedSomeValue
  | none => failPeek .expectedSomeValue

def valueStart : Read UInt8 := do
  match ← skipWs with
  | some c => pure c
  | none => failPeek .eofWhileParsingValue

def decodeLimit (expected : String) : Read UInt64 := do
  let c ← valueStart
  placed do
    if c == 45 || isDigit c then do
      (if c == 45 then eat else pure ())
      match (← readNumber (c != 45)).1 with
      | .unsigned n => pure n.toUInt64
      | .signed n => problem (.invalidValue (.signed n) expected)
      | .float x => problem (.invalidType (.float x) expected)
    else foundInstead expected

def decodeOption (inner : Read α) : Read (Option α) := do
  if (← skipWs) == some 110 then do
    eat
    expectIdent [117, 108, 108]
    pure none
  else some <$> inner

def decodeFlag : Read Bool := do
  let c ← valueStart
  placed do
    if c == 116 then do eat; expectIdent [114, 117, 101]; pure true
    else if c == 102 then do eat; expectIdent [97, 108, 115, 101]; pure false
    else foundInstead "a boolean"

def decodePath : Read String := do
  let c ← valueStart
  placed do
    if c == 34 then do eat; readString
    else foundInstead "path string"

def decodePaths : Read (List String) := do
  let c ← valueStart
  placed do
    if c == 91 then do
      eat
      let items ← listItems decodePath (← budget) true #[]
      endList
      pure items.toList
    else foundInstead "a sequence"

/-- The settings named so far in the object form. -/
structure Named where
  loop : Option (Option UInt64) := none
  recursion : Option (Option UInt64) := none
  preload : Option Bool := none
  cache : Option Bool := none
  scripts : Option (List String) := none

def Named.config (n : Named) : HostConfig where
  loopIterationLimit := n.loop.getD none
  recursionLimit := n.recursion.getD none
  preloadSampleClasses := n.preload.getD true
  cacheWrappers := n.cache.getD true
  scripts := n.scripts.getD []

def Named.read (n : Named) (name : String) : Read Named := do
  let once {α : Type} (seen : Option α) (value : Read α) : Read α := do
    (if seen.isSome then problem (.duplicateField name) else pure ())
    memberColon
    value
  if name == "loop_iteration_limit" then
    pure { n with loop := some (← once n.loop (decodeOption (decodeLimit "u64"))) }
  else if name == "recursion_limit" then
    pure { n with recursion := some (← once n.recursion (decodeOption (decodeLimit "usize"))) }
  else if name == "preload_sample_classes" then
    pure { n with preload := some (← once n.preload decodeFlag) }
  else if name == "cache_wrappers" then
    pure { n with cache := some (← once n.cache decodeFlag) }
  else if name == "scripts" then
    pure { n with scripts := some (← once n.scripts decodePaths) }
  else do
    memberColon
    skip
    pure n

def namedMembers : Nat → Bool → Named → Read Named
  | 0, _, n => pure n
  | k + 1, first, n => do
    match ← memberName first with
    | none => pure n
    | some name => namedMembers k false (← n.read name)

def positional : Read HostConfig := do
  let d : HostConfig := {}
  let loop ← nextItem (decodeOption (decodeLimit "u64")) true
  let first := loop.isNone
  let recursion ← nextItem (decodeOption (decodeLimit "usize")) first
  let first := first && recursion.isNone
  let preload ← nextItem decodeFlag first
  let first := first && preload.isNone
  let cache ← nextItem decodeFlag first
  let first := first && cache.isNone
  let scripts ← nextItem decodePaths first
  pure {
    loopIterationLimit := loop.getD d.loopIterationLimit
    recursionLimit := recursion.getD d.recursionLimit
    preloadSampleClasses := preload.getD d.preloadSampleClasses
    cacheWrappers := cache.getD d.cacheWrappers
    scripts := scripts.getD d.scripts }

def decodeConfig : Read HostConfig := do
  let c ← valueStart
  placed do
    if c == 91 then do
      eat
      let cfg ← positional
      endList
      pure cfg
    else if c == 123 then do
      eat
      let r ← tryCatch (Except.ok <$> namedMembers (← budget) true {})
        (fun e => pure (Except.error e))
      match r with
      | .ok n => do endObject; pure n.config
      | .error e => do
        (if (← skipWs) == some 125 then eat else pure ())
        throw e
    else foundInstead "struct HostConfig"

def HostConfig.ofJson (text : String) : Except Error HostConfig :=
  match Read.run (do let cfg ← decodeConfig; finish; pure cfg) text with
  | .ok cfg => .ok cfg
  | .error e => .error (.parse e)

def HostConfig.ofFile (fs : Files) (path : String) : Except Error HostConfig :=
  match fs.readText path with
  | .ok text => HostConfig.ofJson text
  | .error cause => .error (.io path cause)

end ScriptBridge.Config
