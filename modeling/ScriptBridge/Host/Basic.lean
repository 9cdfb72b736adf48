import ScriptBridge.Host.Foreign
import ScriptBridge.Host.Classes
import ScriptBridge.Script.Engine

/-!
# A script host

A host owns a script engine and the configuration it was made from. It evaluates scripts and
script files, and reads, writes and calls properties of script objects for its callers. Values
cross from the engine to the host as `Foreign` values; on the way back a value the host cannot
rebuild is refused before anything runs. Every engine failure becomes an `execution` error
carrying the engine's report.

A host is made by starting an engine with the configured limits, loading the sample classes
unless told not to, and then loading each configured script in order; the first failure stops
the making.
-/

namespace ScriptBridge

open ScriptBridge.Script
open ScriptBridge.Config

/-- A script host. -/
structure Host where
  engine : Engine
  config : HostConfig
  deriving Inhabited

namespace Host

/-- Host operations: they change the host and may fail with a host error. -/
abbrev HostM := ExceptT HostError (StateM Host)

def defaultRecursionLimit : Nat := 512

def limitsOf (c : HostConfig) : Limits :=
  { loops := c.loopIterationLimit.map UInt64.toNat
    recursion := (c.recursionLimit.map UInt64.toNat).getD defaultRecursionLimit }

def ingress (r : Realm) : Value → Foreign
  | .undefined => .undefined
  | .null => .null
  | .bool b => .bool b
  | .num x => .number x
  | .str s => .string (Units.toEscaped s)
  | .obj o => .object ⟨o⟩
  | v => .other (Display.primitive r v)

def egress : Foreign → Except HostError Value
  | .undefined => .ok .undefined
  | .null => .ok .null
  | .bool b => .ok (.bool b)
  | .number x => .ok (.num x)
  | .string s => .ok (Value.ofString s)
  | .object h => .ok (.obj h.ref)
  | .other _ => .error (.typeMismatch "value transferable to the script" "other")

def lift (r : Except HostError α) : HostM α :=
  match r with
  | .ok a => pure a
  | .error e => throw e

def work (w : Ops → M α) : HostM α := do
  let h ← get
  let (res, e) := h.engine.run w
  set { h with engine := e }
  match res with
  | .ok a => pure a
  | .error f => throw (.execution (e.faultText f))

def toForeign (v : Value) : HostM Foreign := do pure (ingress (← get).engine.realm v)

def eval (src : String) : HostM Foreign := do
  toForeign (← work (Engine.evalScript src))

def loadScript (files : Files) (path : String) : HostM Foreign := do
  match files.readText path with
  | .ok text => eval text
  | .error cause => throw (.config (.io path cause))

def getProperty (target : Handle) (name : String) : HostM Foreign := do
  toForeign (← work (Engine.getProperty target.ref name))

def setProperty (target : Handle) (name : String) (v : Foreign) : HostM Unit := do
  let v ← lift (egress v)
  work (Engine.setProperty target.ref name v)

def invoke (target : Handle) (method : String) (args : List Foreign) : HostM Foreign := do
  let f ← work (Engine.getProperty target.ref method)
  let r := (← get).engine.realm
  let callable := match f with
    | .obj _ => r.isCallable f
    | _ => false
  if !callable then throw (.notCallable method)
  let argv ← lift (args.mapM egress)
  toForeign (← work (Engine.call f (.obj target.ref) argv))

def create (files : Files) (c : HostConfig) : Except HostError Host :=
  let start : Host := { engine := Engine.create (limitsOf c), config := c }
  let setup : HostM Unit := do
    if c.preloadSampleClasses then
      let _ ← eval sampleClasses
    for path in c.scripts do
      let _ ← loadScript files path
  match (setup.run).run start with
  | (.ok _, h) => .ok h
  | (.error e, _) => .error e

end Host

end ScriptBridge
