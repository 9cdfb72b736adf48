import ScriptBridge.Script.Call
import ScriptBridge.Script.Setup
import ScriptBridge.Script.Display

/-!
# The script engine

An engine is a realm together with the way to run work in it. Each piece of host work (running a
script, reading or writing a property, calling a function) starts with no frame running, so the
recursion limit counts from the host's call; a script itself runs as one frame that is not
counted against the limit. A fault that ends the work is reported by its text: a thrown value as
the engine shows it, a broken limit with the prefix `RuntimeLimit`.
-/

namespace ScriptBridge.Script

/-- A script engine: the whole state of its realm. -/
structure Engine where
  realm : Realm
  deriving Inhabited

namespace Engine

def create (limits : Limits) : Engine := ⟨Setup.realm limits⟩

def fuel (r : Realm) : Nat := 4 * min r.limits.recursion 1000000 + 4096

def run (e : Engine) (work : Ops → M α) : Except Fault α × Engine :=
  let r := { e.realm with depth := 0, loops := 0, site := none }
  let (res, r') := ((work (Calls.opsWith (fuel r))).run).run r
  (res, ⟨r'⟩)

def evalScript (src : String) (ops : Ops) : M Value := do
  modify fun r => { r with depth := 1 }
  Invoke.evalSource ops src false

def getProperty (o : Nat) (name : String) (ops : Ops) : M Value :=
  Objects.getKey ops o (Key.ofString name)

def setProperty (o : Nat) (name : String) (v : Value) (ops : Ops) : M Unit :=
  Objects.setOrThrow ops o (Key.ofString name) v

def call (f this : Value) (args : List Value) (ops : Ops) : M Value := ops.call f this args

def limitPrefix : String := "RuntimeLimit: "

def faultText (e : Engine) : Fault → String
  | .thrown v => Display.value e.realm v
  | .limit msg => limitPrefix ++ msg
  | .exhausted => limitPrefix ++ Calls.recursionMessage

end Engine

end ScriptBridge.Script
