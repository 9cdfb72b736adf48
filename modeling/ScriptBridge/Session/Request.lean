import ScriptBridge.Config.Decode
import ScriptBridge.Session.Answer

/-!
# Requests of the transcript

A request asks for a configuration decoded from text, one read from a file, or a session of
steps against a host. This module answers the first two and fixes the shape of error answers.
-/

namespace ScriptBridge.Session

open ScriptBridge.Config

def failure (kind message : String) (contract : Bool) : Answer :=
  .obj [("error", .str kind), ("message", .str message), ("contract_violation", .bool contract)]

def configAnswer (c : HostConfig) : Answer :=
  let limit : Option UInt64 → Answer := fun
    | some n => .nat n.toNat
    | none => .null
  .obj [("loop_iteration_limit", limit c.loopIterationLimit),
    ("recursion_limit", limit c.recursionLimit),
    ("preload_sample_classes", .bool c.preloadSampleClasses),
    ("cache_wrappers", .bool c.cacheWrappers),
    ("scripts", .list (c.scripts.map .str))]

def configFailure (e : Config.Error) : Answer :=
  let kind := match e with
    | .io .. => "Config.Io"
    | .parse .. => "Config.Parse"
  failure kind ("configuration error: " ++ e.message) false

def configResult : Except Config.Error HostConfig → Answer
  | .ok c => configAnswer c
  | .error e => configFailure e

end ScriptBridge.Session
