import ScriptBridge.Files
import ScriptBridge.Json.Reader

/-!
# Host configuration

The settings a script host starts from: an optional limit on loop iterations, an optional limit
on call depth, whether the two sample classes are loaded first, whether wrapper arrays cache
their wrappers, and the script files loaded after that, in order. A setting left out takes its
default: no limits, both flags on, no scripts.
-/

namespace ScriptBridge.Config

/-- The settings of a script host. -/
structure HostConfig where
  loopIterationLimit : Option UInt64 := none
  recursionLimit : Option UInt64 := none
  preloadSampleClasses : Bool := true
  cacheWrappers : Bool := true
  scripts : List String := []
  deriving Repr, BEq, Inhabited

/-- Why a configuration could not be had. -/
inductive Error where
  /-- The file at `path` could not be read. -/
  | io (path : String) (cause : IoCause)
  /-- The text is not a configuration. -/
  | parse (e : Json.Error)
  deriving Inhabited

def Error.message : Error → String
  | .io path cause => "unable to read config file " ++ path ++ ": " ++ cause.text
  | .parse e => "invalid config: " ++ e.message

end ScriptBridge.Config
