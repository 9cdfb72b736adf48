import ScriptBridge.Config.Basic

/-!
# Host errors

What can go wrong between the host and its scripts: a value that should be a script object is
not, the script raised an exception, a method is not callable, a value has the wrong type, or the
configuration failed. Wrong references and wrong types break the caller's contract; the others
are ordinary failures.
-/

namespace ScriptBridge.Host

/-- Why a host operation failed. -/
inductive HostError where
  /-- A script object was expected; `found` is the kind of what came. -/
  | invalidReference (found : String)
  /-- The script failed; the text is the engine's report. -/
  | execution (text : String)
  /-- The named property is not a function. -/
  | notCallable (name : String)
  /-- A value of one kind was expected and another came. -/
  | typeMismatch (expected found : String)
  /-- Reading or decoding the configuration failed. -/
  | config (e : Config.Error)
  deriving Inhabited

namespace HostError

def message : HostError → String
  | .invalidReference found => "js invoke failed: expected a script object, found " ++ found
  | .execution text => "javascript execution failed: " ++ text
  | .notCallable name => "property `" ++ name ++ "` is not callable"
  | .typeMismatch expected found => "expected " ++ expected ++ ", found " ++ found
  | .config e => "configuration error: " ++ e.message

def isContractViolation : HostError → Bool
  | .invalidReference _ | .typeMismatch _ _ => true
  | _ => false

def kindName : HostError → String
  | .invalidReference _ => "InvalidForeignReference"
  | .execution _ => "Execution"
  | .notCallable _ => "NotCallable"
  | .typeMismatch _ _ => "TypeMismatch"
  | .config (.io ..) => "Config.Io"
  | .config (.parse ..) => "Config.Parse"

end HostError

end ScriptBridge.Host
