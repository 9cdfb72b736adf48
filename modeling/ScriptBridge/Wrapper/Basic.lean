import ScriptBridge.Host.Basic

/-!
# Wrappers

A wrapper is a host-side object standing for one script object. Wrappers are values with an
identity of their own: each one made is a new instance, numbered in the order they are made, and
two wrappers of the same script object are still different instances unless one was handed out
again. `adapt` hands out the current wrapper again when the candidate is the very object it
wraps, and makes a new one otherwise; `wrap` always makes a new one.
-/

namespace ScriptBridge

open ScriptBridge.Host

/-- A wrapper instance: its serial number and the object it stands for. -/
structure Wrapper where
  serial : Nat
  source : Handle
  deriving BEq, Inhabited

namespace Wrapper

def toForeign (w : Wrapper) : Foreign := .object w.source

def same (a b : Wrapper) : Bool := a.serial == b.serial

/-- The host and how many wrappers have been made. -/
structure World where
  host : Host
  made : Nat := 0
  deriving Inhabited

/-- Operations on wrappers: they change the host and the wrapper count and may fail. -/
abbrev Op := ExceptT HostError (StateM World)

namespace Op

def host (x : HostM α) : Op α := do
  let w ← get
  let (res, h) := (x.run).run w.host
  set { w with host := h }
  match res with
  | .ok a => pure a
  | .error e => throw e

def lift (r : Except HostError α) : Op α :=
  match r with
  | .ok a => pure a
  | .error e => throw e

def fresh (h : Handle) : Op Wrapper :=
  modifyGet fun w => (⟨w.made, h⟩, { w with made := w.made + 1 })

end Op

def wrap (candidate : Foreign) : Op Wrapper := do
  Op.fresh (← Op.lift candidate.intoHandle)

def adapt (current : Wrapper) (candidate : Foreign) : Op Wrapper := do
  let h ← Op.lift candidate.intoHandle
  if h.sameObject current.source then pure current else Op.fresh h

end Wrapper

end ScriptBridge
