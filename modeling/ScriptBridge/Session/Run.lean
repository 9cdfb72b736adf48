import ScriptBridge.Session.Step
import ScriptBridge.Session.Request
import ScriptBridge.Wrapper.Shapes
import ScriptBridge.Wrapper.Array

/-!
# Running a session

A session makes a host from its configuration and then runs its steps in order, each giving one
answer; a failing step does not stop the ones after it, and everything a step changed before
failing stays changed. Results can be kept in named slots.

Answers name script objects and wrapper instances by small numbers given in order of first
appearance in an answer: two objects get the same number exactly when they are the same object,
two wrappers exactly when they are the same instance. Rendering a wrapper or an array also
shows, and so numbers, the object it stands for.
-/

namespace ScriptBridge.Session

open ScriptBridge.Host
open ScriptBridge.Wrapper
open ScriptBridge.Config

/-- What a slot holds. -/
inductive Slot where
  | value (v : Foreign)
  | point (w : Wrapper)
  | line (w : Wrapper)
  | array (a : WrapperArray)
  deriving Inhabited

/-- The state of a session: the host world, the slots, and the objects and wrapper instances
numbered so far, in order. -/
structure State where
  world : World
  slots : List (String × Slot) := []
  objects : List Nat := []
  wrappers : List Nat := []
  deriving Inhabited

/-- Why a step failed: the host failed, or the step itself is malformed. -/
inductive Failure where
  | host (e : HostError)
  | malformed (msg : String)

/-- Session work: it changes the session state and may fail. -/
abbrev Run := ExceptT Failure (StateM State)

namespace Run

def op (x : Op α) : Run α := do
  let s ← get
  let (res, w) := (x.run).run s.world
  set { s with world := w }
  match res with
  | .ok a => pure a
  | .error e => throw (.host e)

def lift (r : Except HostError α) : Run α :=
  match r with
  | .ok a => pure a
  | .error e => throw (.host e)

def malformed (msg : String) : Run α := throw (.malformed msg)

def slot (name : String) : Run Slot := do
  match ((← get).slots.find? fun (n, _) => n == name) with
  | some (_, s) => pure s
  | none => malformed ("unknown slot " ++ name)

def store (name : String) (s : Slot) : Run Unit :=
  modify fun st => { st with slots := (name, s) :: st.slots.filter fun (n, _) => n != name }

def point (name : String) : Run Wrapper := do
  match ← slot name with
  | .point w => pure w
  | _ => malformed ("not a point: " ++ name)

def line (name : String) : Run Wrapper := do
  match ← slot name with
  | .line w => pure w
  | _ => malformed ("not a line: " ++ name)

def wrapper (name : String) : Run Wrapper := do
  match ← slot name with
  | .point w | .line w => pure w
  | _ => malformed ("not a wrapper: " ++ name)

def array (name : String) : Run WrapperArray := do
  match ← slot name with
  | .array a => pure a
  | _ => malformed ("not an array: " ++ name)

def optionalPoint : Option String → Run (Option Wrapper)
  | some n => do pure (some (← point n))
  | none => pure none

end Run

/-! ## Numbering and rendering -/

def indexWhere (l : List Nat) (n : Nat) : Option Nat := l.findIdx? (· == n)

def objectId (ref : Nat) : Run Nat := do
  let s ← get
  match indexWhere s.objects ref with
  | some i => pure i
  | none => do
    set { s with objects := s.objects ++ [ref] }
    pure s.objects.length

def wrapperId (serial : Nat) : Run Nat := do
  let s ← get
  match indexWhere s.wrappers serial with
  | some i => pure i
  | none => do
    set { s with wrappers := s.wrappers ++ [serial] }
    pure s.wrappers.length

def renderValue : Foreign → Run Answer
  | .undefined => pure (.obj [("type", .str "undefined")])
  | .null => pure (.obj [("type", .str "null")])
  | .bool b => pure (.obj [("type", .str "boolean"), ("value", .bool b)])
  | .number x => pure (.obj [("type", .str "number"), ("value", .num x)])
  | .string s => pure (.obj [("type", .str "string"), ("value", .str s)])
  | .object h => do pure (.obj [("type", .str "object"), ("id", .nat (← objectId h.ref))])
  | .other shown => pure (.obj [("type", .str "other"), ("value", .str shown)])

def renderWrapper (w : Wrapper) : Run Answer := do
  let o ← objectId w.source.ref
  let i ← wrapperId w.serial
  pure (.obj [("wrapper", .nat i), ("object", .nat o)])

def renderOptional : Option Wrapper → Run Answer
  | some w => renderWrapper w
  | none => pure .null

def renderArray (a : WrapperArray) : Run Answer := do
  let o ← objectId a.source.ref
  pure (.obj [("object", .nat o), ("use_cache", .bool a.useCache), ("cached", .nat a.cachedLen)])

def renderIndex : Option Nat → Answer
  | some i => .nat i
  | none => .null

/-! ## Steps -/

def resolve : Spec → Run Foreign
  | .undefined => pure .undefined
  | .null => pure .null
  | .bool b => pure (.bool b)
  | .number x => pure (.number x)
  | .string s => pure (.string s)
  | .ref name => do
    match ← Run.slot name with
    | .value v => pure v
    | .point w | .line w => pure w.toForeign
    | .array a => pure (.object a.source)
  | .script src => Run.op (Op.host (Host.eval src))

def resolveNumber (s : Spec) : Run Float := do
  match ← resolve s with
  | .number x => pure x
  | _ => Run.malformed "a number was expected"

def resolveHandle (s : Spec) : Run Handle := do Run.lift (← resolve s).intoHandle

def arrayStep (name : String) (f : WrapperArray → Op (Answer × WrapperArray)) : Run Answer := do
  let a ← Run.array name
  let (r, a') ← Run.op (f a)
  Run.store name (.array a')
  pure (.obj [("result", r), ("cached", .nat a'.cachedLen)])

def arrayQuery (name : String) (f : WrapperArray → Op Answer) : Run Answer :=
  arrayStep name fun a => do pure (← f a, a)

def arrayWrapperStep (name : String) (keep : Option String)
    (f : WrapperArray → Op (Option Wrapper × WrapperArray)) : Run Answer := do
  let a ← Run.array name
  let (w, a') ← Run.op (f a)
  Run.store name (.array a')
  let r ← renderOptional w
  if let (some k, some w) := (keep, w) then Run.store k (.point w)
  pure (.obj [("result", r), ("cached", .nat a'.cachedLen)])

def keepAs (keep : Option String) (s : Slot) : Run Unit :=
  match keep with
  | some k => Run.store k s
  | none => pure ()

def runStep (files : Files) (step : Step) : Run Answer := do
  let keep := step.store
  match step.action with
  | .eval src => do
    let v ← Run.op (Op.host (Host.eval src))
    let r ← renderValue v
    keepAs keep (.value v)
    pure r
  | .loadScript path => do
    let v ← Run.op (Op.host (Host.loadScript files path))
    let r ← renderValue v
    keepAs keep (.value v)
    pure r
  | .config => do pure (configAnswer (← get).world.host.config)
  | .letValue spec => do
    let v ← resolve spec
    let r ← renderValue v
    keepAs keep (.value v)
    pure r
  | .get target name => do
    let h ← resolveHandle target
    let v ← Run.op (Op.host (Host.getProperty h name))
    let r ← renderValue v
    keepAs keep (.value v)
    pure r
  | .set target name value => do
    let h ← resolveHandle target
    let v ← resolve value
    Run.op (Op.host (Host.setProperty h name v))
    pure .null
  | .invoke target method args => do
    let h ← resolveHandle target
    let argv ← args.mapM resolve
    let v ← Run.op (Op.host (Host.invoke h method argv))
    let r ← renderValue v
    keepAs keep (.value v)
    pure r
  | .sameObject a b => do
    let va ← resolve a
    let vb ← resolve b
    let ha ← Run.lift va.intoHandle
    let hb ← Run.lift vb.intoHandle
    pure (.bool (ha.sameObject hb))
  | .kind v => do pure (.str (← resolve v).kind)
  | .isNullish v => do pure (.bool (← resolve v).isNullish)
  | .intoHandle v => do
    let h ← Run.lift (← resolve v).intoHandle
    pure (.nat (← objectId h.ref))
  | .intoOptionalHandle v => do
    match ← Run.lift (← resolve v).intoOptionalHandle with
    | some h => do pure (.nat (← objectId h.ref))
    | none => pure .null
  | .asF64 v => do pure (.num (← Run.lift (← resolve v).asF64))
  | .asBool v => do pure (.bool (← Run.lift (← resolve v).asBool))
  | .intoString v => do pure (.str (← Run.lift (← resolve v).intoString))
  | .valueEq a b => do
    let va ← resolve a
    let vb ← resolve b
    pure (.bool (va.eq vb))
  | .wrapPoint v => do
    let w ← Run.op (wrap (← resolve v))
    let r ← renderWrapper w
    keepAs keep (.point w)
    pure r
  | .wrapLine v => do
    let w ← Run.op (wrap (← resolve v))
    let r ← renderWrapper w
    keepAs keep (.line w)
    pure r
  | .adapt name v => do
    let s ← Run.slot name
    let candidate ← resolve v
    match s with
    | .point cur => do
      let w ← Run.op (adapt cur candidate)
      let r ← renderWrapper w
      keepAs keep (.point w)
      pure r
    | .line cur => do
      let w ← Run.op (adapt cur candidate)
      let r ← renderWrapper w
      keepAs keep (.line w)
      pure r
    | _ => Run.malformed ("not a wrapper: " ++ name)
  | .lineAsPoint name v => do
    let _ ← Run.line name
    let w ← Run.op (Line.asPoint (← resolve v))
    let r ← renderWrapper w
    keepAs keep (.point w)
    pure r
  | .toForeign name => do renderValue (← Run.wrapper name).toForeign
  | .wrapperEq a b => do
    let wa ← Run.wrapper a
    let wb ← Run.wrapper b
    pure (.bool (wa.source.sameObject wb.source))
  | .x name => do pure (.num (← Run.op (Point.x (← Run.point name))))
  | .y name => do pure (.num (← Run.op (Point.y (← Run.point name))))
  | .setX name v => do
    let p ← Run.point name
    let x ← resolveNumber v
    Run.op (Point.setX p x)
    pure .null
  | .setY name v => do
    let p ← Run.point name
    let y ← resolveNumber v
    Run.op (Point.setY p y)
    pure .null
  | .isOrigin name => do pure (.bool (← Run.op (Point.isOrigin (← Run.point name))))
  | .plus name other => do
    let p ← Run.point name
    let o ← Run.wrapper other
    let w ← Run.op (Point.plus p o)
    let r ← renderWrapper w
    keepAs keep (.point w)
    pure r
  | .moveBy name dx dy => do
    let p ← Run.point name
    let dx ← resolveNumber dx
    let dy ← resolveNumber dy
    let w ← Run.op (Point.moveBy p dx dy)
    let r ← renderWrapper w
    keepAs keep (.point w)
    pure r
  | .describe name => do pure (.str (← Run.op (describe (← Run.wrapper name))))
  | .start name => do
    let w ← Run.op (Line.start (← Run.line name))
    let r ← renderWrapper w
    keepAs keep (.point w)
    pure r
  | .finish name => do
    let w ← Run.op (Line.finish (← Run.line name))
    let r ← renderWrapper w
    keepAs keep (.point w)
    pure r
  | .length name => do pure (.num (← Run.op (Line.length (← Run.line name))))
  | .contains name other => do
    let l ← Run.line name
    let p ← Run.wrapper other
    pure (.bool (← Run.op (Line.contains l p)))
  | .array v useCache => do
    let candidate ← resolve v
    let uc := useCache.getD (← get).world.host.config.cacheWrappers
    let a ← Run.lift (WrapperArray.ofForeign candidate uc)
    let r ← renderArray a
    keepAs keep (.array a)
    pure r
  | .arrayLength name => arrayQuery name fun a => do pure (.nat (← a.length))
  | .arrayGet name i => arrayWrapperStep name keep fun a => a.get i
  | .arraySet name i p => do
    let w ← Run.optionalPoint p
    arrayQuery name fun a => do
      a.set i w
      pure .null
  | .arrayPush name p => do
    let w ← Run.point p
    arrayQuery name fun a => do pure (.nat (← a.push w))
  | .arrayPop name => arrayWrapperStep name keep fun a => a.pop
  | .arrayIndexOf name p => do
    let w ← Run.point p
    arrayQuery name fun a => do pure (renderIndex (← a.indexOf w))
  | .arrayLastIndexOf name p => do
    let w ← Run.point p
    arrayQuery name fun a => do pure (renderIndex (← a.lastIndexOf w))
  | .arrayIncludes name p => do
    let w ← Run.point p
    arrayQuery name fun a => do pure (.bool (← a.includes w))
  | .arrayJoin name sep => arrayQuery name fun a => do pure (.str (← a.join sep))
  | .arrayFill name p => do
    let w ← Run.optionalPoint p
    arrayQuery name fun a => do
      a.fill w
      pure .null
  | .arrayToVec name => do
    let a ← Run.array name
    let (res, a') ← Run.op a.toList
    Run.store name (.array a')
    let ws ← Run.lift res
    let items ← ws.mapM renderOptional
    pure (.obj [("result", .list items), ("cached", .nat a'.cachedLen)])
  | .arraySetUseCache name b => arrayStep name fun a => pure (.null, a.setUseCache b)
  | .arrayClearCache name => arrayStep name fun a => pure (.null, a.clearCache)
  | .arrayUseCache name => arrayQuery name fun a => pure (.bool a.useCache)
  | .arrayCachedLen name => arrayQuery name fun a => pure (.nat a.cachedLen)
  | .arrayToForeign name p => do
    let w ← Run.optionalPoint p
    let a ← Run.array name
    let r ← renderValue (WrapperArray.slotValue w)
    pure (.obj [("result", r), ("cached", .nat a.cachedLen)])
  | .arrayConcat name other => do
    let a ← Run.array name
    let b ← Run.array other
    let c ← Run.op (a.concat b)
    let r ← renderArray c
    keepAs keep (.array c)
    pure r
  | .unreadable reason => Run.malformed reason

def Failure.answer : Failure → Answer
  | .host e => failure e.kindName e.message e.isContractViolation
  | .malformed msg => .obj [("error", .str "DriverError"), ("message", .str msg)]

def runSteps (files : Files) : List Step → State → List Answer
  | [], _ => []
  | step :: rest, s =>
    let (res, s') := ((runStep files step).run).run s
    let a := match res with
      | .ok r => .obj [("ok", r)]
      | .error f => f.answer
    a :: runSteps files rest s'

def runSession (files : Files) (config : Option String) (steps : List Step) : Answer :=
  let cfg := match config with
    | some text => HostConfig.ofJson text
    | none => .ok {}
  match cfg with
  | .error e => configFailure e
  | .ok c =>
    match Host.create files c with
    | .error e => failure e.kindName e.message e.isContractViolation
    | .ok h => .obj [("steps", .list (runSteps files steps { world := { host := h } }))]

end ScriptBridge.Session
