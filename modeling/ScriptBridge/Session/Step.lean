/-!
# Steps of a session

A session runs steps against one host, in order. Values are given by specs: literal
primitives, a named slot's content, or the result of evaluating a script. Slots are named by
strings; a step that names a slot of the wrong sort, or one never stored, is malformed.
-/

namespace ScriptBridge.Session

/-- How a step gives a value. -/
inductive Spec where
  | undefined
  | null
  | bool (b : Bool)
  | number (x : Float)
  | string (s : String)
  /-- The content of a slot; a wrapper or array gives its object. -/
  | ref (name : String)
  /-- The value a script evaluates to. -/
  | script (src : String)
  deriving Inhabited

/-- What a step asks of the host, its wrappers or its arrays. Slot names of points are `P`,
of lines `L`, of either `W` and of arrays `A` in the descriptions. -/
inductive Action where
  | eval (src : String)
  | loadScript (path : String)
  | config
  | letValue (value : Spec)
  | get (target : Spec) (name : String)
  | set (target : Spec) (name : String) (value : Spec)
  | invoke (target : Spec) (method : String) (args : List Spec)
  | sameObject (a b : Spec)
  | kind (value : Spec)
  | isNullish (value : Spec)
  | intoHandle (value : Spec)
  | intoOptionalHandle (value : Spec)
  | asF64 (value : Spec)
  | asBool (value : Spec)
  | intoString (value : Spec)
  | valueEq (a b : Spec)
  | wrapPoint (value : Spec)
  | wrapLine (value : Spec)
  /-- Adapts a value with the wrapper `W`. -/
  | adapt (wrapper : String) (value : Spec)
  /-- A point for a value, through the line `L`. -/
  | lineAsPoint (line : String) (value : Spec)
  | toForeign (wrapper : String)
  | wrapperEq (a b : String)
  | x (point : String)
  | y (point : String)
  | setX (point : String) (value : Spec)
  | setY (point : String) (value : Spec)
  | isOrigin (point : String)
  | plus (point other : String)
  | moveBy (point : String) (dx dy : Spec)
  | describe (wrapper : String)
  | start (line : String)
  | finish (line : String)
  | length (line : String)
  | contains (line other : String)
  /-- A view of a value as an array; without a choice the host's setting decides caching. -/
  | array (value : Spec) (useCache : Option Bool)
  | arrayLength (array : String)
  | arrayGet (array : String) (index : Nat)
  /-- Stores the point `P`, or `null` for none. -/
  | arraySet (array : String) (index : Nat) (point : Option String)
  | arrayPush (array : String) (point : String)
  | arrayPop (array : String)
  | arrayIndexOf (array : String) (point : String)
  | arrayLastIndexOf (array : String) (point : String)
  | arrayIncludes (array : String) (point : String)
  | arrayJoin (array : String) (separator : String)
  | arrayFill (array : String) (point : Option String)
  | arrayToVec (array : String)
  | arraySetUseCache (array : String) (value : Bool)
  | arrayClearCache (array : String)
  | arrayUseCache (array : String)
  | arrayCachedLen (array : String)
  | arrayToForeign (array : String) (point : Option String)
  | arrayConcat (array other : String)
  /-- A step that could not be read, and why. -/
  | unreadable (reason : String)
  deriving Inhabited

/-- A step: an action and the slot its result is stored under, if any. -/
structure Step where
  action : Action
  store : Option String := none
  deriving Inhabited

end ScriptBridge.Session
