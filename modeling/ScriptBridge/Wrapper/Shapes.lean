import ScriptBridge.Wrapper.Basic

/-!
# Points and lines

A point wrapper reads and writes the coordinates `x` and `y` of its object and calls its
methods `isOrigin`, `plus`, `move` and `toString`; a result that is a point is adapted, so a
method returning its own receiver hands back the same wrapper. A line wrapper reads the
endpoints `start` and `end` and calls `length`, `contains` and `toString`; its endpoints are
always handed out as new point wrappers.
-/

namespace ScriptBridge.Wrapper

open ScriptBridge.Host

namespace Point

def x (p : Wrapper) : Op Float := do
  Op.lift (← Op.host (Host.getProperty p.source "x")).asF64

def y (p : Wrapper) : Op Float := do
  Op.lift (← Op.host (Host.getProperty p.source "y")).asF64

def setX (p : Wrapper) (v : Float) : Op Unit := Op.host (Host.setProperty p.source "x" (.number v))

def setY (p : Wrapper) (v : Float) : Op Unit := Op.host (Host.setProperty p.source "y" (.number v))

def isOrigin (p : Wrapper) : Op Bool := do
  Op.lift (← Op.host (Host.invoke p.source "isOrigin" [])).asBool

def plus (p other : Wrapper) : Op Wrapper := do
  adapt p (← Op.host (Host.invoke p.source "plus" [other.toForeign]))

def moveBy (p : Wrapper) (dx dy : Float) : Op Wrapper := do
  adapt p (← Op.host (Host.invoke p.source "move" [.number dx, .number dy]))

end Point

def describe (w : Wrapper) : Op String := do
  Op.lift (← Op.host (Host.invoke w.source "toString" [])).intoString

namespace Line

def asPoint (candidate : Foreign) : Op Wrapper := wrap candidate

def start (l : Wrapper) : Op Wrapper := do asPoint (← Op.host (Host.getProperty l.source "start"))

def finish (l : Wrapper) : Op Wrapper := do asPoint (← Op.host (Host.getProperty l.source "end"))

def length (l : Wrapper) : Op Float := do
  Op.lift (← Op.host (Host.invoke l.source "length" [])).asF64

def contains (l p : Wrapper) : Op Bool := do
  Op.lift (← Op.host (Host.invoke l.source "contains" [p.toForeign])).asBool

end Line

end ScriptBridge.Wrapper
