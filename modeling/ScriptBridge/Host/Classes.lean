/-!
# The sample classes

Two classes a host loads before anything else unless its configuration says not to: `Point`,
a pair of coordinates with `isOrigin`, `plus`, `move` and `toString`, and `Line`, two points with
`length`, `contains` and `toString`. They are one script, the two class texts joined by a line
break.
-/

namespace ScriptBridge.Host

def sampleClasses : String :=
  "class Point \x7b\n" ++
  "    x = 0\n" ++
  "    y = 0\n" ++
  "\n" ++
  "    constructor(x, y) \x7b\n" ++
  "        this.x = x\n" ++
  "        this.y = y\n" ++
  "    \x7d\n" ++
  "\n" ++
  "    isOrigin() \x7b\n" ++
  "        return this.x == 0 && this.y == 0\n" ++
  "    \x7d\n" ++
  "\n" ++
  "    plus(point) \x7b\n" ++
  "        return new Point(this.x + point.x, this.y + point.y)\n" ++
  "    \x7d\n" ++
  "\n" ++
  "    move(x, y) \x7b\n" ++
  "        this.x = this.x + x\n" ++
  "        this.y = this.y + y\n" ++
  "        return this\n" ++
  "    \x7d\n" ++
  "\n" ++
  "    toString() \x7b\n" ++
  "        return \"Point@(\" + this.x + \",\" + this.y + \")\"\n" ++
  "    \x7d\n" ++
  "\x7d\n" ++
  "\n" ++
  "class Line \x7b\n" ++
  "    start = new Point(0, 0)\n" ++
  "    end = new Point(0, 0)\n" ++
  "\n" ++
  "    constructor(start, end) \x7b\n" ++
  "        this.start = start\n" ++
  "        this.end = end\n" ++
  "    \x7d\n" ++
  "\n" ++
  "    length() \x7b\n" ++
  "        let dx = this.start.x - this.end.x\n" ++
  "        let dy = this.start.y - this.end.y\n" ++
  "        return Math.sqrt(dx * dx + dy * dy)\n" ++
  "    \x7d\n" ++
  "\n" ++
  "    contains(point) \x7b\n" ++
  "        let maxX = Math.max(this.start.x, this.end.x)\n" ++
  "        let minX = Math.min(this.start.x, this.end.x)\n" ++
  "        let maxY = Math.max(this.start.y, this.end.y)\n" ++
  "        let minY = Math.min(this.start.y, this.end.y)\n" ++
  "\n" ++
  "        let collinear = (point.x - this.start.x) * (this.end.y - this.start.y)\n" ++
  "            == (this.end.x - this.start.x) * (point.y - this.start.y)\n" ++
  "        return collinear && point.x >= minX && point.x <= maxX && point.y >= minY && point.y <= maxY\n" ++
  "    \x7d\n" ++
  "\n" ++
  "    toString() \x7b\n" ++
  "        return \"Line@\x7b(\" + this.start.x + \",\" + this.start.y + \"),(\" + this.end.x + \",\" + this.end.y + \")\x7d\"\n" ++
  "    \x7d\n" ++
  "\x7d\n"

end ScriptBridge.Host
