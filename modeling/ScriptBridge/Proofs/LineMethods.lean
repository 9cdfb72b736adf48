import ScriptBridge.Proofs.Evaluation
import ScriptBridge.Proofs.PointMethods

/-!
# The bundled `Line` class's `contains` at work

What the line wrapper's `contains` answers when the wrapped object is an instance of the `Line`
class the host loads. The class is described by where its text puts it in a realm
(`LineClass.Holds`): a prototype carrying `contains`, whose body is the class text's own, a class
scope inside the top scope, and `Math` with its `max` and `min` on the global object, where the
body finds it because no scope binds the name.

The body reads the coordinates of the receiver's `start` and `end` and of its argument when it
runs, binds the bounding box and the cross-product test with `let`, and returns their
conjunction. `Reads` is what a realm must hold for the body to run so; each declaration keeps it
(`Reads.let_step`), and the body returns `answer` of the six coordinates, a computation in
doubles, changing nothing but its own scope. The call, the host's `invoke` and the wrapper follow
as for the point methods: no old object changes.
-/

namespace ScriptBridge.Script

/-- Where the bundled `Line` class keeps `contains` once its text has run, and the `Math`
functions the method calls: the class's prototype and scope, the function of `contains`, the
`Math` object, and its `max` and `min`. -/
structure LineClass where
  proto : Nat
  scope : Nat
  contains : Nat
  math : Nat
  max : Nat
  min : Nat

namespace LineClass

def endCoord (e c : String) : Expr := .member (.member .thisRef e) c

def pointCoord (c : String) : Expr := .member (.ident "point") c

def extreme (f c : String) (pos : Pos) : Expr :=
  .call (.member (.ident "Math") f) [.one (endCoord "start" c), .one (endCoord "end" c)] pos

def letDecl (n : String) (e : Expr) : Stmt := .decl .letDecl [.mk (.name n) (some e)]

def collinearTest : Expr :=
  .binary .eq
    (.binary .mul (.binary .sub (pointCoord "x") (endCoord "start" "x"))
      (.binary .sub (endCoord "end" "y") (endCoord "start" "y")))
    (.binary .mul (.binary .sub (endCoord "end" "x") (endCoord "start" "x"))
      (.binary .sub (pointCoord "y") (endCoord "start" "y")))

def verdict : Expr :=
  .logic .and (.logic .and (.logic .and (.logic .and (.ident "collinear")
    (.binary .ge (pointCoord "x") (.ident "minX")))
    (.binary .le (pointCoord "x") (.ident "maxX")))
    (.binary .ge (pointCoord "y") (.ident "minY")))
    (.binary .le (pointCoord "y") (.ident "maxY"))

def containsBody : List Stmt :=
  [letDecl "maxX" (extreme "max" "x" ⟨45, 20⟩), letDecl "minX" (extreme "min" "x" ⟨46, 20⟩),
   letDecl "maxY" (extreme "max" "y" ⟨47, 20⟩), letDecl "minY" (extreme "min" "y" ⟨48, 20⟩),
   letDecl "collinear" collinearTest, .ret (some verdict)]

def containsFunc : Func := .mk (some "contains") (["point"].map Param.plain) containsBody .method true

def bodyNames : List String := ["maxX", "minX", "maxY", "minY", "collinear"]

theorem containsBody_hoists :
    Hoist.varNamesList containsBody = [] ∧ Hoist.functions containsBody = [] ∧
      Hoist.lexicals containsBody = bodyNames.map (·, true) := by
  decide

def answer (sx sy ex ey px py : Float) : Bool :=
  ((px - sx) * (ey - sy) == (ex - sx) * (py - sy)) &&
    Operators.atLeast px ([sx, ex].foldl Builtins.minOf Builtins.infinity) &&
    Operators.atLeast ([sx, ex].foldl Builtins.maxOf (-Builtins.infinity)) px &&
    Operators.atLeast py ([sy, ey].foldl Builtins.minOf Builtins.infinity) &&
    Operators.atLeast ([sy, ey].foldl Builtins.maxOf (-Builtins.infinity)) py

variable (lc : LineClass)

def method : Closure :=
  { func := containsFunc, scope := lc.scope, thisLexical := false, isClass := false,
    home := some lc.proto }

/-- The class is in the realm as its text leaves it: `contains` on the prototype; the class scope
inside the top scope, neither binding `Math`; and `Math` on the global object, with its `max` and
`min`. -/
structure Holds (r : Realm) : Prop where
  proto_kind : (r.obj lc.proto).kind = .ordinary
  proto_contains :
    (r.obj lc.proto).props.find? (Key.ofString "contains") = some (Property.hidden (.obj lc.contains))
  contains_kind : (r.obj lc.contains).kind = .closure lc.method
  scope_parent : (r.scope lc.scope).parent = some Realm.globalScope
  scope_math : (r.scope lc.scope).find? "Math" = none
  top_parent : (r.scope Realm.globalScope).parent = none
  top_math : (r.scope Realm.globalScope).find? "Math" = none
  global_math : r.HasData Env.globalRef "Math" (.obj lc.math)
  math_max : r.HasData lc.math "max" (.obj lc.max)
  math_min : r.HasData lc.math "min" (.obj lc.min)
  max_kind : (r.obj lc.max).kind = .native .mathMax
  min_kind : (r.obj lc.min).kind = .native .mathMin

/-- An ordinary object that inherits `contains` from the class's prototype. -/
structure IsInstance (r : Realm) (o : Nat) : Prop where
  kind : (r.obj o).kind = .ordinary
  proto : (r.obj o).proto = some lc.proto
  no_contains : (r.obj o).props.find? (Key.ofString "contains") = none

variable {lc} {r r' : Realm}

theorem Holds.scope_lt (h : lc.Holds r) : lc.scope < r.scopes.size :=
  Realm.lt_scopes_size_of_parent h.scope_parent

theorem Holds.extend (h : lc.Holds r) (he : r.Extends r' fun _ => False) : lc.Holds r' := by
  have hproto := he.obj_eq lc.proto (Realm.lt_size_of_find? h.proto_contains) not_false
  have hcontains := he.obj_eq lc.contains (Realm.lt_size_of_closure h.contains_kind) not_false
  have hmax := he.obj_eq lc.max (Realm.lt_size_of_native h.max_kind) not_false
  have hmin := he.obj_eq lc.min (Realm.lt_size_of_native h.min_kind) not_false
  have hscope := he.scope_eq lc.scope h.scope_lt
  have htop := he.scope_eq Realm.globalScope (Nat.lt_of_le_of_lt (Nat.zero_le _) h.scope_lt)
  exact ⟨hproto ▸ h.proto_kind, hproto ▸ h.proto_contains, hcontains ▸ h.contains_kind,
    hscope ▸ h.scope_parent, hscope ▸ h.scope_math, htop ▸ h.top_parent, htop ▸ h.top_math,
    h.global_math.extend he not_false, h.math_max.extend he not_false, h.math_min.extend he not_false,
    hmax ▸ h.max_kind, hmin ▸ h.min_kind⟩

theorem Holds.of_same (h : lc.Holds r) (hh : r'.heap = r.heap) (hs : r'.scopes = r.scopes) :
    lc.Holds r' := by
  have ho : ∀ i, r'.obj i = r.obj i := fun i => by simp [Realm.obj, hh]
  have hsc : ∀ i, r'.scope i = r.scope i := fun i => by simp [Realm.scope, hs]
  have hd : ∀ {o : Nat} {n : String} {v : Value}, r.HasData o n v → r'.HasData o n v :=
    fun hd => by rw [Realm.HasData, ho]; exact hd
  obtain ⟨h₁, h₂, h₃, h₄, h₅, h₆, h₇, h₈, h₉, h₁₀, h₁₁, h₁₂⟩ := h
  exact ⟨ho _ ▸ h₁, ho _ ▸ h₂, ho _ ▸ h₃, hsc _ ▸ h₄, hsc _ ▸ h₅, hsc _ ▸ h₆, hsc _ ▸ h₇, hd h₈,
    hd h₉, hd h₁₀, ho _ ▸ h₁₁, ho _ ▸ h₁₂⟩

theorem Holds.onlyScope {s : Nat} (h : lc.Holds r) (h' : r.OnlyScope r' s) (hs : lc.scope < s) :
    lc.Holds r' := by
  have hscope := h'.scope_ne lc.scope (Nat.ne_of_lt hs)
  have htop := h'.scope_ne Realm.globalScope (Nat.ne_of_lt (Nat.lt_of_le_of_lt (Nat.zero_le _) hs))
  exact ⟨h'.obj_eq _ ▸ h.proto_kind, h'.obj_eq _ ▸ h.proto_contains, h'.obj_eq _ ▸ h.contains_kind,
    hscope ▸ h.scope_parent, hscope ▸ h.scope_math, htop ▸ h.top_parent, htop ▸ h.top_math,
    h'.hasData h.global_math, h'.hasData h.math_max, h'.hasData h.math_min, h'.obj_eq _ ▸ h.max_kind,
    h'.obj_eq _ ▸ h.min_kind⟩

end LineClass

/-- The objects one call of `contains` reads and the coordinates it finds in them: the line, its
two ends and the argument. -/
structure Segment where
  line : Nat
  start : Nat
  finish : Nat
  point : Nat
  sx : Float
  sy : Float
  ex : Float
  ey : Float
  px : Float
  py : Float

namespace Segment

variable (g : Segment) {r r' : Realm}

/-- The realm holds the objects as `g` says: the line's own `start` and `end` are its ends, and
each of the three points has its coordinates as own data properties. -/
structure Holds (r : Realm) : Prop where
  start : r.HasData g.line "start" (.obj g.start)
  finish : r.HasData g.line "end" (.obj g.finish)
  sx : r.HasData g.start "x" (.num g.sx)
  sy : r.HasData g.start "y" (.num g.sy)
  ex : r.HasData g.finish "x" (.num g.ex)
  ey : r.HasData g.finish "y" (.num g.ey)
  px : r.HasData g.point "x" (.num g.px)
  py : r.HasData g.point "y" (.num g.py)

def answer : Bool := LineClass.answer g.sx g.sy g.ex g.ey g.px g.py

variable {g}

theorem Holds.map (h : g.Holds r)
    (f : ∀ {o : Nat} {n : String} {v : Value}, r.HasData o n v → r'.HasData o n v) : g.Holds r' :=
  ⟨f h.start, f h.finish, f h.sx, f h.sy, f h.ex, f h.ey, f h.px, f h.py⟩

end Segment

namespace LineClass

variable {lc : LineClass} {g : Segment} {ops : Ops} {r r' : Realm} {s : Nat} {hint : Option String}

variable (lc) in
/-- What the body of `contains` reads while it runs in scope `s` of `r`: the class with `Math`,
the line as `this` and the argument as `point` in `s`, which binds no `Math` and lies inside the
class scope, and the segment's objects. -/
structure Reads (r : Realm) (s : Nat) (g : Segment) : Prop where
  holds : lc.Holds r
  segment : g.Holds r
  this : (r.scope s).this? = some (.obj g.line)
  pending : (r.scope s).thisPending = false
  point : (r.scope s).find? "point" = some ⟨.obj g.point, true, true⟩
  no_math : (r.scope s).find? "Math" = none
  parent : (r.scope s).parent = some lc.scope
  above : lc.scope < s
  within : s < r.scopes.size

theorem Reads.rebind {n : String} {b : Binding} (h : lc.Reads r s g) (h' : r.OnlyScope r' s)
    (hs : r'.scope s = (r.scope s).bind n b) (hp : n ≠ "point") (hm : n ≠ "Math") :
    lc.Reads r' s g where
  holds := h.holds.onlyScope h' h.above
  segment := h.segment.map h'.hasData
  this := by rw [hs, Scope.this?_bind]; exact h.this
  pending := by rw [hs, Scope.thisPending_bind]; exact h.pending
  point := by rw [hs, Scope.find?_bind_ne _ _ hp]; exact h.point
  no_math := by rw [hs, Scope.find?_bind_ne _ _ hm]; exact h.no_math
  parent := by rw [hs, Scope.parent_bind]; exact h.parent
  above := h.above
  within := h'.size_eq ▸ h.within

theorem Reads.resolve_math (h : lc.Reads r s g) : Env.resolve r s "Math" = none := by
  obtain ⟨k, hk⟩ : ∃ k, r.scopes.size + 1 = k + 1 + 1 + 1 :=
    ⟨r.scopes.size - 2, by have := h.above; have := h.within; omega⟩
  rw [Env.resolve, hk, Env.resolveAt_parent h.no_math h.parent,
    Env.resolveAt_parent h.holds.scope_math h.holds.scope_parent,
    Env.resolveAt_root h.holds.top_math h.holds.top_parent]

theorem Reads.math_ref (h : lc.Reads r s g) :
    (Eval.expr ops ⟨s, true⟩ none (.ident "Math")).exec r = (.ok (.obj lc.math), r) :=
  let ⟨hk, _, _, _, hp⟩ := h.holds.global_math
  Eval.expr_ident (Env.getVar_global h.resolve_math hk hp)

theorem Reads.end_coord {e c : String} {o : Nat} {v : Float} (h : lc.Reads r s g)
    (he : r.HasData g.line e (.obj o)) (hc : r.HasData o c (.num v)) :
    (Eval.expr ops ⟨s, true⟩ hint (endCoord e c)).exec r = (.ok (.num v), r) :=
  Eval.expr_member_data (Eval.expr_member_data (Eval.expr_thisRef h.this h.pending) he) hc

theorem Reads.point_coord {c : String} {v : Float} (h : lc.Reads r s g)
    (hc : r.HasData g.point c (.num v)) :
    (Eval.expr ops ⟨s, true⟩ hint (pointCoord c)).exec r = (.ok (.num v), r) :=
  Eval.expr_member_data (Eval.expr_ident (Env.getVar_here h.point)) hc

theorem Reads.extreme_run {f c : String} {fn : Nat} {nat : Native} {a b v : Float} {pos : Pos}
    {F : Nat} (h : lc.Reads r s g) (hfn : r.HasData lc.math f (.obj fn))
    (hk : (r.obj fn).kind = .native nat) (ha : r.HasData g.start c (.num a))
    (hb : r.HasData g.finish c (.num b))
    (hrun : (Builtins.run nat
      { ops := Calls.opsWith F, this := .obj lc.math, args := [.num a, .num b], newTarget := none }).exec
        { r with site := some pos } = (.ok (.num v), { r with site := some pos })) :
    (Eval.expr (Calls.opsWith (F + 1)) ⟨s, true⟩ hint (extreme f c pos)).exec r =
      (.ok (.num v), { r with site := some pos }) := by
  obtain ⟨hmk, _, _, _, hmp⟩ := hfn
  rw [extreme, Eval.expr_call_member h.math_ref hmk hmp
    (Eval.items_one (h.end_coord h.segment.start ha) (Eval.items_one (h.end_coord h.segment.finish hb)
      Eval.items_nil)) (Realm.isCallable_native hk)]
  exact (Calls.callAt_native (r := { r with site := some pos }) hk _ _ F).trans hrun

theorem Reads.max_run {c : String} {a b : Float} {pos : Pos} {F : Nat} (h : lc.Reads r s g)
    (ha : r.HasData g.start c (.num a)) (hb : r.HasData g.finish c (.num b)) :
    (Eval.expr (Calls.opsWith (F + 1)) ⟨s, true⟩ hint (extreme "max" c pos)).exec r =
      (.ok (.num ([a, b].foldl Builtins.maxOf (-Builtins.infinity))), { r with site := some pos }) :=
  h.extreme_run h.holds.math_max h.holds.max_kind ha hb (Builtins.run_mathMax_two _ _ _ _)

theorem Reads.min_run {c : String} {a b : Float} {pos : Pos} {F : Nat} (h : lc.Reads r s g)
    (ha : r.HasData g.start c (.num a)) (hb : r.HasData g.finish c (.num b)) :
    (Eval.expr (Calls.opsWith (F + 1)) ⟨s, true⟩ hint (extreme "min" c pos)).exec r =
      (.ok (.num ([a, b].foldl Builtins.minOf Builtins.infinity)), { r with site := some pos }) :=
  h.extreme_run h.holds.math_min h.holds.min_kind ha hb (Builtins.run_mathMin_two _ _ _ _)

theorem Reads.collinear_run (h : lc.Reads r s g) :
    (Eval.expr ops ⟨s, true⟩ hint collinearTest).exec r =
      (.ok (.bool ((g.px - g.sx) * (g.ey - g.sy) == (g.ex - g.sx) * (g.py - g.sy))), r) := by
  have hg := h.segment
  refine (Eval.expr_binary ?_ ?_).trans Operators.binary_eq_num
  · refine (Eval.expr_binary ?_ ?_).trans Operators.binary_mul_num
    · exact (Eval.expr_binary (h.point_coord hg.px) (h.end_coord hg.start hg.sx)).trans
        Operators.binary_sub_num
    · exact (Eval.expr_binary (h.end_coord hg.finish hg.ey) (h.end_coord hg.start hg.sy)).trans
        Operators.binary_sub_num
  · refine (Eval.expr_binary ?_ ?_).trans Operators.binary_mul_num
    · exact (Eval.expr_binary (h.end_coord hg.finish hg.ex) (h.end_coord hg.start hg.sx)).trans
        Operators.binary_sub_num
    · exact (Eval.expr_binary (h.point_coord hg.py) (h.end_coord hg.start hg.sy)).trans
        Operators.binary_sub_num

theorem Reads.verdict_run {c : Bool} {maxX minX maxY minY : Float} (h : lc.Reads r s g)
    (hc : (r.scope s).find? "collinear" = some ⟨.bool c, true, true⟩)
    (hmaxX : (r.scope s).find? "maxX" = some ⟨.num maxX, true, true⟩)
    (hminX : (r.scope s).find? "minX" = some ⟨.num minX, true, true⟩)
    (hmaxY : (r.scope s).find? "maxY" = some ⟨.num maxY, true, true⟩)
    (hminY : (r.scope s).find? "minY" = some ⟨.num minY, true, true⟩) :
    (Eval.expr ops ⟨s, true⟩ none verdict).exec r =
      (.ok (.bool (c && Operators.atLeast g.px minX && Operators.atLeast maxX g.px &&
        Operators.atLeast g.py minY && Operators.atLeast maxY g.py)), r) := by
  have hg := h.segment
  have var : ∀ {n : String} {v : Value}, (r.scope s).find? n = some ⟨v, true, true⟩ →
      (Eval.expr ops ⟨s, true⟩ none (.ident n)).exec r = (.ok v, r) :=
    fun hb => Eval.expr_ident (Env.getVar_here hb)
  exact Eval.expr_and_bool (Eval.expr_and_bool (Eval.expr_and_bool (Eval.expr_and_bool (var hc)
    ((Eval.expr_binary (h.point_coord hg.px) (var hminX)).trans Operators.binary_ge_num))
    ((Eval.expr_binary (h.point_coord hg.px) (var hmaxX)).trans Operators.binary_le_num))
    ((Eval.expr_binary (h.point_coord hg.py) (var hminY)).trans Operators.binary_ge_num))
    ((Eval.expr_binary (h.point_coord hg.py) (var hmaxY)).trans Operators.binary_le_num)

theorem Reads.let_step {n : String} {e : Expr} {v : Value} {r₁ : Realm} {labels : List String}
    (h : lc.Reads r s g) (he : (Eval.expr ops ⟨s, true⟩ (some n) e).exec r = (.ok v, r₁))
    (h₁ : r.OnlyScope r₁ s) (hs₁ : r₁.scope s = r.scope s)
    (hdecl : (r.scope s).find? n = some ⟨.undefined, true, false⟩) (hp : n ≠ "point")
    (hm : n ≠ "Math") :
    ∃ r₂, (Eval.stmt ops ⟨s, true⟩ labels (letDecl n e)).exec r = (.ok (.normal none), r₂) ∧
      r.OnlyScope r₂ s ∧ r₂.scope s = (r.scope s).bind n ⟨v, true, true⟩ ∧ lc.Reads r₂ s g := by
  have hs₂ : (r₁.modifyScope s (·.initValue n v)).scope s = (r.scope s).bind n ⟨v, true, true⟩ := by
    rw [Realm.scope_modifyScope_self _ (h₁.size_eq ▸ h.within), hs₁]
    exact Scope.initValue_of_declared hdecl v
  have h₂ := h₁.trans (Realm.OnlyScope.modifyScope r₁ (·.initValue n v))
  exact ⟨_, Eval.stmt_let he, h₂, hs₂, h.rebind h₂ hs₂ hp hm⟩

theorem Reads.containsBody_run (h : lc.Reads r s g)
    (hdecl : ∀ n ∈ bodyNames, (r.scope s).find? n = some ⟨.undefined, true, false⟩) (F : Nat) :
    ∃ r', (Eval.stmts (Calls.opsWith (F + 1)) ⟨s, true⟩ none containsBody).exec r =
      (.ok (.ret (.bool g.answer)), r') ∧ r.OnlyScope r' s := by
  obtain ⟨r₁, hst₁, ho₁, hs₁, h₁⟩ := h.let_step (n := "maxX") (e := extreme "max" "x" ⟨45, 20⟩)
    (h.max_run h.segment.sx h.segment.ex)
    (.withSite r s _) rfl (hdecl "maxX" (by decide)) (by decide) (by decide)
  obtain ⟨r₂, hst₂, ho₂, hs₂, h₂⟩ := h₁.let_step (n := "minX") (e := extreme "min" "x" ⟨46, 20⟩)
    (h₁.min_run h₁.segment.sx h₁.segment.ex)
    (.withSite r₁ s _) rfl (by rw [hs₁, Scope.find?_bind_ne _ _ (show "maxX" ≠ "minX" by decide)]; exact hdecl "minX" (by decide))
    (by decide) (by decide)
  obtain ⟨r₃, hst₃, ho₃, hs₃, h₃⟩ := h₂.let_step (n := "maxY") (e := extreme "max" "y" ⟨47, 20⟩)
    (h₂.max_run h₂.segment.sy h₂.segment.ey)
    (.withSite r₂ s _) rfl
    (by simp only [hs₂, hs₁, Scope.find?_bind_ne _ _ (show "minX" ≠ "maxY" by decide),
      Scope.find?_bind_ne _ _ (show "maxX" ≠ "maxY" by decide)]; exact hdecl "maxY" (by decide))
    (by decide) (by decide)
  obtain ⟨r₄, hst₄, ho₄, hs₄, h₄⟩ := h₃.let_step (n := "minY") (e := extreme "min" "y" ⟨48, 20⟩)
    (h₃.min_run h₃.segment.sy h₃.segment.ey)
    (.withSite r₃ s _) rfl
    (by simp only [hs₃, hs₂, hs₁, Scope.find?_bind_ne _ _ (show "maxY" ≠ "minY" by decide),
      Scope.find?_bind_ne _ _ (show "minX" ≠ "minY" by decide),
      Scope.find?_bind_ne _ _ (show "maxX" ≠ "minY" by decide)]; exact hdecl "minY" (by decide))
    (by decide) (by decide)
  obtain ⟨r₅, hst₅, ho₅, hs₅, h₅⟩ := h₄.let_step (n := "collinear") h₄.collinear_run (.refl r₄ s) rfl
    (by simp only [hs₄, hs₃, hs₂, hs₁, Scope.find?_bind_ne _ _ (show "minY" ≠ "collinear" by decide),
      Scope.find?_bind_ne _ _ (show "maxY" ≠ "collinear" by decide),
      Scope.find?_bind_ne _ _ (show "minX" ≠ "collinear" by decide),
      Scope.find?_bind_ne _ _ (show "maxX" ≠ "collinear" by decide)]; exact hdecl "collinear" (by decide))
    (by decide) (by decide)
  rw [containsBody, Eval.stmts_cons_normal hst₁, Eval.stmts_cons_normal hst₂, Eval.stmts_cons_normal hst₃,
    Eval.stmts_cons_normal hst₄, Eval.stmts_cons_normal hst₅]
  refine ⟨r₅, Eval.stmts_cons_ret (Eval.stmt_ret (h₅.verdict_run ?_ ?_ ?_ ?_ ?_)),
    ho₁.trans (ho₂.trans (ho₃.trans (ho₄.trans ho₅)))⟩ <;>
  simp [hs₅, hs₄, hs₃, hs₂, hs₁, Scope.find?_bind_self, Scope.find?_bind_ne]

end LineClass

end ScriptBridge.Script

namespace ScriptBridge.Script.LineClass

variable {lc : LineClass} {g : Segment} {r : Realm}

theorem contains_call (hlc : lc.Holds r) (hg : g.Holds r) (hdepth : r.depth < r.limits.recursion)
    (F : Nat) :
    ∃ r', (Calls.callAt (F + 2) (.obj lc.contains) (.obj g.line) [.obj g.point]).exec r =
        (.ok (.bool g.answer), r') ∧ r.Extends r' fun _ => False := by
  obtain ⟨A, hframe, -⟩ := Calls.inFrame_runFunction_lexicals (Calls.opsWith (F + 1)) lc.method
    lc.contains (.obj g.line) .undefined [.obj g.point] rfl rfl rfl containsBody_hoists.1
    containsBody_hoists.2.1 hdepth
  set S₀ := callScope lc.method lc.contains (.obj g.line) .undefined r.heap.size ["point"] [.obj g.point]
  set S := S₀.declareAll (Hoist.lexicals containsBody)
  set R₁ := r.enter A S
  have hsc : R₁.scope r.scopes.size = S := Realm.scope_enter_self A S
  have hext₁ : ({ r with depth := r.depth + 1, loops := 0 } : Realm).Extends R₁ fun _ => False :=
    Realm.Extends.enter r A S _
  have hargs := callScope_find?_one (n := "point") (m := "Math") lc.method lc.contains (.obj g.line)
    .undefined r.heap.size (.obj g.point)
  have hframeS := Scope.declareAll_frame (Hoist.lexicals containsBody) S₀
  have hlex : ∀ n, n = "point" ∨ n = "Math" → ∀ p ∈ Hoist.lexicals containsBody, p.1 ≠ n := by
    rw [containsBody_hoists.2.2]
    rintro n (rfl | rfl) <;> decide
  have hdecl : ∀ n ∈ bodyNames, (R₁.scope r.scopes.size).find? n = some ⟨.undefined, true, false⟩ := by
    intro n hn
    rw [hsc]
    refine Scope.find?_declareAll_of_mem ?_ ?_ S₀ <;> rw [containsBody_hoists.2.2]
    · decide
    · exact List.mem_map_of_mem hn
  have hlc₀ : lc.Holds { r with depth := r.depth + 1, loops := 0 } := hlc.of_same rfl rfl
  have hreads : lc.Reads R₁ r.scopes.size g :=
    { holds := hlc₀.extend hext₁
      segment := hg.map (·.enter A S)
      this := by rw [hsc, hframeS.1]; exact callScope_this? ..
      pending := by rw [hsc, hframeS.2.1]; exact callScope_thisPending ..
      point := by rw [hsc]; exact (Scope.find?_declareAll_of_not_mem (hlex _ (.inl rfl)) S₀).trans hargs.1
      no_math := by
        rw [hsc]
        exact (Scope.find?_declareAll_of_not_mem (hlex _ (.inr rfl)) S₀).trans
          (hargs.2 (by decide) (by decide))
      parent := by rw [hsc, hframeS.2.2]; exact callScope_parent ..
      above := hlc.scope_lt
      within := by simp [R₁, Realm.enter] }
  obtain ⟨R₂, hbody, hR₂⟩ := hreads.containsBody_run hdecl F
  rw [Calls.callAt_closure hlc.contains_kind rfl (F + 1), M.exec_bind, hframe hbody]
  exact ⟨_, rfl, ((Realm.Extends.enter r A S _).onlyScope hR₂ le_rfl).frame⟩

end ScriptBridge.Script.LineClass

namespace ScriptBridge.Host

open ScriptBridge.Script

theorem invoke_contains {lc : LineClass} {g : Segment} {h : Host} (hlc : lc.Holds h.engine.realm)
    (hinst : lc.IsInstance h.engine.realm g.line) (hg : g.Holds h.engine.realm)
    (hrec : 0 < h.engine.realm.limits.recursion) :
    ∃ r', Host.exec (invoke ⟨g.line⟩ "contains" [.object ⟨g.point⟩]) h =
        (.ok (.bool g.answer), { h with engine := ⟨r'⟩ }) ∧ (workRealm h).Extends r' fun _ => False := by
  set R₀ : Realm := { h.engine.realm with depth := 0, loops := 0, site := none }
  have hread : h.engine.run (Engine.getProperty g.line "contains") = (.ok (.obj lc.contains), ⟨R₀⟩) := by
    rw [Engine.run_eq]
    simp only [Engine.getProperty]
    rw [Objects.getKey_inherited_data (r := R₀) (ObjKind.ownIsTable_of_ordinary hinst.kind)
      hinst.no_contains hinst.proto (ObjKind.ownIsTable_of_ordinary hlc.proto_kind) hlc.proto_contains]
  have hc : (⟨R₀⟩ : Engine).realm.isCallable (.obj lc.contains) = true :=
    Realm.isCallable_closure hlc.contains_kind
  obtain ⟨r', hcall, hext⟩ := LineClass.contains_call (r := R₀) (hlc.of_same rfl rfl) (hg.map id) hrec
    (4 * min R₀.limits.recursion 1000000 + 4094)
  refine ⟨r', ?_, hext⟩
  rw [invoke_call hread hc (.cons rfl .nil), Engine.run_call_of (r := R₀) hcall]
  rfl

end ScriptBridge.Host

namespace ScriptBridge.Wrapper

open ScriptBridge.Host ScriptBridge.Script

theorem Line.contains_bundled {lc : LineClass} {g : Segment} {w : World} {l p : Wrapper}
    (hlc : lc.Holds w.host.engine.realm) (hinst : lc.IsInstance w.host.engine.realm g.line)
    (hg : g.Holds w.host.engine.realm) (hl : l.source.ref = g.line) (hp : p.source.ref = g.point)
    (hrec : 0 < w.host.engine.realm.limits.recursion) :
    ∃ r', (Line.contains l p).exec w = (.ok g.answer, w.withRealm r') ∧
      (workRealm w.host).Extends r' fun _ => False := by
  obtain ⟨r', hinv, hext⟩ := invoke_contains hlc hinst hg hrec
  have hl' : l.source = ⟨g.line⟩ := by rw [← hl]
  have hp' : p.source = ⟨g.point⟩ := by rw [← hp]
  refine ⟨r', ?_, hext⟩
  rw [Line.contains, Op.exec_bind, Op.exec_host, Wrapper.toForeign, hl', hp', hinv]
  rfl

end ScriptBridge.Wrapper
