import ScriptBridge.Proofs.Steps
import ScriptBridge.Proofs.Boundary
import ScriptBridge.Proofs.Crossing
import ScriptBridge.Proofs.Identity

/-!
# The bundled `Point` class at work

What the point wrappers' `move_by` and `plus` do when the wrapped object is an instance of the
`Point` class the host loads. The class is described by where its text puts it in a realm
(`PointClass.Holds`): a constructor whose instance fields are `x = 0` and `y = 0` and whose body
stores its two arguments in them, and a prototype carrying `plus` and `move`, whose bodies are
the class text's own.

Each method body is run statement by statement from the realm a call enters. `move` writes the
sums into the receiver's own coordinates and returns the receiver, so `move_by` hands the same
wrapper back; when `x` is read-only, as on a frozen point, its first assignment throws in the
class's strict code and `move_by` fails. `plus` constructs a new `Point` from the sums, a new
object that the wrapper adapts into a new wrapper, and no old object changes, so both operands
read as before even when they are one object. What a run keeps is stated with
`Realm.Extends`; the calls go through the host's property read and argument conversion
(`invoke_call`) and the wrapper's adaptation (`adapt_run`).
-/

namespace ScriptBridge.Script

/-- Where the bundled `Point` class lives in a realm once its text has run: its constructor, its
prototype, the scope its methods close over, and the functions of its methods `plus` and `move`. -/
structure PointClass where
  ctor : Nat
  proto : Nat
  scope : Nat
  plus : Nat
  move : Nat

namespace PointClass

def ctorBody : List Stmt :=
  [.expr (.assign none (.member .thisRef "x") (.ident "x")),
   .expr (.assign none (.member .thisRef "y") (.ident "y"))]

def ctorFunc : Func := .mk (some "Point") (["x", "y"].map Param.plain) ctorBody .classConstructor true

def plusBody : List Stmt :=
  [.ret (some (.construct (.ident "Point")
    [.one (.binary .add (.member .thisRef "x") (.member (.ident "point") "x")),
     .one (.binary .add (.member .thisRef "y") (.member (.ident "point") "y"))] ⟨15, 16⟩))]

def plusFunc : Func := .mk (some "plus") (["point"].map Param.plain) plusBody .method true

def moveBody : List Stmt :=
  [.expr (.assign none (.member .thisRef "x") (.binary .add (.member .thisRef "x") (.ident "x"))),
   .expr (.assign none (.member .thisRef "y") (.binary .add (.member .thisRef "y") (.ident "y"))),
   .ret (some .thisRef)]

def moveFunc : Func := .mk (some "move") (["x", "y"].map Param.plain) moveBody .method true

def fields : List Field := [⟨Key.ofString "x", some (.num 0)⟩, ⟨Key.ofString "y", some (.num 0)⟩]

variable (pc : PointClass)

def ctorClosure : Closure :=
  { func := ctorFunc, scope := pc.scope, thisLexical := false, isClass := true, fields,
    heritage := none, home := some pc.proto }

def method (f : Func) : Closure :=
  { func := f, scope := pc.scope, thisLexical := false, isClass := false, home := some pc.proto }

/-- The class is in the realm as its definition leaves it: the constructor with its fields and
its fixed `prototype`, the methods on the prototype, and the class name bound in the class scope. -/
structure Holds (r : Realm) : Prop where
  ctor_kind : (r.obj pc.ctor).kind = .closure pc.ctorClosure
  ctor_prototype :
    (r.obj pc.ctor).props.find? (Key.ofString "prototype") = some (Property.fixed (.obj pc.proto))
  proto_kind : (r.obj pc.proto).kind = .ordinary
  proto_plus : (r.obj pc.proto).props.find? (Key.ofString "plus") = some (Property.hidden (.obj pc.plus))
  proto_move : (r.obj pc.proto).props.find? (Key.ofString "move") = some (Property.hidden (.obj pc.move))
  plus_kind : (r.obj pc.plus).kind = .closure (pc.method plusFunc)
  move_kind : (r.obj pc.move).kind = .closure (pc.method moveFunc)
  scope_binds : (r.scope pc.scope).find? "Point" = some ⟨.obj pc.ctor, false, true⟩

/-- An ordinary object that inherits `plus` and `move` from the class's prototype. -/
structure IsInstance (r : Realm) (o : Nat) : Prop where
  kind : (r.obj o).kind = .ordinary
  proto : (r.obj o).proto = some pc.proto
  no_plus : (r.obj o).props.find? (Key.ofString "plus") = none
  no_move : (r.obj o).props.find? (Key.ofString "move") = none

def madeProps (a b : Float) : Table :=
  (((({} : Table).insert (Key.ofString "x") (Property.plain (.num 0))).insert (Key.ofString "y")
    (Property.plain (.num 0))).insert (Key.ofString "x") (Property.plain (.num a))).insert
    (Key.ofString "y") (Property.plain (.num b))

def made (a b : Float) : Obj := { proto := some pc.proto, props := madeProps a b }

theorem keys_named : (Key.ofString "x").index? = none ∧ (Key.ofString "y").index? = none ∧
    (Key.ofString "plus").index? = none ∧ (Key.ofString "move").index? = none := by
  decide

theorem ctorBody_hoists :
    Hoist.varNamesList ctorBody = [] ∧ Hoist.lexicals ctorBody = [] ∧ Hoist.functions ctorBody = [] := by
  decide

theorem plusBody_hoists :
    Hoist.varNamesList plusBody = [] ∧ Hoist.lexicals plusBody = [] ∧ Hoist.functions plusBody = [] := by
  decide

theorem moveBody_hoists :
    Hoist.varNamesList moveBody = [] ∧ Hoist.lexicals moveBody = [] ∧ Hoist.functions moveBody = [] := by
  decide

section Coordinates

variable (t : Table) (p q : Property)

theorem coords_find?_x :
    ((t.insert (Key.ofString "x") p).insert (Key.ofString "y") q).find? (Key.ofString "x") = some p :=
  (Table.find?_insert_ne _ _ keys_named.2.1 keys_named.1 (Key.ofString_beq_of_ne (by decide))).trans
    (Table.find?_insert_self _ _ _)

theorem coords_find?_y :
    ((t.insert (Key.ofString "x") p).insert (Key.ofString "y") q).find? (Key.ofString "y") = some q :=
  Table.find?_insert_self _ _ _

theorem coords_find?_other {k : Key} (hk : k.index? = none) (hx : (Key.ofString "x" == k) = false)
    (hy : (Key.ofString "y" == k) = false) :
    ((t.insert (Key.ofString "x") p).insert (Key.ofString "y") q).find? k = t.find? k := by
  rw [Table.find?_insert_ne _ _ keys_named.2.1 hk hy, Table.find?_insert_ne _ _ keys_named.1 hk hx]

end Coordinates

theorem madeProps_x (a b : Float) :
    (madeProps a b).find? (Key.ofString "x") = some (Property.plain (.num a)) :=
  coords_find?_x _ _ _

theorem madeProps_y (a b : Float) :
    (madeProps a b).find? (Key.ofString "y") = some (Property.plain (.num b)) :=
  coords_find?_y _ _ _

theorem madeProps_other {k : Key} (hk : k.index? = none) (hx : (Key.ofString "x" == k) = false)
    (hy : (Key.ofString "y" == k) = false) (a b : Float) : (madeProps a b).find? k = none := by
  rw [madeProps, coords_find?_other _ _ _ hk hx hy, coords_find?_other _ _ _ hk hx hy, Table.find?_empty]

variable {pc}

theorem made_isInstance {r : Realm} {t : Nat} {a b : Float} (h : r.obj t = pc.made a b) :
    pc.IsInstance r t := by
  have hplus := madeProps_other keys_named.2.2.1 (Key.ofString_beq_of_ne (show "x" ≠ "plus" by decide))
    (Key.ofString_beq_of_ne (show "y" ≠ "plus" by decide)) a b
  have hmove := madeProps_other keys_named.2.2.2 (Key.ofString_beq_of_ne (show "x" ≠ "move" by decide))
    (Key.ofString_beq_of_ne (show "y" ≠ "move" by decide)) a b
  exact ⟨by rw [h]; rfl, by rw [h]; rfl, by rw [h]; exact hplus, by rw [h]; exact hmove⟩

theorem Holds.extend {r r' : Realm} (h : pc.Holds r) (he : r.Extends r' fun _ => False) :
    pc.Holds r' := by
  have hctor := he.obj_eq pc.ctor (Realm.lt_size_of_find? h.ctor_prototype) not_false
  have hproto := he.obj_eq pc.proto (Realm.lt_size_of_find? h.proto_plus) not_false
  have hplus := he.obj_eq pc.plus (Realm.lt_size_of_closure h.plus_kind) not_false
  have hmove := he.obj_eq pc.move (Realm.lt_size_of_closure h.move_kind) not_false
  have hscope := he.scope_eq pc.scope (Realm.lt_scopes_size_of_find? h.scope_binds)
  exact ⟨hctor ▸ h.ctor_kind, hctor ▸ h.ctor_prototype, hproto ▸ h.proto_kind, hproto ▸ h.proto_plus,
    hproto ▸ h.proto_move, hplus ▸ h.plus_kind, hmove ▸ h.move_kind, hscope ▸ h.scope_binds⟩

theorem Holds.of_same {r r' : Realm} (h : pc.Holds r) (hh : r'.heap = r.heap)
    (hs : r'.scopes = r.scopes) : pc.Holds r' := by
  have ho : ∀ i, r'.obj i = r.obj i := fun i => by simp [Realm.obj, hh]
  have hsc : ∀ i, r'.scope i = r.scope i := fun i => by simp [Realm.scope, hs]
  obtain ⟨h₁, h₂, h₃, h₄, h₅, h₆, h₇, h₈⟩ := h
  exact ⟨ho _ ▸ h₁, ho _ ▸ h₂, ho _ ▸ h₃, ho _ ▸ h₄, ho _ ▸ h₅, ho _ ▸ h₆, ho _ ▸ h₇, hsc _ ▸ h₈⟩

theorem putProp_x_keeps_y {R : Realm} {o : Nat} {py : Property} (hk : (R.obj o).kind = .ordinary)
    (hy : (R.obj o).props.find? (Key.ofString "y") = some py) (p : Property) :
    ((R.putProp o (Key.ofString "x") p).obj o).kind = .ordinary ∧
      ((R.putProp o (Key.ofString "x") p).obj o).props.find? (Key.ofString "y") = some py := by
  rw [Realm.obj_putProp_self (Realm.lt_size_of_find? hy)]
  exact ⟨hk, (Table.find?_insert_ne _ _ keys_named.1 keys_named.2.1 (Key.ofString_beq_of_ne (by decide))).trans hy⟩

section Bodies

variable {ops : Ops} {R : Realm} {s o : Nat}

theorem moveBody_run {x0 y0 dx dy : Float} {ex cx ey cy : Bool}
    (hthis : (R.scope s).this? = some (.obj o)) (hpend : (R.scope s).thisPending = false)
    (hdx : (R.scope s).find? "x" = some ⟨.num dx, true, true⟩)
    (hdy : (R.scope s).find? "y" = some ⟨.num dy, true, true⟩) (hk : (R.obj o).kind = .ordinary)
    (hx : (R.obj o).props.find? (Key.ofString "x") = some ⟨.data (.num x0) true, ex, cx⟩)
    (hy : (R.obj o).props.find? (Key.ofString "y") = some ⟨.data (.num y0) true, ey, cy⟩) :
    (Eval.stmts ops ⟨s, true⟩ none moveBody).exec R =
      (.ok (.ret (.obj o)), (R.putProp o (Key.ofString "x") ⟨.data (.num (x0 + dx)) true, ex, cx⟩).putProp
        o (Key.ofString "y") ⟨.data (.num (y0 + dy)) true, ey, cy⟩) := by
  have hself : (Eval.expr ops ⟨s, true⟩ none .thisRef).exec R = (.ok (.obj o), R) :=
    Eval.expr_thisRef hthis hpend
  have hsum_x : (Eval.expr ops ⟨s, true⟩ none (.binary .add (.member .thisRef "x") (.ident "x"))).exec R =
      (.ok (.num (x0 + dx)), R) :=
    Eval.expr_add (Eval.expr_member hself (ObjKind.ownIsTable_of_ordinary hk) hx)
      (Eval.expr_ident (Env.getVar_here hdx))
  rw [moveBody, Eval.stmts_cons_normal (Eval.stmt_expr (Eval.expr_assign_member hself hsum_x hk hx))]
  set R₁ := R.putProp o (Key.ofString "x") ⟨.data (.num (x0 + dx)) true, ex, cx⟩
  obtain ⟨hk₁, hy₁⟩ := putProp_x_keeps_y hk hy ⟨.data (.num (x0 + dx)) true, ex, cx⟩
  have hself₁ : (Eval.expr ops ⟨s, true⟩ none .thisRef).exec R₁ = (.ok (.obj o), R₁) :=
    Eval.expr_thisRef hthis hpend
  have hsum_y : (Eval.expr ops ⟨s, true⟩ none (.binary .add (.member .thisRef "y") (.ident "y"))).exec R₁ =
      (.ok (.num (y0 + dy)), R₁) :=
    Eval.expr_add (Eval.expr_member hself₁ (ObjKind.ownIsTable_of_ordinary hk₁) hy₁)
      (Eval.expr_ident (Env.getVar_here (r := R₁) hdy))
  rw [Eval.stmts_cons_normal (Eval.stmt_expr (Eval.expr_assign_member hself₁ hsum_y hk₁ hy₁))]
  exact Eval.stmts_cons_ret (Eval.stmt_ret (Eval.expr_thisRef hthis hpend))

theorem moveBody_readonly {x0 dx : Float} {ex cx : Bool}
    (hthis : (R.scope s).this? = some (.obj o)) (hpend : (R.scope s).thisPending = false)
    (hdx : (R.scope s).find? "x" = some ⟨.num dx, true, true⟩) (hk : (R.obj o).kind = .ordinary)
    (hx : (R.obj o).props.find? (Key.ofString "x") = some ⟨.data (.num x0) false, ex, cx⟩) :
    ∃ err R', (Eval.stmts ops ⟨s, true⟩ none moveBody).exec R = (.error (.thrown err), R') := by
  have hself : (Eval.expr ops ⟨s, true⟩ none .thisRef).exec R = (.ok (.obj o), R) :=
    Eval.expr_thisRef hthis hpend
  have hsum_x : (Eval.expr ops ⟨s, true⟩ none (.binary .add (.member .thisRef "x") (.ident "x"))).exec R =
      (.ok (.num (x0 + dx)), R) :=
    Eval.expr_add (Eval.expr_member hself (ObjKind.ownIsTable_of_ordinary hk) hx)
      (Eval.expr_ident (Env.getVar_here hdx))
  obtain ⟨err, R', hthrow⟩ : ∃ err R', (Eval.expr ops ⟨s, true⟩ none
      (.assign none (.member .thisRef "x") (.binary .add (.member .thisRef "x") (.ident "x")))).exec R =
      (.error (.thrown err), R') := Eval.expr_assign_member_readonly hself hsum_x hk hx
  rw [moveBody]
  exact ⟨err, R', Eval.stmts_cons_error (Eval.stmt_expr_error hthrow)⟩

theorem ctorBody_run {a b vx vy : Value} {ex cx ey cy : Bool}
    (hthis : (R.scope s).this? = some (.obj o)) (hpend : (R.scope s).thisPending = false)
    (ha : (R.scope s).find? "x" = some ⟨a, true, true⟩)
    (hb : (R.scope s).find? "y" = some ⟨b, true, true⟩) (hk : (R.obj o).kind = .ordinary)
    (hx : (R.obj o).props.find? (Key.ofString "x") = some ⟨.data vx true, ex, cx⟩)
    (hy : (R.obj o).props.find? (Key.ofString "y") = some ⟨.data vy true, ey, cy⟩) :
    (Eval.stmts ops ⟨s, true⟩ none ctorBody).exec R =
      (.ok (.normal (some b)), (R.putProp o (Key.ofString "x") ⟨.data a true, ex, cx⟩).putProp
        o (Key.ofString "y") ⟨.data b true, ey, cy⟩) := by
  have hself : (Eval.expr ops ⟨s, true⟩ none .thisRef).exec R = (.ok (.obj o), R) :=
    Eval.expr_thisRef hthis hpend
  rw [ctorBody, Eval.stmts_cons_normal (Eval.stmt_expr
    (Eval.expr_assign_member hself (Eval.expr_ident (Env.getVar_here ha)) hk hx))]
  set R₁ := R.putProp o (Key.ofString "x") ⟨.data a true, ex, cx⟩
  obtain ⟨hk₁, hy₁⟩ := putProp_x_keeps_y hk hy ⟨.data a true, ex, cx⟩
  have hself₁ : (Eval.expr ops ⟨s, true⟩ none .thisRef).exec R₁ = (.ok (.obj o), R₁) :=
    Eval.expr_thisRef hthis hpend
  rw [Eval.stmts_cons_normal (Eval.stmt_expr
    (Eval.expr_assign_member hself₁ (Eval.expr_ident (Env.getVar_here (r := R₁) hb)) hk₁ hy₁)),
    Eval.stmts_nil]
  rfl

theorem plusBody_run {q ctor cs : Nat} {x0 y0 qx qy : Float} {wx ex cx wy ey cy : Bool}
    {wqx eqx cqx wqy eqy cqy : Bool} {v : Value} {R' : Realm}
    (hthis : (R.scope s).this? = some (.obj o)) (hpend : (R.scope s).thisPending = false)
    (hpoint : (R.scope s).find? "point" = some ⟨.obj q, true, true⟩)
    (hlocal : (R.scope s).find? "Point" = none) (hpar : (R.scope s).parent = some cs)
    (hclass : (R.scope cs).find? "Point" = some ⟨.obj ctor, false, true⟩)
    (hk : (R.obj o).kind = .ordinary)
    (hx : (R.obj o).props.find? (Key.ofString "x") = some ⟨.data (.num x0) wx, ex, cx⟩)
    (hy : (R.obj o).props.find? (Key.ofString "y") = some ⟨.data (.num y0) wy, ey, cy⟩)
    (hqk : (R.obj q).kind = .ordinary)
    (hqx : (R.obj q).props.find? (Key.ofString "x") = some ⟨.data (.num qx) wqx, eqx, cqx⟩)
    (hqy : (R.obj q).props.find? (Key.ofString "y") = some ⟨.data (.num qy) wqy, eqy, cqy⟩)
    (hcons : R.isConstructor (.obj ctor) = true)
    (hnew : (ops.construct (.obj ctor) [.num (x0 + qx), .num (y0 + qy)] (.obj ctor)).exec
      { R with site := some ⟨15, 16⟩ } = (.ok v, R')) :
    (Eval.stmts ops ⟨s, true⟩ none plusBody).exec R = (.ok (.ret v), R') := by
  have hself : (Eval.expr ops ⟨s, true⟩ none .thisRef).exec R = (.ok (.obj o), R) :=
    Eval.expr_thisRef hthis hpend
  have harg : (Eval.expr ops ⟨s, true⟩ none (.ident "point")).exec R = (.ok (.obj q), R) :=
    Eval.expr_ident (Env.getVar_here hpoint)
  have hsum_x : (Eval.expr ops ⟨s, true⟩ none
      (.binary .add (.member .thisRef "x") (.member (.ident "point") "x"))).exec R =
      (.ok (.num (x0 + qx)), R) :=
    Eval.expr_add (Eval.expr_member hself (ObjKind.ownIsTable_of_ordinary hk) hx)
      (Eval.expr_member harg (ObjKind.ownIsTable_of_ordinary hqk) hqx)
  have hsum_y : (Eval.expr ops ⟨s, true⟩ none
      (.binary .add (.member .thisRef "y") (.member (.ident "point") "y"))).exec R =
      (.ok (.num (y0 + qy)), R) :=
    Eval.expr_add (Eval.expr_member hself (ObjKind.ownIsTable_of_ordinary hk) hy)
      (Eval.expr_member harg (ObjKind.ownIsTable_of_ordinary hqk) hqy)
  have hclassRef : (Eval.expr ops ⟨s, true⟩ none (.ident "Point")).exec R = (.ok (.obj ctor), R) :=
    Eval.expr_ident (Env.getVar_parent hlocal hpar hclass)
  have hargs : (Eval.items ops ⟨s, true⟩
      [.one (.binary .add (.member .thisRef "x") (.member (.ident "point") "x")),
       .one (.binary .add (.member .thisRef "y") (.member (.ident "point") "y"))]).exec R =
      (.ok [.num (x0 + qx), .num (y0 + qy)], R) :=
    Eval.items_one hsum_x (Eval.items_one hsum_y Eval.items_nil)
  have hconstruct : (Eval.expr ops ⟨s, true⟩ none (.construct (.ident "Point")
      [.one (.binary .add (.member .thisRef "x") (.member (.ident "point") "x")),
       .one (.binary .add (.member .thisRef "y") (.member (.ident "point") "y"))] ⟨15, 16⟩)).exec R =
      (.ok v, R') :=
    (Eval.expr_construct hclassRef hargs hcons).trans hnew
  rw [plusBody]
  exact Eval.stmts_cons_ret (Eval.stmt_ret hconstruct)

end Bodies

section Calls

variable {r : Realm}

theorem ctorFrame_run (pc : PointClass) {t : Nat} {a b vx vy : Value} {ex cx ey cy : Bool} (ops : Ops)
    (nt : Value) (hdepth : r.depth < r.limits.recursion) (hk : (r.obj t).kind = .ordinary)
    (hx : (r.obj t).props.find? (Key.ofString "x") = some ⟨.data vx true, ex, cx⟩)
    (hy : (r.obj t).props.find? (Key.ofString "y") = some ⟨.data vy true, ey, cy⟩) :
    ∃ th r', (Calls.inFrame (Invoke.runFunction ops pc.ctorClosure pc.ctor (some (.obj t)) [a, b] nt)).exec r =
        (.ok (.undefined, th), r') ∧ r.Extends r' (· = t) ∧
      r'.obj t = { r.obj t with
        props := (((r.obj t).props.insert (Key.ofString "x") ⟨.data a true, ex, cx⟩).insert
          (Key.ofString "y") ⟨.data b true, ey, cy⟩) } := by
  have ht : t < r.heap.size := Realm.lt_size_of_find? hx
  obtain ⟨A, hframe, -⟩ := Calls.inFrame_runFunction ops pc.ctorClosure pc.ctor (.obj t) nt [a, b] rfl rfl
    rfl ctorBody_hoists.1 ctorBody_hoists.2.1 ctorBody_hoists.2.2 hdepth
  set S := callScope pc.ctorClosure pc.ctor (.obj t) nt r.heap.size ["x", "y"] [a, b]
  set R₁ := r.enter A S
  have hsc : R₁.scope r.scopes.size = S := Realm.scope_enter_self A S
  have hobj : R₁.obj t = r.obj t := Realm.obj_enter A S ht
  have hargs := callScope_find?_two pc.ctorClosure pc.ctor (.obj t) nt r.heap.size
    (show "x" ≠ "y" by decide) a b
  have hrun := hframe (ctorBody_run (by rw [hsc]; exact callScope_this? ..) (by rw [hsc]; exact callScope_thisPending ..)
    (by rw [hsc]; exact hargs.1)
    (by rw [hsc]; exact hargs.2) (hobj ▸ hk) (hobj ▸ hx) (hobj ▸ hy))
  refine ⟨_, _, hrun, ((((Realm.Extends.enter r A S (· = t)).putProp_of_touched rfl _ _).putProp_of_touched
    rfl _ _).frame), ?_⟩
  rw [Realm.obj_withCounts, Realm.obj_putProp_putProp (by simp [R₁, Realm.enter]; omega), hobj]

variable {pc : PointClass}

theorem construct_run (hpc : pc.Holds r) (hdepth : r.depth < r.limits.recursion) (a b : Float)
    (f : Nat) :
    ∃ r', (Calls.constructAt (f + 1) (.obj pc.ctor) [.num a, .num b] (.obj pc.ctor)).exec r =
        (.ok (.obj r.heap.size), r') ∧ r.Extends r' (· = r.heap.size) ∧ r'.obj r.heap.size = pc.made a b := by
  have hctor := hpc.ctor_kind
  rw [Calls.constructAt_base (Realm.isConstructor_class hctor rfl rfl) hctor rfl f, M.exec_bind,
    Builtins.protoFor_prototype (by rw [hctor]; rfl) hpc.ctor_prototype]
  dsimp only
  set t := r.heap.size
  set r₁ : Realm := { r with heap := r.heap.push { proto := some pc.proto } }
  have hnew : (M.newObject (some pc.proto)).exec r = (.ok t, r₁) := rfl
  have ht : t < r₁.heap.size := by simp [r₁, t]
  have hobj₁ : r₁.obj t = { proto := some pc.proto } := Realm.obj_push_self
  have hfields : pc.ctorClosure.fields =
      [(Key.ofString "x", (0 : Float)), (Key.ofString "y", 0)].map fun p => ⟨p.1, some (.num p.2)⟩ := rfl
  obtain ⟨r₂, hinit, hext₂, hobj₂⟩ := Calls.initFields_numbers (Calls.opsWith f) pc.ctorClosure pc.ctor t
    [(Key.ofString "x", 0), (Key.ofString "y", 0)] (by simp [keys_named])
    (List.pairwise_pair.mpr (Key.ofString_beq_of_ne (by decide))) r₁ hdepth (by rw [hobj₁]) (by rw [hobj₁])
    ht (by simp [hobj₁, Table.find?_empty])
  rw [M.exec_bind, hnew]
  dsimp only
  rw [M.exec_bind, hfields, hinit]
  dsimp only
  have hprops₂ : (r₂.obj t).props = ((({} : Table).insert (Key.ofString "x") (Property.plain (.num 0))).insert
      (Key.ofString "y") (Property.plain (.num 0))) := by
    rw [hobj₂, hobj₁]
    rfl
  obtain ⟨th, r₃, hframe, hext₃, hobj₃⟩ := ctorFrame_run pc (Calls.opsWith f) (.obj pc.ctor)
    (hext₂.depth_eq ▸ hext₂.limits_eq ▸ hdepth) (by rw [hobj₂, hobj₁]) (hprops₂ ▸ coords_find?_x _ _ _)
    (hprops₂ ▸ coords_find?_y _ _ _)
  rw [M.exec_bind, hframe]
  refine ⟨r₃, rfl, ?_, ?_⟩
  · exact (((Realm.Extends.refl r _).alloc _).trans (hext₂.trans hext₃)).mono
      fun i hi h => (h.elim (fun e => absurd hi (by omega)) (fun h' => h'.elim id id))
  · rw [hobj₃, hprops₂, hobj₂, hobj₁]
    rfl

theorem move_call {o : Nat} {x0 y0 : Float} {ex cx ey cy : Bool} (hpc : pc.Holds r)
    (hdepth : r.depth < r.limits.recursion) (hk : (r.obj o).kind = .ordinary)
    (hx : (r.obj o).props.find? (Key.ofString "x") = some ⟨.data (.num x0) true, ex, cx⟩)
    (hy : (r.obj o).props.find? (Key.ofString "y") = some ⟨.data (.num y0) true, ey, cy⟩)
    (dx dy : Float) (f : Nat) :
    ∃ r', (Calls.callAt (f + 1) (.obj pc.move) (.obj o) [.num dx, .num dy]).exec r = (.ok (.obj o), r') ∧
      r.Extends r' (· = o) ∧
      r'.obj o = { r.obj o with
        props := (((r.obj o).props.insert (Key.ofString "x") ⟨.data (.num (x0 + dx)) true, ex, cx⟩).insert
          (Key.ofString "y") ⟨.data (.num (y0 + dy)) true, ey, cy⟩) } := by
  have ho : o < r.heap.size := Realm.lt_size_of_find? hx
  obtain ⟨A, hframe, -⟩ := Calls.inFrame_runFunction (Calls.opsWith f) (pc.method moveFunc) pc.move (.obj o)
    .undefined [.num dx, .num dy] rfl rfl rfl moveBody_hoists.1 moveBody_hoists.2.1 moveBody_hoists.2.2
    hdepth
  set S := callScope (pc.method moveFunc) pc.move (.obj o) .undefined r.heap.size ["x", "y"]
    [.num dx, .num dy]
  set R₁ := r.enter A S
  have hsc : R₁.scope r.scopes.size = S := Realm.scope_enter_self A S
  have hobj : R₁.obj o = r.obj o := Realm.obj_enter A S ho
  have hargs := callScope_find?_two (pc.method moveFunc) pc.move (.obj o) .undefined r.heap.size
    (show "x" ≠ "y" by decide) (.num dx) (.num dy)
  have hrun := hframe (moveBody_run (by rw [hsc]; exact callScope_this? ..) (by rw [hsc]; exact callScope_thisPending ..)
    (by rw [hsc]; exact hargs.1)
    (by rw [hsc]; exact hargs.2) (hobj ▸ hk) (hobj ▸ hx) (hobj ▸ hy))
  rw [Calls.callAt_closure hpc.move_kind rfl f, M.exec_bind, hrun]
  refine ⟨_, rfl, ((((Realm.Extends.enter r A S (· = o)).putProp_of_touched rfl _ _).putProp_of_touched
    rfl _ _).frame), ?_⟩
  rw [Realm.obj_withCounts, Realm.obj_putProp_putProp (by simp [R₁, Realm.enter]; omega), hobj]

theorem move_call_readonly {o : Nat} {x0 : Float} {ex cx : Bool} (hpc : pc.Holds r)
    (hdepth : r.depth < r.limits.recursion) (hk : (r.obj o).kind = .ordinary)
    (hx : (r.obj o).props.find? (Key.ofString "x") = some ⟨.data (.num x0) false, ex, cx⟩)
    (dx dy : Float) (f : Nat) :
    ∃ err r', (Calls.callAt (f + 1) (.obj pc.move) (.obj o) [.num dx, .num dy]).exec r =
      (.error (.thrown err), r') := by
  have ho : o < r.heap.size := Realm.lt_size_of_find? hx
  obtain ⟨A, -, hfail⟩ := Calls.inFrame_runFunction (Calls.opsWith f) (pc.method moveFunc) pc.move
    (.obj o) .undefined [.num dx, .num dy] rfl rfl rfl moveBody_hoists.1 moveBody_hoists.2.1
    moveBody_hoists.2.2 hdepth
  set S := callScope (pc.method moveFunc) pc.move (.obj o) .undefined r.heap.size ["x", "y"]
    [.num dx, .num dy]
  have hsc : (r.enter A S).scope r.scopes.size = S := Realm.scope_enter_self A S
  have hobj : (r.enter A S).obj o = r.obj o := Realm.obj_enter A S ho
  have hargs := callScope_find?_two (pc.method moveFunc) pc.move (.obj o) .undefined r.heap.size
    (show "x" ≠ "y" by decide) (.num dx) (.num dy)
  obtain ⟨err, R', hthrow⟩ : ∃ err R', (Eval.stmts (Calls.opsWith f) ⟨r.scopes.size, true⟩ none
      moveBody).exec (r.enter A S) = (.error (.thrown err), R') :=
    moveBody_readonly (by rw [hsc]; exact callScope_this? ..) (by rw [hsc]; exact callScope_thisPending ..)
      (by rw [hsc]; exact hargs.1) (hobj ▸ hk) (hobj ▸ hx)
  rw [Calls.callAt_closure hpc.move_kind rfl f, M.exec_bind, hfail hthrow]
  exact ⟨err, _, rfl⟩

theorem plus_call {o q : Nat} {x0 y0 qx qy : Float} {wx ex cx wy ey cy wqx eqx cqx wqy eqy cqy : Bool}
    (hpc : pc.Holds r) (hdepth : r.depth + 1 < r.limits.recursion) (hk : (r.obj o).kind = .ordinary)
    (hx : (r.obj o).props.find? (Key.ofString "x") = some ⟨.data (.num x0) wx, ex, cx⟩)
    (hy : (r.obj o).props.find? (Key.ofString "y") = some ⟨.data (.num y0) wy, ey, cy⟩)
    (hqk : (r.obj q).kind = .ordinary)
    (hqx : (r.obj q).props.find? (Key.ofString "x") = some ⟨.data (.num qx) wqx, eqx, cqx⟩)
    (hqy : (r.obj q).props.find? (Key.ofString "y") = some ⟨.data (.num qy) wqy, eqy, cqy⟩) (f : Nat) :
    ∃ t r', (Calls.callAt (f + 2) (.obj pc.plus) (.obj o) [.obj q]).exec r = (.ok (.obj t), r') ∧
      r.heap.size < t ∧ r.Extends r' (fun _ => False) ∧ r'.obj t = pc.made (x0 + qx) (y0 + qy) := by
  have ho : o < r.heap.size := Realm.lt_size_of_find? hx
  have hq : q < r.heap.size := Realm.lt_size_of_find? hqx
  obtain ⟨A, hframe, -⟩ := Calls.inFrame_runFunction (Calls.opsWith (f + 1)) (pc.method plusFunc) pc.plus
    (.obj o) .undefined [.obj q] rfl rfl rfl plusBody_hoists.1 plusBody_hoists.2.1 plusBody_hoists.2.2
    (show r.depth < r.limits.recursion by omega)
  set S := callScope (pc.method plusFunc) pc.plus (.obj o) .undefined r.heap.size ["point"] [.obj q]
  set R₁ := r.enter A S
  have hsc : R₁.scope r.scopes.size = S := Realm.scope_enter_self A S
  have hobj : R₁.obj o = r.obj o := Realm.obj_enter A S ho
  have hobjq : R₁.obj q = r.obj q := Realm.obj_enter A S hq
  have hclass : (R₁.scope pc.scope).find? "Point" = some ⟨.obj pc.ctor, false, true⟩ := by
    rw [Realm.scope_enter A S (Realm.lt_scopes_size_of_find? hpc.scope_binds)]
    exact hpc.scope_binds
  have hargs := callScope_find?_one (n := "point") (m := "Point") (pc.method plusFunc) pc.plus (.obj o)
    .undefined r.heap.size (.obj q)
  have hpc₀ : pc.Holds { r with depth := r.depth + 1, loops := 0 } := hpc.of_same rfl rfl
  have hpc₁ : pc.Holds R₁ := hpc₀.extend (Realm.Extends.enter r A S _)
  have hsite : R₁.Extends { R₁ with site := some ⟨15, 16⟩ } fun _ => False :=
    (Realm.Extends.refl R₁ _).withSite _
  have hsize : R₁.heap.size = r.heap.size + 1 := by simp [R₁, Realm.enter]
  obtain ⟨r₃, hcons, hext₃, hobj₃⟩ := construct_run (hpc₁.extend hsite)
    (show r.depth + 1 < r.limits.recursion from hdepth) (x0 + qx) (y0 + qy) f
  have hrun := hframe (plusBody_run (by rw [hsc]; exact callScope_this? ..) (by rw [hsc]; exact callScope_thisPending ..)
    (by rw [hsc]; exact hargs.1) (by rw [hsc]; exact hargs.2 (by decide) (by decide))
    (by rw [hsc]; exact callScope_parent ..) hclass
    (hobj ▸ hk) (hobj ▸ hx) (hobj ▸ hy) (hobjq ▸ hqk) (hobjq ▸ hqx) (hobjq ▸ hqy)
    (Realm.isConstructor_class hpc₁.ctor_kind rfl rfl) hcons)
  rw [Calls.callAt_closure hpc.plus_kind rfl (f + 1), M.exec_bind, hrun]
  refine ⟨_, _, rfl, by simp [hsize], ?_, hobj₃⟩
  exact ((Realm.Extends.enter r A S _).trans (hsite.trans hext₃)).frame.mono
    fun i hi h => h.elim False.elim (fun h' => h'.elim False.elim (fun e => absurd hi (by simp at e; omega)))

end Calls

end PointClass

theorem Engine.run_call_of {r : Realm} {fv thisV : Value} {args : List Value}
    {res : Except Fault Value} {r' : Realm}
    (h : (Calls.callAt (4 * min r.limits.recursion 1000000 + 4095 + 1) fv thisV args).exec
      { r with depth := 0, loops := 0, site := none } = (res, r')) :
    (⟨r⟩ : Engine).run (Engine.call fv thisV args) = (res, ⟨r'⟩) := by
  rw [Engine.run_eq]
  simp only [Engine.call, Calls.opsWith]
  rw [show Engine.fuel { (⟨r⟩ : Engine).realm with depth := 0, loops := 0, site := none } =
    4 * min r.limits.recursion 1000000 + 4095 + 1 from rfl, h]

end ScriptBridge.Script

namespace ScriptBridge.Host

open ScriptBridge.Script

section PointCalls

variable {pc : PointClass} {h : Host} {t : Handle}

theorem read_method {o : Nat} {m : String} {fn : Nat} (hpc : pc.Holds h.engine.realm)
    (hinst : pc.IsInstance h.engine.realm o)
    (hown : (h.engine.realm.obj o).props.find? (Key.ofString m) = none)
    (hproto : (h.engine.realm.obj pc.proto).props.find? (Key.ofString m) = some (Property.hidden (.obj fn))) :
    h.engine.run (Engine.getProperty o m) =
      (.ok (.obj fn), ⟨{ h.engine.realm with depth := 0, loops := 0, site := none }⟩) := by
  rw [Engine.run_eq]
  simp only [Engine.getProperty]
  rw [Objects.getKey_inherited_data (r := { h.engine.realm with depth := 0, loops := 0, site := none })
    (ObjKind.ownIsTable_of_ordinary hinst.kind) hown hinst.proto
    (ObjKind.ownIsTable_of_ordinary hpc.proto_kind) hproto]

theorem invoke_move {x0 y0 : Float} {ex cx ey cy : Bool} (hpc : pc.Holds h.engine.realm)
    (hinst : pc.IsInstance h.engine.realm t.ref)
    (hx : (h.engine.realm.obj t.ref).props.find? (Key.ofString "x") = some ⟨.data (.num x0) true, ex, cx⟩)
    (hy : (h.engine.realm.obj t.ref).props.find? (Key.ofString "y") = some ⟨.data (.num y0) true, ey, cy⟩)
    (hrec : 0 < h.engine.realm.limits.recursion) (dx dy : Float) :
    ∃ r', Host.exec (invoke t "move" [.number dx, .number dy]) h = (.ok (.object t), { h with engine := ⟨r'⟩ }) ∧
      ({ h.engine.realm with depth := 0, loops := 0, site := none } : Realm).Extends r' (· = t.ref) ∧
      r'.obj t.ref = { h.engine.realm.obj t.ref with
        props := (((h.engine.realm.obj t.ref).props.insert (Key.ofString "x")
          ⟨.data (.num (x0 + dx)) true, ex, cx⟩).insert (Key.ofString "y") ⟨.data (.num (y0 + dy)) true, ey, cy⟩) } := by
  set R₀ : Realm := { h.engine.realm with depth := 0, loops := 0, site := none }
  have hread := read_method hpc hinst hinst.no_move hpc.proto_move
  have hc : (⟨R₀⟩ : Engine).realm.isCallable (.obj pc.move) = true := Realm.isCallable_closure hpc.move_kind
  obtain ⟨r', hcall, hext, hobj⟩ := PointClass.move_call (r := R₀) (hpc.of_same rfl rfl) hrec hinst.kind hx hy
    dx dy (4 * min R₀.limits.recursion 1000000 + 4095)
  refine ⟨r', ?_, hext, hobj⟩
  rw [invoke_call hread hc (.cons rfl (.cons rfl .nil)), Engine.run_call_of (r := R₀) hcall]
  rfl

theorem invoke_move_readonly {x0 : Float} {ex cx : Bool} (hpc : pc.Holds h.engine.realm)
    (hinst : pc.IsInstance h.engine.realm t.ref)
    (hx : (h.engine.realm.obj t.ref).props.find? (Key.ofString "x") = some ⟨.data (.num x0) false, ex, cx⟩)
    (hrec : 0 < h.engine.realm.limits.recursion) (dx dy : Float) :
    ∃ msg h', Host.exec (invoke t "move" [.number dx, .number dy]) h = (.error (.execution msg), h') := by
  set R₀ : Realm := { h.engine.realm with depth := 0, loops := 0, site := none }
  have hread := read_method hpc hinst hinst.no_move hpc.proto_move
  have hc : (⟨R₀⟩ : Engine).realm.isCallable (.obj pc.move) = true := Realm.isCallable_closure hpc.move_kind
  obtain ⟨err, r', hcall⟩ := PointClass.move_call_readonly (r := R₀) (hpc.of_same rfl rfl) hrec hinst.kind
    hx dx dy (4 * min R₀.limits.recursion 1000000 + 4095)
  rw [invoke_call hread hc (.cons rfl (.cons rfl .nil)), Engine.run_call_of (r := R₀) hcall]
  exact ⟨_, _, rfl⟩

theorem invoke_plus {s : Handle} {x0 y0 qx qy : Float}
    {wx ex cx wy ey cy wqx eqx cqx wqy eqy cqy : Bool}
    (hpc : pc.Holds h.engine.realm) (hinst : pc.IsInstance h.engine.realm t.ref)
    (hx : (h.engine.realm.obj t.ref).props.find? (Key.ofString "x") = some ⟨.data (.num x0) wx, ex, cx⟩)
    (hy : (h.engine.realm.obj t.ref).props.find? (Key.ofString "y") = some ⟨.data (.num y0) wy, ey, cy⟩)
    (hqk : (h.engine.realm.obj s.ref).kind = .ordinary)
    (hqx : (h.engine.realm.obj s.ref).props.find? (Key.ofString "x") = some ⟨.data (.num qx) wqx, eqx, cqx⟩)
    (hqy : (h.engine.realm.obj s.ref).props.find? (Key.ofString "y") = some ⟨.data (.num qy) wqy, eqy, cqy⟩)
    (hrec : 1 < h.engine.realm.limits.recursion) :
    ∃ n r', Host.exec (invoke t "plus" [.object s]) h = (.ok (.object ⟨n⟩), { h with engine := ⟨r'⟩ }) ∧
      h.engine.realm.heap.size < n ∧
      ({ h.engine.realm with depth := 0, loops := 0, site := none } : Realm).Extends r' (fun _ => False) ∧
      r'.obj n = pc.made (x0 + qx) (y0 + qy) := by
  set R₀ : Realm := { h.engine.realm with depth := 0, loops := 0, site := none }
  have hread := read_method hpc hinst hinst.no_plus hpc.proto_plus
  have hc : (⟨R₀⟩ : Engine).realm.isCallable (.obj pc.plus) = true := Realm.isCallable_closure hpc.plus_kind
  obtain ⟨n, r', hcall, hn, hext, hobj⟩ := PointClass.plus_call (r := R₀) (hpc.of_same rfl rfl) hrec
    hinst.kind hx hy hqk hqx hqy (4 * min R₀.limits.recursion 1000000 + 4094)
  refine ⟨n, r', ?_, hn, hext, hobj⟩
  rw [invoke_call hread hc (.cons rfl .nil), Engine.run_call_of (r := R₀) hcall]
  rfl

end PointCalls

end ScriptBridge.Host

namespace ScriptBridge.Wrapper

open ScriptBridge.Host ScriptBridge.Script

def World.withRealm (w : World) (r : Realm) : World := { w with host := { w.host with engine := ⟨r⟩ } }

theorem coordinate_own (p : Wrapper) (w : World) (name : String) {v : Float} {wr e c : Bool}
    (hk : (w.host.engine.realm.obj p.source.ref).kind = .ordinary)
    (hp : (w.host.engine.realm.obj p.source.ref).props.find? (Key.ofString name) =
      some ⟨.data (.num v) wr, e, c⟩) :
    (do Op.lift (← Op.host (Host.getProperty p.source name)).asF64 : Op Float).exec w =
      (.ok v, w.withRealm { w.host.engine.realm with depth := 0, loops := 0, site := none }) := by
  rw [Op.exec_bind, Op.exec_host, getProperty_own w.host hk hp]
  rfl

section Bundled

variable {pc : PointClass} {w : World} {p : Wrapper}

theorem Point.moveBy_bundled {x0 y0 : Float} {ex cx ey cy : Bool} (hpc : pc.Holds w.host.engine.realm)
    (hp : pc.IsInstance w.host.engine.realm p.source.ref)
    (hx : (w.host.engine.realm.obj p.source.ref).props.find? (Key.ofString "x") =
      some ⟨.data (.num x0) true, ex, cx⟩)
    (hy : (w.host.engine.realm.obj p.source.ref).props.find? (Key.ofString "y") =
      some ⟨.data (.num y0) true, ey, cy⟩)
    (hrec : 0 < w.host.engine.realm.limits.recursion) (dx dy : Float) :
    ∃ r', (Point.moveBy p dx dy).exec w = (.ok p, w.withRealm r') ∧
      ({ w.host.engine.realm with depth := 0, loops := 0, site := none } : Realm).Extends r'
        (· = p.source.ref) ∧
      r'.obj p.source.ref = { w.host.engine.realm.obj p.source.ref with
        props := (((w.host.engine.realm.obj p.source.ref).props.insert (Key.ofString "x")
          ⟨.data (.num (x0 + dx)) true, ex, cx⟩).insert (Key.ofString "y") ⟨.data (.num (y0 + dy)) true, ey, cy⟩) } := by
  obtain ⟨r', hinv, hext, hobj⟩ := invoke_move hpc hp hx hy hrec dx dy
  refine ⟨r', ?_, hext, hobj⟩
  rw [Point.moveBy, Op.exec_bind, Op.exec_host, hinv]
  dsimp only
  rw [adapt_run]
  simp [Handle.sameObject, World.withRealm]

theorem Point.moveBy_readonly {x0 : Float} {ex cx : Bool} (hpc : pc.Holds w.host.engine.realm)
    (hp : pc.IsInstance w.host.engine.realm p.source.ref)
    (hx : (w.host.engine.realm.obj p.source.ref).props.find? (Key.ofString "x") =
      some ⟨.data (.num x0) false, ex, cx⟩)
    (hrec : 0 < w.host.engine.realm.limits.recursion) (dx dy : Float) :
    ∃ msg w', (Point.moveBy p dx dy).exec w = (.error (.execution msg), w') ∧ w'.made = w.made := by
  obtain ⟨msg, h', hinv⟩ := invoke_move_readonly hpc hp hx hrec dx dy
  rw [Point.moveBy, Op.exec_bind, Op.exec_host, hinv]
  exact ⟨msg, _, rfl, rfl⟩

theorem Point.moveBy_wrapping {x0 y0 : Float} {ex cx ey cy : Bool} (hpc : pc.Holds w.host.engine.realm)
    (hp : pc.IsInstance w.host.engine.realm p.source.ref)
    (hx : (w.host.engine.realm.obj p.source.ref).props.find? (Key.ofString "x") =
      some ⟨.data (.num x0) true, ex, cx⟩)
    (hy : (w.host.engine.realm.obj p.source.ref).props.find? (Key.ofString "y") =
      some ⟨.data (.num y0) true, ey, cy⟩)
    (hrec : 0 < w.host.engine.realm.limits.recursion) (dx dy : Float) :
    ∃ r', (do wrap (← Op.host (Host.invoke p.source "move" [.number dx, .number dy])) : Op Wrapper).exec w =
      (.ok ⟨w.made, p.source⟩, { w.withRealm r' with made := w.made + 1 }) := by
  obtain ⟨r', hinv, -, -⟩ := invoke_move hpc hp hx hy hrec dx dy
  refine ⟨r', ?_⟩
  rw [Op.exec_bind, Op.exec_host, hinv]
  dsimp only
  rw [wrap_run]
  rfl

theorem Point.plus_bundled {q : Wrapper} {x0 y0 qx qy : Float}
    {wx ex cx wy ey cy wqx eqx cqx wqy eqy cqy : Bool} (hpc : pc.Holds w.host.engine.realm)
    (hp : pc.IsInstance w.host.engine.realm p.source.ref)
    (hx : (w.host.engine.realm.obj p.source.ref).props.find? (Key.ofString "x") =
      some ⟨.data (.num x0) wx, ex, cx⟩)
    (hy : (w.host.engine.realm.obj p.source.ref).props.find? (Key.ofString "y") =
      some ⟨.data (.num y0) wy, ey, cy⟩)
    (hqk : (w.host.engine.realm.obj q.source.ref).kind = .ordinary)
    (hqx : (w.host.engine.realm.obj q.source.ref).props.find? (Key.ofString "x") =
      some ⟨.data (.num qx) wqx, eqx, cqx⟩)
    (hqy : (w.host.engine.realm.obj q.source.ref).props.find? (Key.ofString "y") =
      some ⟨.data (.num qy) wqy, eqy, cqy⟩)
    (hrec : 1 < w.host.engine.realm.limits.recursion) :
    ∃ n r', (Point.plus p q).exec w = (.ok ⟨w.made, ⟨n⟩⟩, { w.withRealm r' with made := w.made + 1 }) ∧
      w.host.engine.realm.heap.size < n ∧
      ({ w.host.engine.realm with depth := 0, loops := 0, site := none } : Realm).Extends r'
        (fun _ => False) ∧
      r'.obj n = pc.made (x0 + qx) (y0 + qy) := by
  obtain ⟨n, r', hinv, hn, hext, hobj⟩ := invoke_plus hpc hp hx hy hqk hqx hqy hrec
  refine ⟨n, r', ?_, hn, hext, hobj⟩
  have hne : n ≠ p.source.ref := by
    have := Realm.lt_size_of_find? hx
    omega
  rw [Point.plus, Op.exec_bind, Op.exec_host, Wrapper.toForeign, hinv]
  dsimp only
  rw [adapt_run]
  simp [Handle.sameObject, hne, World.withRealm]

/-- The point operations against the bundled `Point` class. On a point whose object is an instance
of the class with number coordinates `x0` and `y0`: when those are writable, `move_by` hands back
the same wrapper, the object now has `x0 + dx` and `y0 + dy`, and no other old object changed;
`plus` with any wrapper of an object with number coordinates hands out a new wrapper of a new
`Point` holding the sums, and no old object changed, so both operands read as before (even when
they are one object). When `x` is read-only, as on a frozen point, `move_by` fails with the
script's error instead. An implementor that wraps instead of adapting gets from `move_by` a new
wrapper of the point's own object. -/
theorem bundled_point_move_and_plus {pc : PointClass} {w : World} {p : Wrapper} {x0 y0 : Float}
    {wx ex cx wy ey cy : Bool} (hpc : pc.Holds w.host.engine.realm)
    (hp : pc.IsInstance w.host.engine.realm p.source.ref) (hexist : w.Existing p)
    (hx : (w.host.engine.realm.obj p.source.ref).props.find? (Key.ofString "x") =
      some ⟨.data (.num x0) wx, ex, cx⟩)
    (hy : (w.host.engine.realm.obj p.source.ref).props.find? (Key.ofString "y") =
      some ⟨.data (.num y0) wy, ey, cy⟩)
    (hrec : 1 < w.host.engine.realm.limits.recursion) :
    (wx = true → wy = true → ∀ dx dy : Float, ∃ w',
      (Point.moveBy p dx dy).exec w = (.ok p, w') ∧ w'.made = w.made ∧
      (∃ w'', (Point.x p).exec w' = (.ok (x0 + dx), w'')) ∧
      (∃ w'', (Point.y p).exec w' = (.ok (y0 + dy), w'')) ∧
      ∀ i < w.host.engine.realm.heap.size, i ≠ p.source.ref →
        w'.host.engine.realm.obj i = w.host.engine.realm.obj i) ∧
    (∀ (q : Wrapper) (qx qy : Float) (wqx eqx cqx wqy eqy cqy : Bool),
      (w.host.engine.realm.obj q.source.ref).kind = .ordinary →
      (w.host.engine.realm.obj q.source.ref).props.find? (Key.ofString "x") =
        some ⟨.data (.num qx) wqx, eqx, cqx⟩ →
      (w.host.engine.realm.obj q.source.ref).props.find? (Key.ofString "y") =
        some ⟨.data (.num qy) wqy, eqy, cqy⟩ →
      ∃ r w', (Point.plus p q).exec w = (.ok r, w') ∧ r.same p = false ∧ r.serial = w.made ∧
        w'.made = w.made + 1 ∧ r.source ≠ p.source ∧ r.source ≠ q.source ∧
        pc.IsInstance w'.host.engine.realm r.source.ref ∧
        (∃ w'', (Point.x r).exec w' = (.ok (x0 + qx), w'')) ∧
        (∃ w'', (Point.y r).exec w' = (.ok (y0 + qy), w'')) ∧
        (∃ w'', (Point.x p).exec w' = (.ok x0, w'')) ∧ (∃ w'', (Point.y p).exec w' = (.ok y0, w'')) ∧
        (∃ w'', (Point.x q).exec w' = (.ok qx, w'')) ∧ (∃ w'', (Point.y q).exec w' = (.ok qy, w'')) ∧
        ∀ i < w.host.engine.realm.heap.size, w'.host.engine.realm.obj i = w.host.engine.realm.obj i) ∧
    (wx = false → ∀ dx dy : Float, ∃ msg w',
      (Point.moveBy p dx dy).exec w = (.error (.execution msg), w') ∧ w'.made = w.made) ∧
    (wx = true → wy = true → ∀ dx dy : Float, ∃ w',
      (do wrap (← Op.host (Host.invoke p.source "move" [.number dx, .number dy])) : Op Wrapper).exec w =
        (.ok ⟨w.made, p.source⟩, w') ∧ w'.made = w.made + 1) := by
  have ho : p.source.ref < w.host.engine.realm.heap.size := Realm.lt_size_of_find? hx
  refine ⟨fun hwx hwy dx dy => ?_, fun q qx qy wqx eqx cqx wqy eqy cqy hqk hqx hqy => ?_,
    fun hwx dx dy => ?_, fun hwx hwy dx dy => ?_⟩
  · subst hwx hwy
    obtain ⟨r', hrun, hext, hobj⟩ := Point.moveBy_bundled hpc hp hx hy (by omega) dx dy
    have hk' : (r'.obj p.source.ref).kind = .ordinary := by rw [hobj]; exact hp.kind
    have hx' : (r'.obj p.source.ref).props.find? (Key.ofString "x") =
        some ⟨.data (.num (x0 + dx)) true, ex, cx⟩ := by
      rw [hobj]
      exact PointClass.coords_find?_x _ _ _
    have hy' : (r'.obj p.source.ref).props.find? (Key.ofString "y") =
        some ⟨.data (.num (y0 + dy)) true, ey, cy⟩ := by
      rw [hobj]
      exact PointClass.coords_find?_y _ _ _
    exact ⟨_, hrun, rfl, ⟨_, coordinate_own p (w.withRealm r') "x" hk' hx'⟩,
      ⟨_, coordinate_own p (w.withRealm r') "y" hk' hy'⟩, fun i hi hne => hext.obj_eq i hi hne⟩
  · obtain ⟨n, r', hrun, hn, hext, hobj⟩ := Point.plus_bundled hpc hp hx hy hqk hqx hqy hrec
    have hq : q.source.ref < w.host.engine.realm.heap.size := Realm.lt_size_of_find? hqx
    have hold : ∀ i < w.host.engine.realm.heap.size, r'.obj i = w.host.engine.realm.obj i :=
      fun i hi => hext.obj_eq i hi not_false
    have hinst := PointClass.made_isInstance hobj
    have hnx : (r'.obj n).props.find? (Key.ofString "x") = some (Property.plain (.num (x0 + qx))) := by
      rw [hobj]
      exact PointClass.madeProps_x _ _
    have hny : (r'.obj n).props.find? (Key.ofString "y") = some (Property.plain (.num (y0 + qy))) := by
      rw [hobj]
      exact PointClass.madeProps_y _ _
    have hnp : n ≠ p.source.ref := by omega
    have hnq : n ≠ q.source.ref := by omega
    refine ⟨⟨w.made, ⟨n⟩⟩, _, hrun, ?_, rfl, rfl, fun e => hnp (congrArg Handle.ref e),
      fun e => hnq (congrArg Handle.ref e), hinst,
      ⟨_, coordinate_own ⟨w.made, ⟨n⟩⟩ _ "x" hinst.kind hnx⟩,
      ⟨_, coordinate_own ⟨w.made, ⟨n⟩⟩ _ "y" hinst.kind hny⟩,
      ⟨_, coordinate_own p _ "x" (hold _ ho ▸ hp.kind) (hold _ ho ▸ hx)⟩,
      ⟨_, coordinate_own p _ "y" (hold _ ho ▸ hp.kind) (hold _ ho ▸ hy)⟩,
      ⟨_, coordinate_own q _ "x" (hold _ hq ▸ hqk) (hold _ hq ▸ hqx)⟩,
      ⟨_, coordinate_own q _ "y" (hold _ hq ▸ hqk) (hold _ hq ▸ hqy)⟩, hold⟩
    simp only [Wrapper.same, beq_eq_false_iff_ne]
    exact Nat.ne_of_gt hexist
  · subst hwx
    exact Point.moveBy_readonly hpc hp hx (by omega) dx dy
  · subst hwx hwy
    obtain ⟨r', hrun⟩ := Point.moveBy_wrapping hpc hp hx hy (by omega) dx dy
    exact ⟨_, hrun, rfl⟩

end Bundled

end ScriptBridge.Wrapper

namespace ScriptBridge.Script.PointClass

def sample : PointClass := ⟨0, 1, 0, 2, 3⟩

def sampleRealm (pt : Obj) : Realm where
  heap := #[{ proto := none, kind := .closure sample.ctorClosure,
              props := ({} : Table).insert (Key.ofString "prototype") (Property.fixed (.obj 1)) },
            { proto := none,
              props := (({} : Table).insert (Key.ofString "plus") (Property.hidden (.obj 2))).insert
                (Key.ofString "move") (Property.hidden (.obj 3)) },
            { proto := none, kind := .closure (sample.method plusFunc) },
            { proto := none, kind := .closure (sample.method moveFunc) },
            pt]
  scopes := #[{ names := #[("Point", ⟨.obj 0, false, true⟩)] }]

theorem sample_holds (pt : Obj) : sample.Holds (sampleRealm pt) where
  ctor_kind := rfl
  ctor_prototype :=
    show (({} : Table).insert (Key.ofString "prototype") (Property.fixed (.obj 1))).find? _ = _ from
      Table.find?_insert_self _ _ _
  proto_kind := rfl
  proto_plus := show ((({} : Table).insert _ _).insert (Key.ofString "move") _).find? _ = _ from
    (Table.find?_insert_ne _ _ keys_named.2.2.2 keys_named.2.2.1 (Key.ofString_beq_of_ne (by decide))).trans
      (Table.find?_insert_self _ _ _)
  proto_move := show ((({} : Table).insert _ _).insert (Key.ofString "move") _).find? _ = _ from
    Table.find?_insert_self _ _ _
  plus_kind := rfl
  move_kind := rfl
  scope_binds := rfl

def frozenPoint : Obj :=
  { sample.made 1 2 with
    extensible := false
    props := ((madeProps 1 2).insert (Key.ofString "x") ⟨.data (.num 1) false, true, false⟩).insert
      (Key.ofString "y") ⟨.data (.num 2) false, true, false⟩ }

end ScriptBridge.Script.PointClass

namespace ScriptBridge.Wrapper

open ScriptBridge.Host ScriptBridge.Script

def sampleWorld (pt : Obj) : World :=
  { host := { (default : Host) with engine := ⟨PointClass.sampleRealm pt⟩ }, made := 1 }

def sampleWrapper : Wrapper := ⟨0, ⟨4⟩⟩

theorem bundled_point_move_and_plus_sample :
    PointClass.sample.Holds (sampleWorld (PointClass.sample.made 1 2)).host.engine.realm ∧
    PointClass.sample.IsInstance (sampleWorld (PointClass.sample.made 1 2)).host.engine.realm 4 ∧
    (sampleWorld (PointClass.sample.made 1 2)).Existing sampleWrapper ∧
    ((sampleWorld (PointClass.sample.made 1 2)).host.engine.realm.obj 4).props.find? (Key.ofString "x") =
      some ⟨.data (.num 1) true, true, true⟩ ∧
    ((sampleWorld (PointClass.sample.made 1 2)).host.engine.realm.obj 4).props.find? (Key.ofString "y") =
      some ⟨.data (.num 2) true, true, true⟩ ∧
    1 < (sampleWorld (PointClass.sample.made 1 2)).host.engine.realm.limits.recursion ∧
    (true = true → true = true → ∀ dx dy : Float, ∃ w',
      (Point.moveBy sampleWrapper dx dy).exec (sampleWorld (PointClass.sample.made 1 2)) =
        (.ok sampleWrapper, w') ∧ w'.made = 1 ∧
      (∃ w'', (Point.x sampleWrapper).exec w' = (.ok (1 + dx), w'')) ∧
      (∃ w'', (Point.y sampleWrapper).exec w' = (.ok (2 + dy), w'')) ∧
      ∀ i < 5, i ≠ 4 → w'.host.engine.realm.obj i =
        (sampleWorld (PointClass.sample.made 1 2)).host.engine.realm.obj i) ∧
    (∀ (q : Wrapper) (qx qy : Float) (wqx eqx cqx wqy eqy cqy : Bool),
      ((sampleWorld (PointClass.sample.made 1 2)).host.engine.realm.obj q.source.ref).kind = .ordinary →
      ((sampleWorld (PointClass.sample.made 1 2)).host.engine.realm.obj q.source.ref).props.find?
        (Key.ofString "x") = some ⟨.data (.num qx) wqx, eqx, cqx⟩ →
      ((sampleWorld (PointClass.sample.made 1 2)).host.engine.realm.obj q.source.ref).props.find?
        (Key.ofString "y") = some ⟨.data (.num qy) wqy, eqy, cqy⟩ →
      ∃ r w', (Point.plus sampleWrapper q).exec (sampleWorld (PointClass.sample.made 1 2)) = (.ok r, w') ∧
        r.same sampleWrapper = false ∧ r.serial = 1 ∧ w'.made = 1 + 1 ∧ r.source ≠ sampleWrapper.source ∧
        r.source ≠ q.source ∧ PointClass.sample.IsInstance w'.host.engine.realm r.source.ref ∧
        (∃ w'', (Point.x r).exec w' = (.ok (1 + qx), w'')) ∧
        (∃ w'', (Point.y r).exec w' = (.ok (2 + qy), w'')) ∧
        (∃ w'', (Point.x sampleWrapper).exec w' = (.ok 1, w'')) ∧
        (∃ w'', (Point.y sampleWrapper).exec w' = (.ok 2, w'')) ∧
        (∃ w'', (Point.x q).exec w' = (.ok qx, w'')) ∧ (∃ w'', (Point.y q).exec w' = (.ok qy, w'')) ∧
        ∀ i < 5, w'.host.engine.realm.obj i = (sampleWorld (PointClass.sample.made 1 2)).host.engine.realm.obj i) ∧
    (true = false → ∀ dx dy : Float, ∃ msg w',
      (Point.moveBy sampleWrapper dx dy).exec (sampleWorld (PointClass.sample.made 1 2)) =
        (.error (.execution msg), w') ∧ w'.made = 1) ∧
    (true = true → true = true → ∀ dx dy : Float, ∃ w',
      (do wrap (← Op.host (Host.invoke sampleWrapper.source "move" [.number dx, .number dy])) : Op Wrapper).exec
        (sampleWorld (PointClass.sample.made 1 2)) = (.ok ⟨1, sampleWrapper.source⟩, w') ∧ w'.made = 1 + 1) := by
  have hpc := PointClass.sample_holds (PointClass.sample.made 1 2)
  have hobj : (PointClass.sampleRealm (PointClass.sample.made 1 2)).obj 4 = PointClass.sample.made 1 2 := rfl
  have hp := PointClass.made_isInstance hobj
  have hx : ((PointClass.sampleRealm (PointClass.sample.made 1 2)).obj 4).props.find? (Key.ofString "x") =
      some ⟨.data (.num 1) true, true, true⟩ := by
    rw [hobj]
    exact PointClass.madeProps_x 1 2
  have hy : ((PointClass.sampleRealm (PointClass.sample.made 1 2)).obj 4).props.find? (Key.ofString "y") =
      some ⟨.data (.num 2) true, true, true⟩ := by
    rw [hobj]
    exact PointClass.madeProps_y 1 2
  have hexist : (sampleWorld (PointClass.sample.made 1 2)).Existing sampleWrapper := Nat.zero_lt_one
  have hrec : 1 < (sampleWorld (PointClass.sample.made 1 2)).host.engine.realm.limits.recursion := by decide
  exact ⟨hpc, hp, hexist, hx, hy, hrec,
    bundled_point_move_and_plus (w := sampleWorld (PointClass.sample.made 1 2)) (p := sampleWrapper)
      hpc hp hexist hx hy hrec⟩

/-- A frozen point of the bundled class: an instance whose coordinates are the numbers 1 and 2,
with the class's own `move`, on which `move_by` does not hand the point back but fails, because
the script's `move` assigns to a read-only `x` in strict code. -/
theorem frozen_point_move_by_fails :
    PointClass.sample.Holds (sampleWorld PointClass.frozenPoint).host.engine.realm ∧
    PointClass.sample.IsInstance (sampleWorld PointClass.frozenPoint).host.engine.realm 4 ∧
    ((sampleWorld PointClass.frozenPoint).host.engine.realm.obj 4).props.find? (Key.ofString "x") =
      some ⟨.data (.num 1) false, true, false⟩ ∧
    ((sampleWorld PointClass.frozenPoint).host.engine.realm.obj 4).props.find? (Key.ofString "y") =
      some ⟨.data (.num 2) false, true, false⟩ ∧
    ∃ msg w', (Point.moveBy sampleWrapper 1 1).exec (sampleWorld PointClass.frozenPoint) =
      (.error (.execution msg), w') := by
  have hpc := PointClass.sample_holds PointClass.frozenPoint
  have hprops : ((PointClass.sampleRealm PointClass.frozenPoint).obj 4).props =
      ((PointClass.madeProps 1 2).insert (Key.ofString "x") ⟨.data (.num 1) false, true, false⟩).insert
        (Key.ofString "y") ⟨.data (.num 2) false, true, false⟩ := rfl
  have hother : ∀ k : Key, k.index? = none → (Key.ofString "x" == k) = false →
      (Key.ofString "y" == k) = false →
      ((PointClass.sampleRealm PointClass.frozenPoint).obj 4).props.find? k = none := fun k hk hxk hyk => by
    rw [hprops, PointClass.coords_find?_other _ _ _ hk hxk hyk]
    exact PointClass.madeProps_other hk hxk hyk 1 2
  have hp : PointClass.sample.IsInstance (PointClass.sampleRealm PointClass.frozenPoint) 4 :=
    ⟨rfl, rfl,
      hother _ PointClass.keys_named.2.2.1 (Key.ofString_beq_of_ne (by decide)) (Key.ofString_beq_of_ne (by decide)),
      hother _ PointClass.keys_named.2.2.2 (Key.ofString_beq_of_ne (by decide)) (Key.ofString_beq_of_ne (by decide))⟩
  have hx := hprops ▸ PointClass.coords_find?_x _ _ _
  have hy := hprops ▸ PointClass.coords_find?_y _ _ _
  obtain ⟨msg, w', hrun, -⟩ := Point.moveBy_readonly (w := sampleWorld PointClass.frozenPoint)
    (p := sampleWrapper) hpc hp hx (by decide) 1 1
  exact ⟨hpc, hp, hx, hy, msg, w', hrun⟩

end ScriptBridge.Wrapper
