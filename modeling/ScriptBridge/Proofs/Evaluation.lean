import ScriptBridge.Proofs.Steps

/-!
# Evaluating number expressions, declarations and built-in calls

Step lemmas for the pieces of a method body that reads numbers and decides: arithmetic and
comparisons of two numbers, `&&` of two booleans, `let` declarations, names found on the global
object after every scope missed them, and calls of built-in functions read off an object. A call
of a function whose body declares `let` names starts with those names bound but not ready; each
`let` statement then gives its name the value of its initializer.

As in the plain step lemmas, each lemma runs one piece from a realm and gives its outcome and the
realm it leaves; expressions that only read leave the realm as it was, and a call records its
place before the callee runs.
-/

namespace ScriptBridge.Script

variable {α : Type}

namespace Scope

def declareAll (lex : List (String × Bool)) (s : Scope) : Scope :=
  lex.foldl (fun s p => s.bind p.1 ⟨.undefined, p.2, false⟩) s

@[simp] theorem declareAll_nil (s : Scope) : declareAll [] s = s := rfl

@[simp] theorem declareAll_cons (p : String × Bool) (lex : List (String × Bool)) (s : Scope) :
    declareAll (p :: lex) s = declareAll lex (s.bind p.1 ⟨.undefined, p.2, false⟩) := rfl

theorem declareAll_frame (lex : List (String × Bool)) (s : Scope) :
    (declareAll lex s).this? = s.this? ∧ (declareAll lex s).thisPending = s.thisPending ∧
      (declareAll lex s).parent = s.parent := by
  induction lex generalizing s with
  | nil => exact ⟨rfl, rfl, rfl⟩
  | cons p lex ih =>
    obtain ⟨h₁, h₂, h₃⟩ := ih (s.bind p.1 ⟨.undefined, p.2, false⟩)
    exact ⟨h₁.trans (this?_bind _ _ _), h₂.trans (thisPending_bind _ _ _), h₃.trans (parent_bind _ _ _)⟩

theorem find?_declareAll_of_not_mem {lex : List (String × Bool)} {n : String}
    (hn : ∀ p ∈ lex, p.1 ≠ n) (s : Scope) : (declareAll lex s).find? n = s.find? n := by
  induction lex generalizing s with
  | nil => rfl
  | cons p lex ih =>
    rw [declareAll_cons, ih (fun q hq => hn q (List.mem_cons_of_mem _ hq)),
      find?_bind_ne _ _ (hn p List.mem_cons_self)]

theorem find?_declareAll_of_mem {lex : List (String × Bool)} {n : String} {m : Bool}
    (hnd : (lex.map Prod.fst).Nodup) (hmem : (n, m) ∈ lex) (s : Scope) :
    (declareAll lex s).find? n = some ⟨.undefined, m, false⟩ := by
  induction lex generalizing s with
  | nil => simp at hmem
  | cons p lex ih =>
    rw [List.map_cons, List.nodup_cons] at hnd
    rw [declareAll_cons]
    rcases List.mem_cons.1 hmem with rfl | hrest
    · rw [find?_declareAll_of_not_mem (fun q hq he => hnd.1 (List.mem_map.2 ⟨q, hq, he⟩)),
        find?_bind_self]
    · exact ih hnd.2 hrest _

end Scope

namespace M

theorem exec_forIn_yield {l : List α} {b : α → PUnit → M (ForInStep PUnit)} {g : Realm → α → Realm}
    (hb : ∀ a r, (b a ⟨⟩).exec r = (.ok (.yield ⟨⟩), g r a)) (r : Realm) :
    (forIn l ⟨⟩ b).exec r = (.ok ⟨⟩, l.foldl g r) := by
  induction l generalizing r with
  | nil => rfl
  | cons a l ih =>
    rw [List.forIn_cons, exec_bind, hb]
    exact ih _

end M

theorem foldl_modifyScope_push (l : List (String × Bool)) (r : Realm) (S : Scope) :
    l.foldl (fun R p => R.modifyScope r.scopes.size (·.bind p.1 ⟨.undefined, p.2, false⟩))
        { r with scopes := r.scopes.push S } =
      { r with scopes := r.scopes.push (S.declareAll l) } := by
  induction l generalizing S with
  | nil => rfl
  | cons p l ih =>
    rw [List.foldl_cons, Scope.declareAll_cons, ← ih]
    simp only [Realm.modifyScope, Array.modify_push_size]

theorem Realm.scope_modifyScope_self {r : Realm} {i : Nat} (f : Scope → Scope) (hi : i < r.scopes.size) :
    (r.modifyScope i f).scope i = f (r.scope i) := by
  simp only [Realm.scope, Realm.modifyScope]
  rw [getElem!_pos _ i (by simpa using hi), getElem!_pos _ i hi, Array.getElem_modify_self]

@[simp] theorem Realm.obj_modifyScope {r : Realm} {i j : Nat} (f : Scope → Scope) :
    (r.modifyScope i f).obj j = r.obj j := rfl

namespace Invoke

theorem runFunction_exec_lexicals (ops : Ops) (c : Closure) (callee : Nat) (thisV newTarget : Value)
    {args : List Value} {name : Option String} {ns : List String} {body : List Stmt} {kind : FunKind}
    (hf : c.func = .mk name (ns.map Param.plain) body kind true) (hlex : c.thisLexical = false)
    (hlen : args.length = ns.length) (hvars : Hoist.varNamesList body = [])
    (hfuns : Hoist.functions body = []) (r : Realm) :
    ∃ A : Obj, (runFunction ops c callee (some thisV) args newTarget).exec r =
      match (Eval.stmts ops ⟨r.scopes.size, true⟩ none body).exec
          { r with heap := r.heap.push A,
                   scopes := r.scopes.push ((callScope c callee thisV newTarget r.heap.size ns
                     args).declareAll (Hoist.lexicals body)) } with
      | (.ok cmp, r') => (.ok (cmp.returned, (r'.scope r.scopes.size).this?), r')
      | (.error e, r') => (.error e, r') := by
  obtain ⟨A, hA⟩ := argumentsObject_exec args
  refine ⟨A, ?_⟩
  simp only [runFunction, hf, hlex, Func.strict, Func.params, Func.body, hvars, hfuns,
    Bool.false_eq_true, if_false, Bool.not_false, if_true, Option.isNone_some, Bool.and_false,
    Hoist.dedup, List.foldl_nil, List.forIn_nil, M.exec_bind, M.exec_pure, M.exec_modifyGet,
    Realm.newScope, hA, Env.declare, M.exec_modify, Realm.modifyScope, Array.modify_push_size]
  rw [bindParams_plain ops _ ns args r.scopes rfl hlen _ _ rfl]
  dsimp only
  rw [M.exec_forIn_yield (g := fun R p => R.modifyScope r.scopes.size
    (·.bind p.1 ⟨.undefined, p.2, false⟩)) (fun _ _ => rfl), foldl_modifyScope_push _ { r with heap := r.heap.push A }]
  simp only [callScope]
  split
  · rename_i cmp r' hrun
    rw [hrun]
    cases cmp <;> rfl
  · rename_i e r' hrun
    rw [hrun]

end Invoke

namespace Calls

variable {r : Realm}

theorem inFrame_runFunction_lexicals (ops : Ops) (c : Closure) (callee : Nat) (thisV newTarget : Value)
    (args : List Value) {name : Option String} {ns : List String} {body : List Stmt} {kind : FunKind}
    (hf : c.func = .mk name (ns.map Param.plain) body kind true) (hlex : c.thisLexical = false)
    (hlen : args.length = ns.length) (hvars : Hoist.varNamesList body = [])
    (hfuns : Hoist.functions body = []) (hdepth : r.depth < r.limits.recursion) :
    ∃ A : Obj, (∀ {cmp : Completion} {R' : Realm},
      (Eval.stmts ops ⟨r.scopes.size, true⟩ none body).exec
        (r.enter A ((callScope c callee thisV newTarget r.heap.size ns args).declareAll
          (Hoist.lexicals body))) = (.ok cmp, R') →
      (inFrame (Invoke.runFunction ops c callee (some thisV) args newTarget)).exec r =
        (.ok (cmp.returned, (R'.scope r.scopes.size).this?),
          { R' with depth := r.depth, loops := r.loops })) ∧
    (∀ {f : Fault} {R' : Realm},
      (Eval.stmts ops ⟨r.scopes.size, true⟩ none body).exec
        (r.enter A ((callScope c callee thisV newTarget r.heap.size ns args).declareAll
          (Hoist.lexicals body))) = (.error f, R') →
      (inFrame (Invoke.runFunction ops c callee (some thisV) args newTarget)).exec r =
        (.error f, { R' with depth := r.depth, loops := r.loops })) := by
  obtain ⟨A, hrun⟩ := Invoke.runFunction_exec_lexicals ops c callee thisV newTarget hf hlex hlen hvars
    hfuns { r with depth := r.depth + 1, loops := 0 }
  have hstart : (Eval.stmts ops ⟨r.scopes.size, true⟩ none body).exec
      (r.enter A ((callScope c callee thisV newTarget r.heap.size ns args).declareAll
        (Hoist.lexicals body))) =
      (Eval.stmts ops ⟨({ r with depth := r.depth + 1, loops := 0 } : Realm).scopes.size, true⟩ none
        body).exec { ({ r with depth := r.depth + 1, loops := 0 } : Realm) with
          heap := r.heap.push A,
          scopes := r.scopes.push ((callScope c callee thisV newTarget r.heap.size ns args).declareAll
            (Hoist.lexicals body)) } := rfl
  refine ⟨A, fun hbody => ?_, fun hbody => ?_⟩
  · rw [inFrame_exec _ hdepth, hrun, ← hstart, hbody]
  · rw [inFrame_exec _ hdepth, hrun, ← hstart, hbody]

end Calls

namespace Scope

def initValue (s : Scope) (n : String) (v : Value) : Scope :=
  match s.find? n with
  | some b => s.bind n { b with value := v, ready := true }
  | none => s.bind n ⟨v, true, true⟩

theorem initValue_of_declared {s : Scope} {n : String} {u : Value} {m : Bool}
    (h : s.find? n = some ⟨u, m, false⟩) (v : Value) : s.initValue n v = s.bind n ⟨v, m, true⟩ := by
  rw [initValue, h]

end Scope

namespace Objects

variable {ops : Ops} {r : Realm} {o : Nat} {k : Key}

theorem has_table {p : Property} (hk : (r.obj o).kind.ownIsTable = true) (hp : (r.obj o).props.find? k = some p) :
    (has ops o k).exec r = (.ok true, r) := by
  simp only [has, chainBound, M.exec_bind, M.exec_get, M.exec_pure]
  rw [show 2 * r.heap.size + 16 = (2 * r.heap.size + 14) + 1 + 1 by omega, hasAt, M.exec_bind, M.exec_obj]
  dsimp only
  split
  · simp_all [ObjKind.ownIsTable]
  · rw [M.exec_bind, getOwnAt_table hk, hp]
    rfl

end Objects

namespace Env

variable {ops : Ops} {r : Realm} {s : Nat} {n : String}

theorem initBinding_exec (v : Value) :
    (initBinding s n v).exec r = (.ok (), r.modifyScope s (·.initValue n v)) := rfl

theorem resolveAt_parent {p : Nat} (hn : (r.scope s).find? n = none) (hp : (r.scope s).parent = some p)
    (f : Nat) : resolveAt r (f + 1) s n = resolveAt r f p n := by
  simp [resolveAt, hn, hp]

theorem resolveAt_root (hn : (r.scope s).find? n = none) (hp : (r.scope s).parent = none) (f : Nat) :
    resolveAt r (f + 1) s n = none := by
  simp [resolveAt, hn, hp]

theorem getVar_global {v : Value} {w e c : Bool} (hres : resolve r s n = none)
    (hk : (r.obj globalRef).kind.ownIsTable = true)
    (hp : (r.obj globalRef).props.find? (Key.ofString n) = some ⟨.data v w, e, c⟩) :
    (getVar ops s n).exec r = (.ok v, r) := by
  simp only [getVar, M.exec_bind, M.exec_get, hres]
  rw [Objects.has_table hk hp]
  exact Objects.getKey_table_data hk hp

end Env

namespace Convert

variable {ops : Ops} {r : Realm} {x : Float}

theorem toNumber_num : (toNumber ops (.num x)).exec r = (.ok x, r) := rfl

theorem toNumeric_num : (toNumeric ops (.num x)).exec r = (.ok (.num x), r) := rfl

end Convert

namespace Operators

variable {ops : Ops} {r : Realm} {x y : Float}

theorem binary_sub_num : (binary ops .sub (.num x) (.num y)).exec r = (.ok (.num (x - y)), r) := rfl

theorem binary_mul_num : (binary ops .mul (.num x) (.num y)).exec r = (.ok (.num (x * y)), r) := rfl

theorem binary_eq_num : (binary ops .eq (.num x) (.num y)).exec r = (.ok (.bool (x == y)), r) := rfl

def atLeast (x y : Float) : Bool := !(x.isNaN || y.isNaN) && !decide (x < y)

theorem binary_ge_num : (binary ops .ge (.num x) (.num y)).exec r = (.ok (.bool (atLeast x y)), r) := by
  have h : binary ops .ge (.num x) (.num y) = pure (.bool (atLeast x y)) := by
    simp only [binary, relational, lessThan, Convert.toPrimitive, Convert.toNumeric,
      Convert.primToNumber, Value.primitiveNumber, pure_bind, atLeast]
    cases x.isNaN <;> cases y.isNaN <;> cases decide (x < y) <;> rfl
  rw [h]
  rfl

theorem binary_le_num : (binary ops .le (.num x) (.num y)).exec r = (.ok (.bool (atLeast y x)), r) := by
  have h : binary ops .le (.num x) (.num y) = pure (.bool (atLeast y x)) := by
    simp only [binary, relational, lessThan, Convert.toPrimitive, Convert.toNumeric,
      Convert.primToNumber, Value.primitiveNumber, pure_bind, atLeast]
    cases x.isNaN <;> cases y.isNaN <;> cases decide (y < x) <;> rfl
  rw [h]
  rfl

end Operators

namespace Eval

variable {ops : Ops} {ctx : Ctx} {r r' : Realm} {hint : Option String}

theorem expr_binary {op : BinaryOp} {a b : Expr} {x y : Value}
    (ha : (expr ops ctx none a).exec r = (.ok x, r)) (hb : (expr ops ctx none b).exec r = (.ok y, r)) :
    (expr ops ctx hint (.binary op a b)).exec r = (Operators.binary ops op x y).exec r := by
  rw [expr, M.exec_bind, ha]
  dsimp only
  rw [M.exec_bind, hb]

theorem expr_and_bool {a b : Expr} {p q : Bool}
    (ha : (expr ops ctx none a).exec r = (.ok (.bool p), r))
    (hb : (expr ops ctx none b).exec r = (.ok (.bool q), r)) :
    (expr ops ctx hint (.logic .and a b)).exec r = (.ok (.bool (p && q)), r) := by
  rw [expr, M.exec_bind, ha]
  cases p
  · rfl
  · exact hb

theorem expr_call_member {o : Expr} {m fn : Nat} {n : String} {args : List Item} {argv : List Value}
    {pos : Pos} {w e c : Bool} (hob : (expr ops ctx none o).exec r = (.ok (.obj m), r))
    (hk : (r.obj m).kind.ownIsTable = true)
    (hp : (r.obj m).props.find? (Key.ofString n) = some ⟨.data (.obj fn) w, e, c⟩)
    (hargs : (items ops ctx args).exec r = (.ok argv, r)) (hc : r.isCallable (.obj fn) = true) :
    (expr ops ctx hint (.call (.member o n) args pos)).exec r =
      (ops.call (.obj fn) (.obj m) argv).exec { r with site := some pos } := by
  rw [expr, M.exec_bind, hob]
  dsimp only
  rw [M.exec_bind, show Convert.getValue ops (.obj m) (Key.ofString n) = Objects.getKey ops m (Key.ofString n)
    from rfl, Objects.getKey_table_data hk hp]
  dsimp only
  rw [M.exec_bind, hargs]
  simp only [callWith, M.exec_bind, M.exec_get, hc, Bool.not_true, Bool.false_eq_true, if_false,
    M.exec_modify]

theorem stmt_let {n : String} {e : Expr} {v : Value} {labels : List String}
    (he : (expr ops ctx (some n) e).exec r = (.ok v, r')) :
    (stmt ops ctx labels (.decl .letDecl [.mk (.name n) (some e)])).exec r =
      (.ok (.normal none), r'.modifyScope ctx.scope (·.initValue n v)) := by
  have hstmt : stmt ops ctx labels (.decl .letDecl [.mk (.name n) (some e)]) =
      (do decls ops ctx .letDecl [.mk (.name n) (some e)]; pure (.normal none)) := rfl
  have hdecls : decls ops ctx .letDecl [.mk (.name n) (some e)] =
      (do
        let v ← expr ops ctx (some n) e
        bindPattern ops ctx .first (.name n) v
        decls ops ctx .letDecl []) := rfl
  rw [hstmt, M.exec_bind, hdecls, M.exec_bind, he]
  dsimp only
  rw [M.exec_bind, bindPattern_name, bindName, Env.initBinding_exec]
  rfl

end Eval

namespace Calls

theorem callAt_native {r : Realm} {fn : Nat} {nat : Native} (hk : (r.obj fn).kind = .native nat)
    (thisV : Value) (args : List Value) (f : Nat) :
    (callAt (f + 1) (.obj fn) thisV args).exec r =
      (Builtins.run nat { ops := opsWith f, this := thisV, args, newTarget := none }).exec r := by
  rw [callAt, M.exec_bind, M.exec_obj]
  simp only [hk]
  rfl

end Calls

namespace Builtins

variable {r : Realm} (ops : Ops) (thisV : Value) (x y : Float)

theorem run_mathMax_two :
    (run .mathMax { ops, this := thisV, args := [.num x, .num y], newTarget := none }).exec r =
      (.ok (.num ([x, y].foldl maxOf (-infinity))), r) := rfl

theorem run_mathMin_two :
    (run .mathMin { ops, this := thisV, args := [.num x, .num y], newTarget := none }).exec r =
      (.ok (.num ([x, y].foldl minOf infinity)), r) := rfl

end Builtins

theorem Realm.isCallable_native {r : Realm} {fn : Nat} {nat : Native} (hk : (r.obj fn).kind = .native nat) :
    r.isCallable (.obj fn) = true := by
  simp [Realm.isCallable, Realm.callableAt, hk]

namespace Realm

variable {r r' r'' : Realm} {s : Nat}

theorem lt_size_of_native {i : Nat} {nat : Native} (h : (r.obj i).kind = .native nat) : i < r.heap.size := by
  by_contra hi
  have hd : r.obj i = default := by
    simp only [Realm.obj]
    exact getElem!_neg r.heap i hi
  rw [hd] at h
  exact absurd h (by simp [show (default : Obj).kind = .ordinary from rfl])

theorem lt_scopes_size_of_parent {p : Nat} (h : (r.scope s).parent = some p) : s < r.scopes.size := by
  by_contra hs
  have hd : r.scope s = default := by
    simp only [Realm.scope]
    exact getElem!_neg r.scopes s hs
  rw [hd] at h
  exact absurd h (by simp [show (default : Scope).parent = none from rfl])

def HasData (r : Realm) (o : Nat) (n : String) (v : Value) : Prop :=
  (r.obj o).kind.ownIsTable = true ∧
    ∃ w e c, (r.obj o).props.find? (Key.ofString n) = some ⟨.data v w, e, c⟩

theorem HasData.lt_size {o : Nat} {n : String} {v : Value} (h : r.HasData o n v) : o < r.heap.size :=
  let ⟨_, _, _, _, hp⟩ := h
  lt_size_of_find? hp

theorem HasData.extend {o : Nat} {n : String} {v : Value} {t : Nat → Prop} (h : r.HasData o n v)
    (he : r.Extends r' t) (ho : ¬ t o) : r'.HasData o n v := by
  rw [HasData, he.obj_eq o h.lt_size ho]
  exact h

theorem HasData.enter {o : Nat} {n : String} {v : Value} (h : r.HasData o n v) (A : Obj) (S : Scope) :
    (r.enter A S).HasData o n v := by
  rw [HasData, obj_enter A S h.lt_size]
  exact h

/-- `r'` is `r` with at most the scope `s` and the place of the call changed, as declarations
and calls of built-in functions in `s` leave it. -/
structure OnlyScope (r r' : Realm) (s : Nat) : Prop where
  heap_eq : r'.heap = r.heap
  size_eq : r'.scopes.size = r.scopes.size
  scope_ne : ∀ i, i ≠ s → r'.scope i = r.scope i
  limits_eq : r'.limits = r.limits
  depth_eq : r'.depth = r.depth
  loops_eq : r'.loops = r.loops

namespace OnlyScope

theorem refl (r : Realm) (s : Nat) : r.OnlyScope r s :=
  ⟨rfl, rfl, fun _ _ => rfl, rfl, rfl, rfl⟩

theorem trans (h₁ : r.OnlyScope r' s) (h₂ : r'.OnlyScope r'' s) : r.OnlyScope r'' s :=
  ⟨h₂.heap_eq.trans h₁.heap_eq, h₂.size_eq.trans h₁.size_eq,
    fun i hi => (h₂.scope_ne i hi).trans (h₁.scope_ne i hi), h₂.limits_eq.trans h₁.limits_eq,
    h₂.depth_eq.trans h₁.depth_eq, h₂.loops_eq.trans h₁.loops_eq⟩

theorem withSite (r : Realm) (s : Nat) (p : Option Pos) : r.OnlyScope { r with site := p } s :=
  ⟨rfl, rfl, fun _ _ => rfl, rfl, rfl, rfl⟩

theorem modifyScope (r : Realm) (f : Scope → Scope) : r.OnlyScope (r.modifyScope s f) s :=
  ⟨rfl, scopes_size_modifyScope f, fun _ hi => scope_modifyScope_ne f hi, rfl, rfl, rfl⟩

theorem obj_eq (h : r.OnlyScope r' s) (i : Nat) : r'.obj i = r.obj i := by
  simp only [Realm.obj, h.heap_eq]

theorem hasData {o : Nat} {n : String} {v : Value} (h : r.OnlyScope r' s) (hd : r.HasData o n v) :
    r'.HasData o n v := by
  rw [HasData, h.obj_eq]
  exact hd

end OnlyScope

theorem Extends.onlyScope {R : Realm} {t : Nat → Prop} (h : r.Extends R t) (h' : R.OnlyScope r' s)
    (hs : r.scopes.size ≤ s) : r.Extends r' t where
  heap_le := h'.heap_eq ▸ h.heap_le
  obj_eq i hi ht := (h'.obj_eq i).trans (h.obj_eq i hi ht)
  scopes_le := h'.size_eq ▸ h.scopes_le
  scope_eq i hi := (h'.scope_ne i (by omega)).trans (h.scope_eq i hi)
  limits_eq := h'.limits_eq.trans h.limits_eq
  depth_eq := h'.depth_eq.trans h.depth_eq
  loops_eq := h'.loops_eq.trans h.loops_eq

end Realm

namespace Eval

variable {ops : Ops} {ctx : Ctx} {r : Realm} {hint : Option String}

theorem expr_member_data {ob : Expr} {o : Nat} {n : String} {v : Value}
    (hob : (expr ops ctx none ob).exec r = (.ok (.obj o), r)) (h : r.HasData o n v) :
    (expr ops ctx hint (.member ob n)).exec r = (.ok v, r) :=
  let ⟨hk, _, _, _, hp⟩ := h
  expr_member hob hk hp

end Eval

end ScriptBridge.Script
