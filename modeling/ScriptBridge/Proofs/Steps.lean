import ScriptBridge.Proofs.OwnProperty
import ScriptBridge.Proofs.Utf16
import ScriptBridge.Script.Engine

/-!
# Script code run step by step

Lemmas that run one piece of engine work from a realm and give its outcome and the realm it
leaves: reads and writes of own and inherited data properties, the lookups of `this` and of
names, the expression and statement forms of plain method bodies, and the machinery of a call
(a frame under the recursion limit, the scope and `arguments` object of a call, the instance
fields of a class, construction with a class that has no parent).

What a longer run keeps is stated by `Realm.Extends r r' touched`: the heap and the scope store
only grew, every old scope and every old object outside `touched` is as it was, and the limits
and frame counters are unchanged. Each step lemma gives the exact realm it leaves, and the
`Extends` lemmas carry what a run keeps through a sequence of such steps.
-/

namespace ScriptBridge.Script

variable {α : Type}

namespace M

@[simp] theorem exec_set (s r : Realm) : (set s : M PUnit).exec r = (.ok ⟨⟩, s) := rfl

@[simp] theorem exec_modify (f : Realm → Realm) (r : Realm) :
    (modify f : M PUnit).exec r = (.ok ⟨⟩, f r) := rfl

@[simp] theorem exec_modifyGet (f : Realm → α × Realm) (r : Realm) :
    (modifyGet f : M α).exec r = (.ok (f r).1, (f r).2) := rfl

@[simp] theorem exec_throw (e : Fault) (r : Realm) : (throw e : M α).exec r = (.error e, r) := rfl

theorem exec_tryCatch (x : M α) (h : Fault → M α) (r : Realm) :
    (tryCatch x h).exec r = match x.exec r with
      | (.ok a, r') => (.ok a, r')
      | (.error e, r') => (h e).exec r' := by
  simp only [exec]
  show (ExceptT.tryCatch x h).run.run r = _
  simp only [ExceptT.tryCatch, ExceptT.run, ExceptT.mk, StateT.run_bind]
  rcases StateT.run x r with ⟨_ | _, r'⟩ <;> rfl

@[simp] theorem exec_alloc (o : Obj) (r : Realm) :
    (M.alloc o).exec r = (.ok r.heap.size, { r with heap := r.heap.push o }) := rfl

end M

theorem Key.eq_of_beq {a b : Key} (h : (a == b) = true) : a = b := by
  cases a with
  | str s => cases b with
    | str s' => have h' : (s == s') = true := h; simp only [beq_iff_eq] at h'; rw [h']
    | sym _ => exact Bool.noConfusion h
  | sym i => cases b with
    | str _ => exact Bool.noConfusion h
    | sym j => have h' : (i == j) = true := h; simp only [beq_iff_eq] at h'; rw [h']

theorem Key.ofString_beq_of_ne {n m : String} (h : n ≠ m) : (Key.ofString n == Key.ofString m) = false := by
  have hu : Units.ofString n ≠ Units.ofString m := fun e =>
    h (by simpa [Units.toEscaped_ofString] using congrArg Units.toEscaped e)
  show (Units.ofString n == Units.ofString m) = false
  simpa using hu

theorem List.find?_set_of_not {p : α → Bool} {x : α} (hx : p x = false) :
    ∀ {l : List α} {j : Nat}, (∀ h : j < l.length, p l[j] = false) → (l.set j x).find? p = l.find? p
  | [], _, _ => rfl
  | a :: l, 0, hj => by
    have ha : p a = false := hj (by simp)
    simp [ha, hx]
  | a :: l, j + 1, hj => by
    have hrest : ∀ h : j < l.length, p l[j] = false := fun h => hj (by simp; omega)
    simp [List.find?_cons, List.find?_set_of_not hx hrest]

theorem Array.modify_push_size (xs : Array α) (x : α) (f : α → α) :
    (xs.push x).modify xs.size f = xs.push (f x) := by
  apply Array.ext
  · simp
  · intro i hi _
    simp only [Array.size_modify, Array.size_push] at hi
    rw [Array.getElem_modify]
    by_cases h : i = xs.size
    · subst h; simp
    · have hlt : i < xs.size := by omega
      simp [Ne.symm h, Array.getElem_push_lt hlt]

namespace Table

theorem find?_insert_ne (t : Table) {k k' : Key} (p : Property) (hk : k.index? = none)
    (hk' : k'.index? = none) (hne : (k == k') = false) : (t.insert k p).find? k' = t.find? k' := by
  unfold Table.insert Table.find?
  simp only [hk, hk']
  cases hj : t.named.findIdx? (fun e => e.1 == k) with
  | none => simp [Array.find?_push, hne]
  | some j =>
    obtain ⟨hjs, hjk, -⟩ := Array.findIdx?_eq_some_iff_getElem.mp hj
    have hold : (t.named[j].1 == k') = false := by
      rw [Key.eq_of_beq hjk]
      exact hne
    simp only [Array.set!_eq_setIfInBounds, ← Array.find?_toList, Array.toList_setIfInBounds]
    rw [List.find?_set_of_not (p := fun e : Key × Property => e.1 == k') (x := (k, p)) hne
      (fun h => by simpa using hold)]

end Table

namespace Scope

@[simp] theorem this?_bind (s : Scope) (n : String) (b : Binding) : (s.bind n b).this? = s.this? := by
  unfold bind; split <;> rfl

@[simp] theorem thisPending_bind (s : Scope) (n : String) (b : Binding) :
    (s.bind n b).thisPending = s.thisPending := by
  unfold bind; split <;> rfl

@[simp] theorem parent_bind (s : Scope) (n : String) (b : Binding) : (s.bind n b).parent = s.parent := by
  unfold bind; split <;> rfl

theorem find?_bind_self (s : Scope) (n : String) (b : Binding) : (s.bind n b).find? n = some b := by
  unfold bind find?
  cases hj : s.names.findIdx? (fun e => e.1 == n) with
  | none =>
    have hn : s.names.find? (fun e => e.1 == n) = none := by
      rw [Array.find?_eq_none]
      intro x hx
      simpa using (Array.findIdx?_eq_none_iff.mp hj) x hx
    simp [Array.find?_push, hn]
  | some j =>
    obtain ⟨hjs, -, hbefore⟩ := Array.findIdx?_eq_some_iff_getElem.mp hj
    have hf : (s.names.set! j (n, b)).find? (fun e => e.1 == n) = some (n, b) := by
      rw [Array.find?_eq_some_iff_getElem]
      refine ⟨by simp, j, by simpa using hjs, by simp, fun i hi => ?_⟩
      simp only [Array.set!_eq_setIfInBounds]
      rw [Array.getElem_setIfInBounds_ne (Nat.lt_trans hi hjs) (Nat.ne_of_gt hi)]
      simpa using hbefore i hi
    simp only [hf, Option.map_some]

theorem find?_bind_ne (s : Scope) {n n' : String} (b : Binding) (hne : n ≠ n') :
    (s.bind n b).find? n' = s.find? n' := by
  unfold bind find?
  cases hj : s.names.findIdx? (fun e => e.1 == n) with
  | none => simp [Array.find?_push, hne]
  | some j =>
    obtain ⟨hjs, hjn, -⟩ := Array.findIdx?_eq_some_iff_getElem.mp hj
    have hold : (s.names[j].1 == n') = false := by
      simp only [beq_iff_eq] at hjn
      simp [hjn, hne]
    simp only [Array.set!_eq_setIfInBounds, ← Array.find?_toList, Array.toList_setIfInBounds]
    rw [List.find?_set_of_not (p := fun e : String × Binding => e.1 == n') (x := (n, b))
      (by simpa using hne) (fun h => by simpa using hold)]

end Scope

namespace Realm

variable {r r' r'' : Realm} {i j : Nat}

theorem obj_push_lt {o : Obj} (hi : i < r.heap.size) :
    ({ r with heap := r.heap.push o } : Realm).obj i = r.obj i := by
  have hi' : i < (r.heap.push o).size := by simp; omega
  simp only [Realm.obj, getElem!_pos (r.heap.push o) i hi', getElem!_pos r.heap i hi,
    Array.getElem_push_lt hi]

@[simp] theorem obj_push_self {o : Obj} :
    ({ r with heap := r.heap.push o } : Realm).obj r.heap.size = o := by
  simp [Realm.obj]

theorem obj_modifyObj_ne (f : Obj → Obj) (h : i ≠ j) : (r.modifyObj j f).obj i = r.obj i := by
  simp only [Realm.obj, Realm.modifyObj]
  by_cases hi : i < r.heap.size
  · rw [getElem!_pos _ i (by simpa using hi), getElem!_pos _ i hi,
      Array.getElem_modify_of_ne (Ne.symm h)]
  · rw [getElem!_neg _ i (by simpa using hi), getElem!_neg _ i hi]

@[simp] theorem heap_size_modifyObj (f : Obj → Obj) : (r.modifyObj j f).heap.size = r.heap.size := by
  simp [Realm.modifyObj]

theorem scope_push_lt {s : Scope} (hi : i < r.scopes.size) :
    ({ r with scopes := r.scopes.push s } : Realm).scope i = r.scope i := by
  have hi' : i < (r.scopes.push s).size := by simp; omega
  simp only [Realm.scope, getElem!_pos (r.scopes.push s) i hi', getElem!_pos r.scopes i hi,
    Array.getElem_push_lt hi]

@[simp] theorem scope_push_self {s : Scope} :
    ({ r with scopes := r.scopes.push s } : Realm).scope r.scopes.size = s := by
  simp [Realm.scope]

theorem scope_modifyScope_ne (f : Scope → Scope) (h : i ≠ j) :
    (r.modifyScope j f).scope i = r.scope i := by
  simp only [Realm.scope, Realm.modifyScope]
  by_cases hi : i < r.scopes.size
  · rw [getElem!_pos _ i (by simpa using hi), getElem!_pos _ i hi,
      Array.getElem_modify_of_ne (Ne.symm h)]
  · rw [getElem!_neg _ i (by simpa using hi), getElem!_neg _ i hi]

@[simp] theorem scopes_size_modifyScope (f : Scope → Scope) :
    (r.modifyScope j f).scopes.size = r.scopes.size := by
  simp [Realm.modifyScope]

theorem lt_size_of_closure {c : Closure} (h : (r.obj i).kind = .closure c) : i < r.heap.size := by
  by_contra hi
  have hd : r.obj i = default := by
    simp only [Realm.obj]
    exact getElem!_neg r.heap i hi
  rw [hd] at h
  exact absurd h (by simp [show (default : Obj).kind = .ordinary from rfl])

theorem obj_putProp_putProp {o : Nat} (ho : o < r.heap.size) (k₁ k₂ : Key) (p₁ p₂ : Property) :
    ((r.putProp o k₁ p₁).putProp o k₂ p₂).obj o =
      { r.obj o with props := ((r.obj o).props.insert k₁ p₁).insert k₂ p₂ } := by
  rw [obj_putProp_self (by simpa [putProp] using ho), obj_putProp_self ho]

theorem lt_scopes_size_of_find? {s : Nat} {n : String} {b : Binding}
    (hb : (r.scope s).find? n = some b) : s < r.scopes.size := by
  by_contra h
  have hd : r.scope s = default := by
    simp only [Realm.scope]
    exact getElem!_neg r.scopes s h
  rw [hd] at hb
  exact absurd hb (by simp [Scope.find?, show (default : Scope).names = #[] from rfl])

/-- `r'` is what work leaves of `r` when it changed no object of `r` outside `touched`: the heap
and the scope store only grew, every other old object and every old scope is as it was, and the
limits and the frame counters are the same. -/
structure Extends (r r' : Realm) (touched : Nat → Prop) : Prop where
  heap_le : r.heap.size ≤ r'.heap.size
  obj_eq : ∀ i < r.heap.size, ¬ touched i → r'.obj i = r.obj i
  scopes_le : r.scopes.size ≤ r'.scopes.size
  scope_eq : ∀ i < r.scopes.size, r'.scope i = r.scope i
  limits_eq : r'.limits = r.limits
  depth_eq : r'.depth = r.depth
  loops_eq : r'.loops = r.loops

namespace Extends

variable {t t' : Nat → Prop}

theorem refl (r : Realm) (t : Nat → Prop) : r.Extends r t :=
  ⟨le_rfl, fun _ _ _ => rfl, le_rfl, fun _ _ => rfl, rfl, rfl, rfl⟩

theorem trans (h₁ : r.Extends r' t) (h₂ : r'.Extends r'' t') :
    r.Extends r'' (fun i => t i ∨ t' i) where
  heap_le := h₁.heap_le.trans h₂.heap_le
  obj_eq i hi hti := by
    rw [h₂.obj_eq i (lt_of_lt_of_le hi h₁.heap_le) (fun h => hti (.inr h)),
      h₁.obj_eq i hi (fun h => hti (.inl h))]
  scopes_le := h₁.scopes_le.trans h₂.scopes_le
  scope_eq i hi := by rw [h₂.scope_eq i (lt_of_lt_of_le hi h₁.scopes_le), h₁.scope_eq i hi]
  limits_eq := h₂.limits_eq.trans h₁.limits_eq
  depth_eq := h₂.depth_eq.trans h₁.depth_eq
  loops_eq := h₂.loops_eq.trans h₁.loops_eq

theorem mono (h : r.Extends r' t) (ht : ∀ i < r.heap.size, t i → t' i) : r.Extends r' t' :=
  { h with obj_eq := fun i hi hti => h.obj_eq i hi (fun h' => hti (ht i hi h')) }

theorem alloc (h : r.Extends r' t) (o : Obj) : r.Extends { r' with heap := r'.heap.push o } t :=
  { h with
    heap_le := by simpa using Nat.le_succ_of_le h.heap_le
    obj_eq := fun i hi hti => by rw [obj_push_lt (lt_of_lt_of_le hi h.heap_le), h.obj_eq i hi hti] }

theorem newScope (h : r.Extends r' t) (s : Scope) : r.Extends (r'.newScope s).2 t :=
  { h with
    scopes_le := by simpa [Realm.newScope] using Nat.le_succ_of_le h.scopes_le
    scope_eq := fun i hi => by
      simp only [Realm.newScope]
      rw [scope_push_lt (lt_of_lt_of_le hi h.scopes_le), h.scope_eq i hi] }

theorem modifyObj (h : r.Extends r' t) (o : Nat) (f : Obj → Obj) :
    r.Extends (r'.modifyObj o f) (fun i => t i ∨ i = o) :=
  { h with
    heap_le := by simpa using h.heap_le
    obj_eq := fun i hi hti => by
      rw [obj_modifyObj_ne f (fun e => hti (.inr e)), h.obj_eq i hi (fun h' => hti (.inl h'))] }

theorem putProp (h : r.Extends r' t) (o : Nat) (k : Key) (p : Property) :
    r.Extends (r'.putProp o k p) (fun i => t i ∨ i = o) :=
  h.modifyObj o _

theorem putProp_of_touched (h : r.Extends r' t) {o : Nat} (ho : t o) (k : Key) (p : Property) :
    r.Extends (r'.putProp o k p) t :=
  (h.putProp o k p).mono fun _ _ hi => hi.elim id (fun e => e ▸ ho)

theorem withSite (h : r.Extends r' t) (p : Option Pos) : r.Extends { r' with site := p } t :=
  ⟨h.heap_le, h.obj_eq, h.scopes_le, h.scope_eq, h.limits_eq, h.depth_eq, h.loops_eq⟩

theorem frame {d l : Nat} (h : ({ r with depth := d, loops := l } : Realm).Extends r' t) :
    r.Extends { r' with depth := r.depth, loops := r.loops } t :=
  { h with depth_eq := rfl, loops_eq := rfl }

end Extends

def enter (r : Realm) (A : Obj) (S : Scope) : Realm :=
  { r with depth := r.depth + 1, loops := 0, heap := r.heap.push A, scopes := r.scopes.push S }

@[simp] theorem obj_withCounts (d l i : Nat) : ({ r with depth := d, loops := l } : Realm).obj i = r.obj i :=
  rfl

theorem obj_enter (A : Obj) (S : Scope) (hi : i < r.heap.size) : (r.enter A S).obj i = r.obj i :=
  obj_push_lt hi

@[simp] theorem scope_enter_self (A : Obj) (S : Scope) : (r.enter A S).scope r.scopes.size = S :=
  scope_push_self

theorem scope_enter (A : Obj) (S : Scope) (hi : i < r.scopes.size) : (r.enter A S).scope i = r.scope i :=
  scope_push_lt hi

theorem Extends.enter (r : Realm) (A : Obj) (S : Scope) (t : Nat → Prop) :
    ({ r with depth := r.depth + 1, loops := 0 } : Realm).Extends (r.enter A S) t :=
  ((Extends.refl _ t).alloc A).newScope S

theorem isCallable_closure {fo : Nat} {c : Closure} (hk : (r.obj fo).kind = .closure c) :
    r.isCallable (.obj fo) = true := by
  simp [isCallable, callableAt, hk]

theorem isConstructor_class {F : Nat} {c : Closure} (hk : (r.obj F).kind = .closure c)
    (hkind : c.func.kind = .classConstructor) (hlex : c.thisLexical = false) :
    r.isConstructor (.obj F) = true := by
  simp [isConstructor, constructorAt, hk, hkind, hlex]

end Realm

def ObjKind.ownIsTable : ObjKind → Bool
  | .array _ _ | .boxed (.str _) | .bytes _ | .proxy _ _ => false
  | _ => true

theorem ObjKind.ownIsTable_of_ordinary {k : ObjKind} (h : k = .ordinary) : k.ownIsTable = true := by
  rw [h]
  rfl

namespace Objects

variable {ops : Ops} {r : Realm} {o : Nat} {k : Key}

theorem getOwnAt_table (hk : (r.obj o).kind.ownIsTable = true) (f : Nat) :
    (getOwnAt ops (f + 1) o k).exec r = (.ok ((r.obj o).props.find? k), r) := by
  rw [getOwnAt, M.exec_bind, M.exec_obj]
  dsimp only
  split <;> simp_all [ObjKind.ownIsTable]

theorem getAt_table_data {v : Value} {w enum conf : Bool} (hk : (r.obj o).kind.ownIsTable = true)
    (hp : (r.obj o).props.find? k = some ⟨.data v w, enum, conf⟩) (f : Nat) (receiver : Value) :
    (getAt ops (f + 2) o k receiver).exec r = (.ok v, r) := by
  rw [getAt, M.exec_bind, M.exec_obj]
  dsimp only
  split
  · simp_all [ObjKind.ownIsTable]
  · rw [M.exec_bind, getOwnAt_table hk, hp]
    rfl

theorem getAt_inherited {p : Nat} (hk : (r.obj o).kind.ownIsTable = true)
    (hnone : (r.obj o).props.find? k = none) (hproto : (r.obj o).proto = some p) (f : Nat)
    (receiver : Value) :
    (getAt ops (f + 2) o k receiver).exec r = (getAt ops (f + 1) p k receiver).exec r := by
  rw [getAt, M.exec_bind, M.exec_obj]
  dsimp only
  split
  · simp_all [ObjKind.ownIsTable]
  · rw [M.exec_bind, getOwnAt_table hk, hnone]
    simp only [hproto]

theorem getKey_table_data {v : Value} {w enum conf : Bool} (hk : (r.obj o).kind.ownIsTable = true)
    (hp : (r.obj o).props.find? k = some ⟨.data v w, enum, conf⟩) :
    (getKey ops o k).exec r = (.ok v, r) := by
  simp only [getKey, getWith, chainBound, M.exec_bind, M.exec_get, M.exec_pure]
  rw [show 2 * r.heap.size + 16 = (2 * r.heap.size + 14) + 2 by omega]
  exact getAt_table_data hk hp _ _

theorem getKey_inherited_data {p : Nat} {v : Value} {w enum conf : Bool}
    (hk : (r.obj o).kind.ownIsTable = true) (hnone : (r.obj o).props.find? k = none)
    (hproto : (r.obj o).proto = some p) (hpk : (r.obj p).kind.ownIsTable = true)
    (hp : (r.obj p).props.find? k = some ⟨.data v w, enum, conf⟩) :
    (getKey ops o k).exec r = (.ok v, r) := by
  simp only [getKey, getWith, chainBound, M.exec_bind, M.exec_get, M.exec_pure]
  rw [show 2 * r.heap.size + 16 = (2 * r.heap.size + 13) + 1 + 2 by omega,
    getAt_inherited hk hnone hproto]
  exact getAt_table_data hpk hp _ _

theorem setAt_readonly {v x : Value} {enum conf : Bool} (hk : (r.obj o).kind = .ordinary)
    (hp : (r.obj o).props.find? k = some ⟨.data v false, enum, conf⟩) (f : Nat) :
    (setAt ops (f + 4) o k x (.obj o)).exec r = (.ok false, r) := by
  rw [setAt, M.exec_bind, M.exec_obj]
  simp only [hk]
  rw [setOrdinary, M.exec_bind, getOwnAt_ordinary hk, hp]
  rfl

theorem createDataOrThrow_fresh (hk : (r.obj o).kind = .ordinary)
    (hext : (r.obj o).extensible = true) (hnone : (r.obj o).props.find? k = none) (v : Value) :
    (createDataOrThrow ops o k v).exec r = (.ok (), r.putProp o k (Property.plain v)) := by
  simp only [createDataOrThrow, createData, define, chainBound, M.exec_bind, M.exec_get, M.exec_pure]
  rw [show 2 * r.heap.size + 16 = (2 * r.heap.size + 15) + 1 by omega, defineAt, M.exec_bind,
    M.exec_obj]
  simp only [hk, defineOrdinary, hext, hnone, Descriptor.apply]
  rfl

end Objects

namespace Convert

variable {ops : Ops} {r : Realm} {o : Nat} {k : Key}

theorem putValue_writable {v x : Value} {enum conf : Bool} (hk : (r.obj o).kind = .ordinary)
    (hp : (r.obj o).props.find? k = some ⟨.data v true, enum, conf⟩) (strict : Bool) :
    (putValue ops (.obj o) k x strict).exec r =
      (.ok (), r.putProp o k ⟨.data x true, enum, conf⟩) := by
  simp only [putValue, toObject, Objects.setWith, Objects.chainBound, M.exec_bind, M.exec_pure,
    M.exec_get]
  rw [show 2 * r.heap.size + 16 = (2 * r.heap.size + 12) + 4 by omega,
    Objects.setAt_writable hk hp]
  rfl

theorem putValue_readonly {v x : Value} {enum conf : Bool} (hk : (r.obj o).kind = .ordinary)
    (hp : (r.obj o).props.find? k = some ⟨.data v false, enum, conf⟩) :
    ∃ e r', (putValue ops (.obj o) k x true).exec r = (.error (.thrown e), r') := by
  simp only [putValue, toObject, Objects.setWith, Objects.chainBound, M.exec_bind, M.exec_pure,
    M.exec_get]
  rw [show 2 * r.heap.size + 16 = (2 * r.heap.size + 12) + 4 by omega,
    Objects.setAt_readonly hk hp]
  exact ⟨_, _, rfl⟩

end Convert

namespace Builtins

theorem protoFor_prototype {ops : Ops} {r : Realm} {F P : Nat} {w enum conf : Bool} {fb : Intrinsic}
    (hk : (r.obj F).kind.ownIsTable = true)
    (hp : (r.obj F).props.find? (Key.ofString "prototype") = some ⟨.data (.obj P) w, enum, conf⟩) :
    (protoFor ops (some (.obj F)) fb).exec r = (.ok P, r) := by
  simp only [protoFor]
  rw [M.exec_bind, Objects.getKey_table_data hk hp]
  rfl

end Builtins

namespace Env

variable {ops : Ops} {r : Realm} {s : Nat} {n : String}

theorem thisValue_bound {v : Value} (hthis : (r.scope s).this? = some v)
    (hpend : (r.scope s).thisPending = false) : (thisValue s).exec r = (.ok v, r) := by
  simp only [thisValue, M.exec_bind, M.exec_get, thisScopeAt, hthis, hpend, Option.isSome_some,
    Bool.or_true, if_true, Bool.false_eq_true, if_false, Option.getD_some]
  rfl

theorem getVar_here {v : Value} {m : Bool} (hb : (r.scope s).find? n = some ⟨v, m, true⟩) :
    (getVar ops s n).exec r = (.ok v, r) := by
  simp only [getVar, resolve, resolveAt, M.exec_bind, M.exec_get, hb, Option.isSome_some, if_true]
  rfl

theorem getVar_parent {p : Nat} {v : Value} {m : Bool} (hnone : (r.scope s).find? n = none)
    (hpar : (r.scope s).parent = some p) (hb : (r.scope p).find? n = some ⟨v, m, true⟩) :
    (getVar ops s n).exec r = (.ok v, r) := by
  obtain ⟨k, hk⟩ : ∃ k, r.scopes.size = k + 1 :=
    ⟨r.scopes.size - 1, by have := Realm.lt_scopes_size_of_find? hb; omega⟩
  simp only [getVar, resolve, hk, resolveAt, M.exec_bind, M.exec_get, hnone, hpar, hb,
    Option.isSome_none, Option.isSome_some, Bool.false_eq_true, if_false, if_true]
  rfl

end Env

namespace Eval

variable {ops : Ops} {ctx : Ctx} {r r' : Realm} {hint : Option String}

theorem bindPattern_name (mode : BindMode) (n : String) (v : Value) :
    bindPattern ops ctx mode (.name n) v = bindName ops ctx mode n v := by
  rw [bindPattern]

theorem expr_thisRef {v : Value} (hthis : (r.scope ctx.scope).this? = some v)
    (hpend : (r.scope ctx.scope).thisPending = false) :
    (expr ops ctx hint .thisRef).exec r = (.ok v, r) := by
  rw [expr]
  exact Env.thisValue_bound hthis hpend

theorem expr_ident {n : String} {v : Value} (hv : (Env.getVar ops ctx.scope n).exec r = (.ok v, r)) :
    (expr ops ctx hint (.ident n)).exec r = (.ok v, r) := by
  rw [expr]
  exact hv

theorem expr_member {ob : Expr} {o : Nat} {n : String} {v : Value} {w enum conf : Bool}
    (hob : (expr ops ctx none ob).exec r = (.ok (.obj o), r)) (hk : (r.obj o).kind.ownIsTable = true)
    (hp : (r.obj o).props.find? (Key.ofString n) = some ⟨.data v w, enum, conf⟩) :
    (expr ops ctx hint (.member ob n)).exec r = (.ok v, r) := by
  rw [expr, M.exec_bind, hob]
  exact Objects.getKey_table_data hk hp

theorem expr_add {a b : Expr} {x y : Float} (ha : (expr ops ctx none a).exec r = (.ok (.num x), r))
    (hb : (expr ops ctx none b).exec r = (.ok (.num y), r)) :
    (expr ops ctx hint (.binary .add a b)).exec r = (.ok (.num (x + y)), r) := by
  rw [expr, M.exec_bind, ha]
  dsimp only
  rw [M.exec_bind, hb]
  rfl

theorem expr_assign_member_exec {ob e : Expr} {o : Nat} {n : String} {x : Value}
    (hob : (expr ops ctx none ob).exec r = (.ok (.obj o), r))
    (hv : (expr ops ctx none e).exec r = (.ok x, r)) :
    (expr ops ctx hint (.assign none (.member ob n) e)).exec r =
      match (Convert.putValue ops (.obj o) (Key.ofString n) x ctx.strict).exec r with
      | (.ok _, r') => (.ok x, r')
      | (.error f, r') => (.error f, r') := by
  rw [expr, M.exec_bind, hob]
  dsimp only
  rw [M.exec_bind, hv]
  dsimp only
  rw [M.exec_bind]
  rcases (Convert.putValue ops (.obj o) (Key.ofString n) x ctx.strict).exec r with ⟨_ | _, r'⟩ <;> rfl

theorem expr_assign_member {ob e : Expr} {o : Nat} {n : String} {x v : Value} {enum conf : Bool}
    (hob : (expr ops ctx none ob).exec r = (.ok (.obj o), r))
    (hv : (expr ops ctx none e).exec r = (.ok x, r)) (hk : (r.obj o).kind = .ordinary)
    (hp : (r.obj o).props.find? (Key.ofString n) = some ⟨.data v true, enum, conf⟩) :
    (expr ops ctx hint (.assign none (.member ob n) e)).exec r =
      (.ok x, r.putProp o (Key.ofString n) ⟨.data x true, enum, conf⟩) := by
  rw [expr_assign_member_exec hob hv, Convert.putValue_writable hk hp]

theorem expr_assign_member_readonly {s : Nat} {ob e : Expr} {o : Nat} {n : String} {x v : Value}
    {enum conf : Bool} (hob : (expr ops ⟨s, true⟩ none ob).exec r = (.ok (.obj o), r))
    (hv : (expr ops ⟨s, true⟩ none e).exec r = (.ok x, r)) (hk : (r.obj o).kind = .ordinary)
    (hp : (r.obj o).props.find? (Key.ofString n) = some ⟨.data v false, enum, conf⟩) :
    ∃ err r', (expr ops ⟨s, true⟩ hint (.assign none (.member ob n) e)).exec r = (.error (.thrown err), r') := by
  obtain ⟨err, r', hput⟩ : ∃ err r', (Convert.putValue ops (.obj o) (Key.ofString n) x true).exec r =
      (.error (.thrown err), r') := Convert.putValue_readonly hk hp
  exact ⟨err, r', by rw [expr_assign_member_exec hob hv, hput]⟩

theorem items_nil : (items ops ctx []).exec r = (.ok [], r) := by
  rw [items]
  rfl

theorem items_one {e : Expr} {rest : List Item} {v : Value} {vs : List Value}
    (he : (expr ops ctx none e).exec r = (.ok v, r)) (hrest : (items ops ctx rest).exec r = (.ok vs, r)) :
    (items ops ctx (.one e :: rest)).exec r = (.ok (v :: vs), r) := by
  rw [items, M.exec_bind, he]
  dsimp only
  rw [M.exec_bind, hrest]
  rfl

theorem expr_construct {callee : Expr} {args : List Item} {pos : Pos} {cv : Value}
    {argv : List Value} (hc : (expr ops ctx none callee).exec r = (.ok cv, r))
    (hargs : (items ops ctx args).exec r = (.ok argv, r)) (hcons : r.isConstructor cv = true) :
    (expr ops ctx hint (.construct callee args pos)).exec r =
      (ops.construct cv argv cv).exec { r with site := some pos } := by
  rw [expr, M.exec_bind, hc]
  dsimp only
  rw [M.exec_bind, hargs]
  simp only [M.exec_bind, M.exec_get, hcons, Bool.not_true, Bool.false_eq_true, if_false,
    M.exec_modify]

-- `stmt` has no equation lemmas (its `try` case defeats their generation), so its cases are
-- opened by `rfl` on the statement's own form.
theorem stmt_expr {e : Expr} {v : Value} {labels : List String}
    (he : (expr ops ctx none e).exec r = (.ok v, r')) :
    (stmt ops ctx labels (.expr e)).exec r = (.ok (.normal (some v)), r') := by
  have hunfold : stmt ops ctx labels (.expr e) = (do pure (.normal (some (← expr ops ctx none e)))) :=
    rfl
  rw [hunfold, M.exec_bind, he]
  rfl

theorem stmt_ret {e : Expr} {v : Value} {labels : List String}
    (he : (expr ops ctx none e).exec r = (.ok v, r')) :
    (stmt ops ctx labels (.ret (some e))).exec r = (.ok (.ret v), r') := by
  have hunfold : stmt ops ctx labels (.ret (some e)) = (do pure (.ret (← expr ops ctx none e))) := rfl
  rw [hunfold, M.exec_bind, he]
  rfl

theorem stmt_expr_error {e : Expr} {f : Fault} {labels : List String}
    (he : (expr ops ctx none e).exec r = (.error f, r')) :
    (stmt ops ctx labels (.expr e)).exec r = (.error f, r') := by
  have hunfold : stmt ops ctx labels (.expr e) = (do pure (.normal (some (← expr ops ctx none e)))) :=
    rfl
  rw [hunfold, M.exec_bind, he]

theorem stmts_nil (last : Option Value) : (stmts ops ctx last []).exec r = (.ok (.normal last), r) := by
  rw [stmts]
  rfl

theorem stmts_cons_normal {s : Stmt} {rest : List Stmt} {last v : Option Value}
    (hs : (stmt ops ctx [] s).exec r = (.ok (.normal v), r')) :
    (stmts ops ctx last (s :: rest)).exec r = (stmts ops ctx (v <|> last) rest).exec r' := by
  rw [stmts, M.exec_bind, hs]

theorem stmts_cons_error {s : Stmt} {rest : List Stmt} {last : Option Value} {f : Fault}
    (hs : (stmt ops ctx [] s).exec r = (.error f, r')) :
    (stmts ops ctx last (s :: rest)).exec r = (.error f, r') := by
  rw [stmts, M.exec_bind, hs]

theorem stmts_cons_ret {s : Stmt} {rest : List Stmt} {last : Option Value} {v : Value}
    (hs : (stmt ops ctx [] s).exec r = (.ok (.ret v), r')) :
    (stmts ops ctx last (s :: rest)).exec r = (.ok (.ret v), r') := by
  rw [stmts, M.exec_bind, hs]
  rfl

end Eval

def Param.plain (n : String) : Param := .mk (.name n) none false

def Completion.returned : Completion → Value
  | .ret v => v
  | _ => .undefined

def callScope (c : Closure) (callee : Nat) (thisV newTarget : Value) (ao : Nat) (ns : List String)
    (args : List Value) : Scope :=
  (ns.zip args).foldl (fun s p => s.bind p.1 ⟨p.2, true, true⟩)
    (({ parent := some c.scope, this? := some thisV,
        frame? := some { callee, home := c.home, newTarget } } : Scope).bind
      "arguments" ⟨.obj ao, true, true⟩)

def fieldScope (c : Closure) (ctor o : Nat) : Scope where
  parent := some c.scope
  this? := some (.obj o)
  frame? := some { callee := ctor, home := c.home, newTarget := .undefined }

section CallScope

variable (c : Closure) (callee : Nat) (thisV newTarget : Value) (ao : Nat) (ns : List String)
  (args : List Value)

theorem foldl_bind_frame (l : List (String × Value)) (s : Scope) :
    (l.foldl (fun s p => s.bind p.1 ⟨p.2, true, true⟩) s).this? = s.this? ∧
    (l.foldl (fun s p => s.bind p.1 ⟨p.2, true, true⟩) s).thisPending = s.thisPending ∧
    (l.foldl (fun s p => s.bind p.1 ⟨p.2, true, true⟩) s).parent = s.parent := by
  induction l generalizing s with
  | nil => exact ⟨rfl, rfl, rfl⟩
  | cons p l ih =>
    obtain ⟨h₁, h₂, h₃⟩ := ih (s.bind p.1 ⟨p.2, true, true⟩)
    exact ⟨h₁.trans (Scope.this?_bind _ _ _), h₂.trans (Scope.thisPending_bind _ _ _),
      h₃.trans (Scope.parent_bind _ _ _)⟩

@[simp] theorem callScope_this? : (callScope c callee thisV newTarget ao ns args).this? = some thisV := by
  simp [callScope, (foldl_bind_frame _ _).1]

@[simp] theorem callScope_thisPending :
    (callScope c callee thisV newTarget ao ns args).thisPending = false := by
  simp [callScope, (foldl_bind_frame _ _).2.1]

@[simp] theorem callScope_parent :
    (callScope c callee thisV newTarget ao ns args).parent = some c.scope := by
  simp [callScope, (foldl_bind_frame _ _).2.2]

theorem callScope_find?_one {n m : String} (v : Value) :
    (callScope c callee thisV newTarget ao [n] [v]).find? n = some ⟨v, true, true⟩ ∧
      (m ≠ n → m ≠ "arguments" → (callScope c callee thisV newTarget ao [n] [v]).find? m = none) := by
  refine ⟨Scope.find?_bind_self _ _ _, fun hn ha => ?_⟩
  simp only [callScope, List.zip_cons_cons, List.zip_nil_right, List.foldl_cons, List.foldl_nil]
  rw [Scope.find?_bind_ne _ _ (Ne.symm hn), Scope.find?_bind_ne _ _ (Ne.symm ha)]
  simp [Scope.find?]

theorem callScope_find?_two {n₁ n₂ : String} (hn : n₁ ≠ n₂) (v₁ v₂ : Value) :
    (callScope c callee thisV newTarget ao [n₁, n₂] [v₁, v₂]).find? n₁ = some ⟨v₁, true, true⟩ ∧
      (callScope c callee thisV newTarget ao [n₁, n₂] [v₁, v₂]).find? n₂ = some ⟨v₂, true, true⟩ := by
  simp only [callScope, List.zip_cons_cons, List.zip_nil_right, List.foldl_cons, List.foldl_nil]
  exact ⟨(Scope.find?_bind_ne _ _ (Ne.symm hn)).trans (Scope.find?_bind_self _ _ _),
    Scope.find?_bind_self _ _ _⟩

end CallScope

namespace Invoke

theorem bindParams_plain (ops : Ops) (ctx : Ctx) (ns : List String) (args : List Value)
    (xs : Array Scope) (hsc : ctx.scope = xs.size) (hlen : args.length = ns.length) (R : Realm)
    (s : Scope) (hR : R.scopes = xs.push s) :
    (bindParams ops ctx (ns.map Param.plain) args).exec R =
      (.ok (), { R with
        scopes := xs.push ((ns.zip args).foldl (fun s p => s.bind p.1 ⟨p.2, true, true⟩) s) }) := by
  induction ns generalizing args R s with
  | nil =>
    cases args with
    | nil =>
      cases R
      simp_all
      rfl
    | cons _ _ => simp at hlen
  | cons n ns ih =>
    cases args with
    | nil => simp at hlen
    | cons a args =>
      have hrest := ih args (by simpa using hlen) (R.modifyScope ctx.scope (·.bind n ⟨a, true, true⟩))
        (s.bind n ⟨a, true, true⟩) (by simp [Realm.modifyScope, hR, hsc, Array.modify_push_size])
      simp only [List.map_cons, bindParams, Param.plain, Bool.false_eq_true, if_false,
        M.exec_bind, Eval.defaultOf, M.exec_pure]
      rw [Eval.bindPattern_name]
      simp only [Eval.bindName, Env.declare, M.exec_modify]
      rw [hrest]
      simp [Realm.modifyScope]

theorem argumentsObject_exec (args : List Value) :
    ∃ A : Obj, ∀ r : Realm,
      (argumentsObject args).exec r = (.ok r.heap.size, { r with heap := r.heap.push A }) :=
  ⟨_, fun _ => rfl⟩

theorem runFunction_exec (ops : Ops) (c : Closure) (callee : Nat) (thisV newTarget : Value)
    {args : List Value} {name : Option String} {ns : List String} {body : List Stmt} {kind : FunKind}
    (hf : c.func = .mk name (ns.map Param.plain) body kind true) (hlex : c.thisLexical = false)
    (hlen : args.length = ns.length) (hvars : Hoist.varNamesList body = [])
    (hlexs : Hoist.lexicals body = []) (hfuns : Hoist.functions body = []) (r : Realm) :
    ∃ A : Obj, (runFunction ops c callee (some thisV) args newTarget).exec r =
      match (Eval.stmts ops ⟨r.scopes.size, true⟩ none body).exec
          { r with heap := r.heap.push A,
                   scopes := r.scopes.push (callScope c callee thisV newTarget r.heap.size ns args) } with
      | (.ok cmp, r') => (.ok (cmp.returned, (r'.scope r.scopes.size).this?), r')
      | (.error e, r') => (.error e, r') := by
  obtain ⟨A, hA⟩ := argumentsObject_exec args
  refine ⟨A, ?_⟩
  simp only [runFunction, hf, hlex, Func.strict, Func.params, Func.body, hvars, hlexs, hfuns,
    Bool.false_eq_true, if_false, Bool.not_false, if_true, Option.isNone_some, Bool.and_false,
    Hoist.dedup, List.foldl_nil, List.forIn_nil, M.exec_bind, M.exec_pure, M.exec_modifyGet,
    Realm.newScope, hA, Env.declare, M.exec_modify, Realm.modifyScope, Array.modify_push_size]
  rw [bindParams_plain ops _ ns args r.scopes rfl hlen _ _ rfl]
  simp only [callScope]
  split
  · rename_i cmp r' hrun
    rw [hrun]
    cases cmp <;> rfl
  · rename_i e r' hrun
    rw [hrun]

theorem fieldValue_num {ops : Ops} {c : Closure} {ctor o : Nat} {k : Key} {z : Float} (r : Realm) :
    (fieldValue ops c ctor o ⟨k, some (.num z)⟩).exec r =
      (.ok (.num z), (r.newScope (fieldScope c ctor o)).2) := by
  simp only [fieldValue, M.exec_bind, M.exec_modifyGet, M.exec_get]
  rw [Eval.expr]
  rfl

end Invoke

namespace Calls

variable {r : Realm}

theorem inFrame_exec (body : M α) (h : r.depth < r.limits.recursion) :
    (inFrame body).exec r =
      match body.exec { r with depth := r.depth + 1, loops := 0 } with
      | (.ok v, r') => (.ok v, { r' with depth := r.depth, loops := r.loops })
      | (.error e, r') => (.error e, { r' with depth := r.depth, loops := r.loops }) := by
  simp only [inFrame, M.exec_bind, M.exec_get, Nat.not_le.mpr h, if_false, M.exec_pure, M.exec_set,
    M.exec_tryCatch]
  rcases body.exec { r with depth := r.depth + 1, loops := 0 } with ⟨_ | v, r'⟩ <;> rfl

theorem inFrame_runFunction (ops : Ops) (c : Closure) (callee : Nat) (thisV newTarget : Value)
    (args : List Value) {name : Option String} {ns : List String} {body : List Stmt} {kind : FunKind}
    (hf : c.func = .mk name (ns.map Param.plain) body kind true) (hlex : c.thisLexical = false)
    (hlen : args.length = ns.length) (hvars : Hoist.varNamesList body = [])
    (hlexs : Hoist.lexicals body = []) (hfuns : Hoist.functions body = [])
    (hdepth : r.depth < r.limits.recursion) :
    ∃ A : Obj, (∀ {cmp : Completion} {R' : Realm},
      (Eval.stmts ops ⟨r.scopes.size, true⟩ none body).exec
        (r.enter A (callScope c callee thisV newTarget r.heap.size ns args)) = (.ok cmp, R') →
      (inFrame (Invoke.runFunction ops c callee (some thisV) args newTarget)).exec r =
        (.ok (cmp.returned, (R'.scope r.scopes.size).this?),
          { R' with depth := r.depth, loops := r.loops })) ∧
    (∀ {f : Fault} {R' : Realm},
      (Eval.stmts ops ⟨r.scopes.size, true⟩ none body).exec
        (r.enter A (callScope c callee thisV newTarget r.heap.size ns args)) = (.error f, R') →
      (inFrame (Invoke.runFunction ops c callee (some thisV) args newTarget)).exec r =
        (.error f, { R' with depth := r.depth, loops := r.loops })) := by
  obtain ⟨A, hrun⟩ := Invoke.runFunction_exec ops c callee thisV newTarget hf hlex hlen hvars hlexs
    hfuns { r with depth := r.depth + 1, loops := 0 }
  have hstart : (Eval.stmts ops ⟨r.scopes.size, true⟩ none body).exec
      (r.enter A (callScope c callee thisV newTarget r.heap.size ns args)) =
      (Eval.stmts ops ⟨({ r with depth := r.depth + 1, loops := 0 } : Realm).scopes.size, true⟩ none
        body).exec { ({ r with depth := r.depth + 1, loops := 0 } : Realm) with
          heap := r.heap.push A,
          scopes := r.scopes.push (callScope c callee thisV newTarget r.heap.size ns args) } := rfl
  refine ⟨A, fun hbody => ?_, fun hbody => ?_⟩
  · rw [inFrame_exec _ hdepth, hrun, ← hstart, hbody]
  · rw [inFrame_exec _ hdepth, hrun, ← hstart, hbody]

theorem inFrame_limit (body : M α) (h : r.limits.recursion ≤ r.depth) :
    (inFrame body).exec r = (.error (.limit recursionMessage), r) := by
  simp only [inFrame, M.exec_bind, M.exec_get, h, if_true, M.exec_throw]

theorem callAt_closure {fo : Nat} {c : Closure} {thisV : Value} {args : List Value}
    (hk : (r.obj fo).kind = .closure c) (hcls : c.isClass = false) (f : Nat) :
    (callAt (f + 1) (.obj fo) thisV args).exec r =
      (do let v ← inFrame (Invoke.runFunction (opsWith f) c fo (some thisV) args .undefined); pure v.1 :
        M Value).exec r := by
  rw [callAt, M.exec_bind, M.exec_obj]
  simp only [hk, hcls, Bool.false_eq_true, if_false]
  rfl

theorem constructAt_base {F : Nat} {c : Closure} {args : List Value} {nt : Value}
    (hcons : r.isConstructor (.obj F) = true) (hk : (r.obj F).kind = .closure c)
    (hh : c.heritage = none) (f : Nat) :
    (constructAt (f + 1) (.obj F) args nt).exec r =
      (do
        let proto ← Builtins.protoFor (opsWith f) (some nt) .objectPrototype
        let t ← M.newObject (some proto)
        initFields (opsWith f) c F t c.fields
        let (res, _) ← inFrame (Invoke.runFunction (opsWith f) c F (some (.obj t)) args nt)
        match res with
        | .obj _ => pure res
        | _ => pure (.obj t) : M Value).exec r := by
  rw [constructAt, M.exec_bind, M.exec_get]
  simp only [hcons, Bool.not_true, Bool.false_eq_true, if_false, M.exec_bind, M.exec_obj, hk, hh]
  rfl

theorem initFields_numbers (ops : Ops) (c : Closure) (ctor o : Nat) (kz : List (Key × Float))
    (hnamed : ∀ p ∈ kz, p.1.index? = none) (hdistinct : kz.Pairwise fun p q => (p.1 == q.1) = false)
    (r : Realm) (hdepth : r.depth < r.limits.recursion) (hk : (r.obj o).kind = .ordinary)
    (hext : (r.obj o).extensible = true) (ho : o < r.heap.size)
    (hfresh : ∀ p ∈ kz, (r.obj o).props.find? p.1 = none) :
    ∃ r', (initFields ops c ctor o (kz.map fun p => ⟨p.1, some (.num p.2)⟩)).exec r = (.ok (), r') ∧
      r.Extends r' (· = o) ∧
      r'.obj o = { r.obj o with
        props := kz.foldl (fun t p => t.insert p.1 (Property.plain (.num p.2))) (r.obj o).props } := by
  induction kz generalizing r with
  | nil => exact ⟨r, rfl, .refl r _, rfl⟩
  | cons p rest ih =>
    obtain ⟨k, z⟩ := p
    let r₃ : Realm := { (({ r with depth := r.depth + 1, loops := 0 } : Realm).newScope
      (fieldScope c ctor o)).2 with depth := r.depth, loops := r.loops }
    have hframe : (inFrame (Invoke.fieldValue ops c ctor o ⟨k, some (.num z)⟩)).exec r =
        (.ok (.num z), r₃) := by
      rw [inFrame_exec _ hdepth, Invoke.fieldValue_num]
    have hobj : r₃.obj o = r.obj o := rfl
    have hfresh_k : (r₃.obj o).props.find? k = none := hobj ▸ hfresh (k, z) (by simp)
    have hdef : (Objects.createDataOrThrow ops o k (.num z)).exec r₃ =
        (.ok (), r₃.putProp o k (Property.plain (.num z))) :=
      Objects.createDataOrThrow_fresh (hobj ▸ hk) (hobj ▸ hext) hfresh_k _
    let r₄ := r₃.putProp o k (Property.plain (.num z))
    have h₄ : r.Extends r₄ (· = o) :=
      ((((Realm.Extends.refl _ _).newScope (fieldScope c ctor o)).frame).putProp o k _).mono
        fun _ _ hi => hi.elim False.elim id
    have hobj₄ : r₄.obj o =
        { r.obj o with props := (r.obj o).props.insert k (Property.plain (.num z)) } := by
      rw [Realm.obj_putProp_self (show o < r₃.heap.size from ho), hobj]
    obtain ⟨r', hrun, hext', hobj'⟩ := ih (fun q hq => hnamed q (List.mem_cons_of_mem _ hq))
      (List.pairwise_cons.mp hdistinct).2 r₄ hdepth (by simp [hobj₄, hk]) (by simp [hobj₄, hext])
      (by simp only [r₄, Realm.putProp, Realm.heap_size_modifyObj]; exact ho)
      (fun q hq => by
        rw [hobj₄]
        simp only
        rw [Table.find?_insert_ne _ _ (hnamed _ (by simp)) (hnamed q (List.mem_cons_of_mem _ hq))
          ((List.pairwise_cons.mp hdistinct).1 q hq)]
        exact hfresh q (List.mem_cons_of_mem _ hq))
    refine ⟨r', ?_, (h₄.trans hext').mono fun _ _ hi => hi.elim id id, ?_⟩
    · simp only [List.map_cons, initFields, M.exec_bind, hframe, hdef]
      exact hrun
    · rw [hobj', hobj₄]
      simp

end Calls

end ScriptBridge.Script
