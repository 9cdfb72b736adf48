import ScriptBridge.Proofs.SegmentTest

/-!
# `contains` after the ends have moved

`contains` reads the coordinates of the line's ends when it is called, so what it answers follows
every change a host program made to the end objects before, through whatever wrapper. An `Edit`
is one such change: `set_x`, `set_y` or `move_by` through a point wrapper. Each writes only the
coordinates of its object (`Realm.CoordEdit`): every other object, every scope, and every other
property of the object stay as they were, so both classes, the line's ends and its being a line
stay too. A run of edits on points of the bundled class leaves them holding the coordinates
`Edit.applyAll` computes from the edits alone (`Edit.runAll_tracks`), and `contains` then answers
for the moved segment (`contains_after_edits`).
-/

namespace ScriptBridge.Script

namespace Realm

/-- `r'` is what writes of coordinates leave of `r`, writing only objects in `t`: the heap and the
scope store only grew, the old scopes and the limits are as they were, and so is every old object
outside `t`; every old object keeps its kind, its prototype and each own property other than `x`
and `y`. -/
structure CoordEdit (r r' : Realm) (t : Nat → Prop) : Prop where
  heap_le : r.heap.size ≤ r'.heap.size
  obj_eq : ∀ i < r.heap.size, ¬ t i → r'.obj i = r.obj i
  scopes_le : r.scopes.size ≤ r'.scopes.size
  scope_eq : ∀ i < r.scopes.size, r'.scope i = r.scope i
  limits_eq : r'.limits = r.limits
  kind_eq : ∀ i < r.heap.size, (r'.obj i).kind = (r.obj i).kind
  proto_eq : ∀ i < r.heap.size, (r'.obj i).proto = (r.obj i).proto
  find?_eq : ∀ i < r.heap.size, ∀ n : String, (Key.ofString n).index? = none ∧ n ≠ "x" ∧ n ≠ "y" →
    (r'.obj i).props.find? (Key.ofString n) = (r.obj i).props.find? (Key.ofString n)

namespace CoordEdit

variable {r r' r'' : Realm} {t : Nat → Prop}

theorem refl (r : Realm) (t : Nat → Prop) : r.CoordEdit r t :=
  ⟨le_rfl, fun _ _ _ => rfl, le_rfl, fun _ _ => rfl, rfl, fun _ _ => rfl, fun _ _ => rfl,
    fun _ _ _ _ => rfl⟩

theorem trans (h₁ : r.CoordEdit r' t) (h₂ : r'.CoordEdit r'' t) : r.CoordEdit r'' t where
  heap_le := h₁.heap_le.trans h₂.heap_le
  obj_eq i hi hti := (h₂.obj_eq i (lt_of_lt_of_le hi h₁.heap_le) hti).trans (h₁.obj_eq i hi hti)
  scopes_le := h₁.scopes_le.trans h₂.scopes_le
  scope_eq i hi := (h₂.scope_eq i (lt_of_lt_of_le hi h₁.scopes_le)).trans (h₁.scope_eq i hi)
  limits_eq := h₂.limits_eq.trans h₁.limits_eq
  kind_eq i hi := (h₂.kind_eq i (lt_of_lt_of_le hi h₁.heap_le)).trans (h₁.kind_eq i hi)
  proto_eq i hi := (h₂.proto_eq i (lt_of_lt_of_le hi h₁.heap_le)).trans (h₁.proto_eq i hi)
  find?_eq i hi n hn := (h₂.find?_eq i (lt_of_lt_of_le hi h₁.heap_le) n hn).trans (h₁.find?_eq i hi n hn)

theorem mono {t' : Nat → Prop} (h : r.CoordEdit r' t) (ht : ∀ i, t i → t' i) : r.CoordEdit r' t' :=
  { h with obj_eq := fun i hi hti => h.obj_eq i hi (fun h' => hti (ht i h')) }

theorem of_extends {o : Nat} (he : ({ r with depth := 0, loops := 0, site := none } : Realm).Extends r' (· = o))
    (hkind : (r'.obj o).kind = (r.obj o).kind) (hproto : (r'.obj o).proto = (r.obj o).proto)
    (hfind : ∀ n : String, (Key.ofString n).index? = none ∧ n ≠ "x" ∧ n ≠ "y" →
      (r'.obj o).props.find? (Key.ofString n) = (r.obj o).props.find? (Key.ofString n)) :
    r.CoordEdit r' (· = o) where
  heap_le := he.heap_le
  obj_eq := he.obj_eq
  scopes_le := he.scopes_le
  scope_eq := he.scope_eq
  limits_eq := he.limits_eq
  kind_eq i hi := by
    by_cases hio : i = o
    · rw [hio, hkind]
    · rw [he.obj_eq i hi hio]; rfl
  proto_eq i hi := by
    by_cases hio : i = o
    · rw [hio, hproto]
    · rw [he.obj_eq i hi hio]; rfl
  find?_eq i hi n hn := by
    by_cases hio : i = o
    · rw [hio, hfind n hn]
    · rw [he.obj_eq i hi hio]; rfl

theorem write {o : Nat} {n : String} (hn : n = "x" ∨ n = "y") (ho : o < r.heap.size) (p : Property) :
    r.CoordEdit (({ r with depth := 0, loops := 0, site := none } : Realm).putProp o (Key.ofString n) p)
      (· = o) := by
  have hself := Realm.obj_putProp_self (r := { r with depth := 0, loops := 0, site := none }) ho
    (Key.ofString n) p
  refine of_extends ((Extends.refl _ (· = o)).putProp_of_touched rfl _ _) (by rw [hself]; rfl)
    (by rw [hself]; rfl) fun m ⟨hm, hmx, hmy⟩ => ?_
  have hnm : n ≠ m := by rcases hn with rfl | rfl <;> exact Ne.symm ‹_›
  rw [hself]
  exact Table.find?_insert_ne _ _ (by rcases hn with rfl | rfl <;> decide) hm (Key.ofString_beq_of_ne hnm)

theorem hasData {o : Nat} {n : String} {v : Value} (he : r.CoordEdit r' t) (h : r.HasData o n v)
    (hn : (Key.ofString n).index? = none ∧ n ≠ "x" ∧ n ≠ "y") : r'.HasData o n v := by
  obtain ⟨hk, w, e, c, hp⟩ := h
  have ho := lt_size_of_find? hp
  refine ⟨?_, w, e, c, ?_⟩
  · rw [he.kind_eq o ho]; exact hk
  · rw [he.find?_eq o ho n hn]; exact hp

theorem hasData_of_not {o : Nat} {n : String} {v : Value} (he : r.CoordEdit r' t) (h : r.HasData o n v)
    (ho : ¬ t o) : r'.HasData o n v := by
  rw [HasData, he.obj_eq o h.lt_size ho]
  exact h

end CoordEdit

def WritableCoords (r : Realm) (o : Nat) (q : Float × Float) : Prop :=
  (∃ e c, (r.obj o).props.find? (Key.ofString "x") = some ⟨.data (.num q.1) true, e, c⟩) ∧
  (∃ e c, (r.obj o).props.find? (Key.ofString "y") = some ⟨.data (.num q.2) true, e, c⟩)

theorem WritableCoords.hasData {r : Realm} {o : Nat} {q : Float × Float} (h : r.WritableCoords o q)
    (hk : (r.obj o).kind = .ordinary) : r.HasData o "x" (.num q.1) ∧ r.HasData o "y" (.num q.2) :=
  let ⟨⟨e, c, hx⟩, ⟨e', c', hy⟩⟩ := h
  ⟨⟨ObjKind.ownIsTable_of_ordinary hk, true, e, c, hx⟩, ⟨ObjKind.ownIsTable_of_ordinary hk, true, e', c', hy⟩⟩

theorem WritableCoords.lt_size {r : Realm} {o : Nat} {q : Float × Float} (h : r.WritableCoords o q) :
    o < r.heap.size :=
  let ⟨⟨_, _, hx⟩, _⟩ := h
  lt_size_of_find? hx

end Realm

theorem named_keys :
    ∀ n ∈ ["prototype", "plus", "move", "contains", "start", "end", "Math", "max", "min"],
      (Key.ofString n).index? = none ∧ n ≠ "x" ∧ n ≠ "y" := by
  decide

variable {r r' : Realm} {t : Nat → Prop}

theorem PointClass.Holds.coordEdit {pc : PointClass} (h : pc.Holds r) (he : r.CoordEdit r' t) :
    pc.Holds r' := by
  have hctor := Realm.lt_size_of_find? h.ctor_prototype
  have hproto := Realm.lt_size_of_find? h.proto_plus
  have hplus := Realm.lt_size_of_closure h.plus_kind
  have hmove := Realm.lt_size_of_closure h.move_kind
  exact ⟨(he.kind_eq _ hctor).trans h.ctor_kind,
    (he.find?_eq _ hctor "prototype" (named_keys _ (by simp))).trans h.ctor_prototype,
    (he.kind_eq _ hproto).trans h.proto_kind,
    (he.find?_eq _ hproto "plus" (named_keys _ (by simp))).trans h.proto_plus,
    (he.find?_eq _ hproto "move" (named_keys _ (by simp))).trans h.proto_move,
    (he.kind_eq _ hplus).trans h.plus_kind, (he.kind_eq _ hmove).trans h.move_kind,
    (he.scope_eq _ (Realm.lt_scopes_size_of_find? h.scope_binds)) ▸ h.scope_binds⟩

theorem PointClass.IsInstance.coordEdit {pc : PointClass} {o : Nat} (h : pc.IsInstance r o)
    (he : r.CoordEdit r' t) (ho : o < r.heap.size) : pc.IsInstance r' o :=
  ⟨(he.kind_eq o ho).trans h.kind, (he.proto_eq o ho).trans h.proto,
    (he.find?_eq o ho "plus" (named_keys _ (by simp))).trans h.no_plus,
    (he.find?_eq o ho "move" (named_keys _ (by simp))).trans h.no_move⟩

theorem LineClass.Holds.coordEdit {lc : LineClass} (h : lc.Holds r) (he : r.CoordEdit r' t) :
    lc.Holds r' := by
  have hproto := Realm.lt_size_of_find? h.proto_contains
  have hcontains := Realm.lt_size_of_closure h.contains_kind
  have hscope := he.scope_eq lc.scope h.scope_lt
  have htop := he.scope_eq Realm.globalScope (Nat.lt_of_le_of_lt (Nat.zero_le _) h.scope_lt)
  exact ⟨(he.kind_eq _ hproto).trans h.proto_kind,
    (he.find?_eq _ hproto "contains" (named_keys _ (by simp))).trans h.proto_contains,
    (he.kind_eq _ hcontains).trans h.contains_kind, hscope ▸ h.scope_parent, hscope ▸ h.scope_math,
    htop ▸ h.top_parent, htop ▸ h.top_math, he.hasData h.global_math (named_keys _ (by simp)),
    he.hasData h.math_max (named_keys _ (by simp)), he.hasData h.math_min (named_keys _ (by simp)),
    (he.kind_eq _ (Realm.lt_size_of_native h.max_kind)).trans h.max_kind,
    (he.kind_eq _ (Realm.lt_size_of_native h.min_kind)).trans h.min_kind⟩

theorem LineClass.IsInstance.coordEdit {lc : LineClass} {o : Nat} (h : lc.IsInstance r o)
    (he : r.CoordEdit r' t) (ho : o < r.heap.size) : lc.IsInstance r' o :=
  ⟨(he.kind_eq o ho).trans h.kind, (he.proto_eq o ho).trans h.proto,
    (he.find?_eq o ho "contains" (named_keys _ (by simp))).trans h.no_contains⟩

end ScriptBridge.Script

namespace ScriptBridge.Wrapper

open ScriptBridge.Host ScriptBridge.Script

theorem World.withRealm_self (w : World) : w.withRealm w.host.engine.realm = w := rfl

/-- One change a host program makes to a point through a wrapper. -/
inductive Edit where
  | setX (p : Wrapper) (v : Float)
  | setY (p : Wrapper) (v : Float)
  | moveBy (p : Wrapper) (dx dy : Float)

namespace Edit

def run : Edit → Op Unit
  | setX p v => Point.setX p v
  | setY p v => Point.setY p v
  | moveBy p dx dy => do
    let _ ← Point.moveBy p dx dy
    pure ()

def target : Edit → Nat
  | setX p _ | setY p _ | moveBy p _ _ => p.source.ref

def move : Edit → Float × Float → Float × Float
  | setX _ v, q => (v, q.2)
  | setY _ v, q => (q.1, v)
  | moveBy _ dx dy, q => (q.1 + dx, q.2 + dy)

def apply (e : Edit) (c : Nat → Float × Float) : Nat → Float × Float :=
  Function.update c e.target (e.move (c e.target))

def runAll : List Edit → Op Unit
  | [] => pure ()
  | e :: es => do e.run; runAll es

def applyAll (es : List Edit) (c : Nat → Float × Float) : Nat → Float × Float :=
  es.foldl (fun c e => e.apply c) c

variable {P : Nat → Prop}

theorem applyAll_of_not {es : List Edit} {o : Nat} (hes : ∀ e ∈ es, P e.target) (ho : ¬ P o)
    (c : Nat → Float × Float) : applyAll es c o = c o := by
  induction es generalizing c with
  | nil => rfl
  | cons e es ih =>
    have hne : o ≠ e.target := fun h => ho (h ▸ hes e List.mem_cons_self)
    show applyAll es (e.apply c) o = c o
    rw [ih (fun e' he' => hes e' (List.mem_cons_of_mem _ he')), apply, Function.update_of_ne hne]

/-- What edits of the objects `P`, points of the class `pc`, keep from the realm `R` they
started in: `r` differs from `R` only in coordinates of objects in `P`, each still an instance
holding the writable coordinates `c`. -/
structure Tracks (pc : PointClass) (R r : Realm) (P : Nat → Prop) (c : Nat → Float × Float) : Prop where
  edit : R.CoordEdit r P
  inst : ∀ o, P o → pc.IsInstance r o
  coords : ∀ o, P o → r.WritableCoords o (c o)

variable {pc : PointClass} {R r : Realm} {c : Nat → Float × Float}

theorem Tracks.update {r' : Realm} {o : Nat} {q : Float × Float} (ht : Tracks pc R r P c) (ho : P o)
    (he : r.CoordEdit r' (· = o)) (hq : r'.WritableCoords o q) :
    Tracks pc R r' P (Function.update c o q) where
  edit := ht.edit.trans (he.mono fun i hi => hi ▸ ho)
  inst o' ho' := (ht.inst o' ho').coordEdit he (ht.coords o' ho').lt_size
  coords o' ho' := by
    by_cases h : o' = o
    · subst h
      rw [Function.update_self]
      exact hq
    · rw [Function.update_of_ne h, Realm.WritableCoords, he.obj_eq o' (ht.coords o' ho').lt_size h]
      exact ht.coords o' ho'

theorem write_coord {o : Nat} {n : String} {v : Float} {e c' : Bool}
    (hk : (r.obj o).kind = .ordinary) (hp : (r.obj o).props.find? (Key.ofString n) = some ⟨.data (.num v) true, e, c'⟩)
    (u : Float) (w : World) :
    (Op.host (Host.setProperty ⟨o⟩ n (.number u))).exec (w.withRealm r) =
      (.ok (), w.withRealm (({ r with depth := 0, loops := 0, site := none } : Realm).putProp o
        (Key.ofString n) ⟨.data (.num u) true, e, c'⟩)) := by
  rw [Op.exec_host, setProperty_writable (h := (w.withRealm r).host) (t := ⟨o⟩) rfl hk hp]
  rfl

theorem Tracks.step (hpc : pc.Holds R) (hrec : 0 < R.limits.recursion) (ht : Tracks pc R r P c)
    {e : Edit} (he : P e.target) (w : World) :
    ∃ r', e.run.exec (w.withRealm r) = (.ok (), w.withRealm r') ∧ Tracks pc R r' P (e.apply c) := by
  cases e <;> dsimp only [target] at he <;>
    obtain ⟨⟨ex, cx, hx⟩, ⟨ey, cy, hy⟩⟩ := ht.coords _ he <;>
    have hk := (ht.inst _ he).kind <;> have ho := (ht.coords _ he).lt_size
  case setX p v =>
    show ∃ r', (Point.setX p v).exec (w.withRealm r) = _ ∧
      Tracks pc R r' P (Function.update c p.source.ref (v, (c p.source.ref).2))
    have hself := Realm.obj_putProp_self (r := { r with depth := 0, loops := 0, site := none }) ho
      (Key.ofString "x") ⟨.data (.num v) true, ex, cx⟩
    refine ⟨_, write_coord hk hx v w, ht.update he (Realm.CoordEdit.write (.inl rfl) ho _)
      ⟨⟨ex, cx, ?_⟩, ⟨ey, cy, ?_⟩⟩⟩
    · rw [hself, Table.find?_insert_self]
    · rw [hself, Table.find?_insert_ne _ _ PointClass.keys_named.1 PointClass.keys_named.2.1
        (Key.ofString_beq_of_ne (show "x" ≠ "y" by decide))]
      exact hy
  case setY p v =>
    show ∃ r', (Point.setY p v).exec (w.withRealm r) = _ ∧
      Tracks pc R r' P (Function.update c p.source.ref ((c p.source.ref).1, v))
    have hself := Realm.obj_putProp_self (r := { r with depth := 0, loops := 0, site := none }) ho
      (Key.ofString "y") ⟨.data (.num v) true, ey, cy⟩
    refine ⟨_, write_coord hk hy v w, ht.update he (Realm.CoordEdit.write (.inr rfl) ho _)
      ⟨⟨ex, cx, ?_⟩, ⟨ey, cy, ?_⟩⟩⟩
    · rw [hself, Table.find?_insert_ne _ _ PointClass.keys_named.2.1 PointClass.keys_named.1
        (Key.ofString_beq_of_ne (show "y" ≠ "x" by decide))]
      exact hx
    · rw [hself, Table.find?_insert_self]
  case moveBy p dx dy =>
    show ∃ r', (run (.moveBy p dx dy)).exec (w.withRealm r) = _ ∧
      Tracks pc R r' P (Function.update c p.source.ref ((c p.source.ref).1 + dx, (c p.source.ref).2 + dy))
    have hrec' : 0 < r.limits.recursion := by rw [ht.edit.limits_eq]; exact hrec
    obtain ⟨r', hrun, hext, hobj⟩ := Point.moveBy_bundled (w := w.withRealm r) (p := p)
      (hpc.coordEdit ht.edit) (ht.inst _ he) hx hy hrec' dx dy
    refine ⟨r', ?_, ht.update he (Realm.CoordEdit.of_extends hext (by rw [hobj]; dsimp only; rfl)
      (by rw [hobj]; dsimp only; rfl) fun n hn => ?_) ⟨⟨ex, cx, ?_⟩, ⟨ey, cy, ?_⟩⟩⟩
    · rw [run, Op.exec_bind, hrun]
      rfl
    · rw [hobj]
      exact PointClass.coords_find?_other _ _ _ hn.1 (Key.ofString_beq_of_ne (Ne.symm hn.2.1))
        (Key.ofString_beq_of_ne (Ne.symm hn.2.2))
    · rw [hobj]
      exact PointClass.coords_find?_x _ _ _
    · rw [hobj]
      exact PointClass.coords_find?_y _ _ _

theorem runAll_tracks (hpc : pc.Holds R) (hrec : 0 < R.limits.recursion) (w : World)
    {es : List Edit} (hes : ∀ e ∈ es, P e.target) (ht : Tracks pc R r P c) :
    ∃ r', (runAll es).exec (w.withRealm r) = (.ok (), w.withRealm r') ∧
      Tracks pc R r' P (applyAll es c) := by
  induction es generalizing r c with
  | nil => exact ⟨r, rfl, ht⟩
  | cons e es ih =>
    obtain ⟨r₁, hrun₁, ht₁⟩ := ht.step hpc hrec (hes e List.mem_cons_self) w
    obtain ⟨r₂, hrun₂, ht₂⟩ := ih (fun e' he' => hes e' (List.mem_cons_of_mem _ he')) ht₁
    refine ⟨r₂, ?_, ht₂⟩
    rw [runAll, Op.exec_bind, hrun₁]
    exact hrun₂

theorem Tracks.reads {es : List Edit} {o : Nat} (ht : Tracks pc R r P (applyAll es c))
    (hes : ∀ e ∈ es, P e.target) (h₀ : R.HasData o "x" (.num (c o).1) ∧ R.HasData o "y" (.num (c o).2)) :
    r.HasData o "x" (.num (applyAll es c o).1) ∧ r.HasData o "y" (.num (applyAll es c o).2) := by
  by_cases ho : P o
  · exact (ht.coords o ho).hasData (ht.inst o ho).kind
  · rw [applyAll_of_not hes ho]
    exact ⟨ht.edit.hasData_of_not h₀.1 ho, ht.edit.hasData_of_not h₀.2 ho⟩

end Edit

theorem Line.end_wrapper {l : Wrapper} {n : String} {a : Nat} {w : World}
    (hk : (w.host.engine.realm.obj l.source.ref).kind = .ordinary)
    (h : w.host.engine.realm.HasData l.source.ref n (.obj a)) :
    ∃ w', (do Line.asPoint (← Op.host (Host.getProperty l.source n)) : Op Wrapper).exec w =
      (.ok ⟨w.made, ⟨a⟩⟩, w') := by
  obtain ⟨-, _, _, _, hp⟩ := h
  rw [Op.exec_bind, Op.exec_host, getProperty_own w.host hk hp]
  exact ⟨_, rfl⟩

open ScriptBridge.Double in
/-- Segment membership of the bundled `Line` after its ends were edited. Take a line of the
bundled class whose own `start` and `end` are the objects `a` and `b`, a point wrapper `p`, and
the coordinates `c` that `a`, `b` and `p`'s object hold; and take edits through any wrappers of
points of the bundled `Point` class with writable coordinates (the objects `P`), the wrappers
`start` and `end` hand out among them. The edits all run, and `contains` then reads the
coordinates they left: when those are whole numbers of magnitude at most `2 ^ 25`, it answers
whether the point lies on the closed segment from the start to the end. -/
theorem contains_after_edits {pc : PointClass} {lc : LineClass} {w : World} {l p : Wrapper}
    {a b : Nat} {P : Nat → Prop} {c : Nat → Float × Float} {es : List Edit}
    {SX SY EX EY PX PY : ℤ} (hpc : pc.Holds w.host.engine.realm) (hlc : lc.Holds w.host.engine.realm)
    (hline : lc.IsInstance w.host.engine.realm l.source.ref)
    (hstart : w.host.engine.realm.HasData l.source.ref "start" (.obj a))
    (hend : w.host.engine.realm.HasData l.source.ref "end" (.obj b))
    (hpoints : ∀ o, P o → pc.IsInstance w.host.engine.realm o ∧ w.host.engine.realm.WritableCoords o (c o))
    (hcoords : ∀ o ∈ [a, b, p.source.ref],
      w.host.engine.realm.HasData o "x" (.num (c o).1) ∧ w.host.engine.realm.HasData o "y" (.num (c o).2))
    (hes : ∀ e ∈ es, P e.target) (hrec : 0 < w.host.engine.realm.limits.recursion)
    (hsx : SmallWhole (Edit.applyAll es c a).1 SX) (hsy : SmallWhole (Edit.applyAll es c a).2 SY)
    (hex : SmallWhole (Edit.applyAll es c b).1 EX) (hey : SmallWhole (Edit.applyAll es c b).2 EY)
    (hpx : SmallWhole (Edit.applyAll es c p.source.ref).1 PX)
    (hpy : SmallWhole (Edit.applyAll es c p.source.ref).2 PY) :
    (∃ w', (Line.start l).exec w = (.ok ⟨w.made, ⟨a⟩⟩, w')) ∧
    (∃ w', (Line.finish l).exec w = (.ok ⟨w.made, ⟨b⟩⟩, w')) ∧
    ∃ w', (Edit.runAll es).exec w = (.ok (), w') ∧ w'.made = w.made ∧
      ∃ ok w'', (Line.contains l p).exec w' = (.ok ok, w'') ∧
        (ok = true ↔ ((PX : ℚ), (PY : ℚ)) ∈ segment ℚ ((SX : ℚ), (SY : ℚ)) ((EX : ℚ), (EY : ℚ))) := by
  set R := w.host.engine.realm
  have ht₀ : Edit.Tracks pc R R P c :=
    ⟨.refl R P, fun o ho => (hpoints o ho).1, fun o ho => (hpoints o ho).2⟩
  obtain ⟨r, hrun, ht⟩ := Edit.runAll_tracks hpc hrec w hes ht₀
  rw [World.withRealm_self] at hrun
  set c' := Edit.applyAll es c
  have hA := ht.reads hes (hcoords a (by simp))
  have hB := ht.reads hes (hcoords b (by simp))
  have hQ := ht.reads hes (hcoords p.source.ref (by simp))
  let g : Segment := ⟨l.source.ref, a, b, p.source.ref, (c' a).1, (c' a).2, (c' b).1, (c' b).2,
    (c' p.source.ref).1, (c' p.source.ref).2⟩
  have hg : g.Holds r := ⟨ht.edit.hasData hstart (named_keys _ (by simp)),
    ht.edit.hasData hend (named_keys _ (by simp)), hA.1, hA.2, hB.1, hB.2, hQ.1, hQ.2⟩
  have hrec' : 0 < r.limits.recursion := by rw [ht.edit.limits_eq]; exact hrec
  obtain ⟨r', hcall, -⟩ := Line.contains_bundled (w := w.withRealm r) (g := g) (hlc.coordEdit ht.edit)
    (hline.coordEdit ht.edit hstart.lt_size) hg rfl rfl hrec'
  exact ⟨Line.end_wrapper hline.kind hstart, Line.end_wrapper hline.kind hend, w.withRealm r, hrun, rfl,
    _, _, hcall, LineClass.answer_iff_mem_segment hsx hsy hex hey hpx hpy⟩

end ScriptBridge.Wrapper

namespace ScriptBridge.Script.LineClass

def sample : LineClass := ⟨26, 2, 27, Intrinsic.math.ref, 20, 21⟩

def samplePoints : PointClass := ⟨22, 23, 1, 24, 25⟩

def sampleBuiltins : List Obj :=
  [{ proto := none, props := ({} : Table).insert (Key.ofString "Math") (Property.hidden (.obj 19)) },
   { proto := none, props := (({} : Table).insert (Key.ofString "max") (Property.hidden (.obj 20))).insert
      (Key.ofString "min") (Property.hidden (.obj 21)) },
   { proto := none, kind := .native .mathMax },
   { proto := none, kind := .native .mathMin }]

def sampleClasses : List Obj :=
  [{ proto := none, kind := .closure samplePoints.ctorClosure,
     props := ({} : Table).insert (Key.ofString "prototype") (Property.fixed (.obj 23)) },
   { proto := none, props := (({} : Table).insert (Key.ofString "plus") (Property.hidden (.obj 24))).insert
      (Key.ofString "move") (Property.hidden (.obj 25)) },
   { proto := none, kind := .closure (samplePoints.method PointClass.plusFunc) },
   { proto := none, kind := .closure (samplePoints.method PointClass.moveFunc) },
   { proto := none, props := ({} : Table).insert (Key.ofString "contains") (Property.hidden (.obj 27)) },
   { proto := none, kind := .closure sample.method },
   { proto := some 26, props := (({} : Table).insert (Key.ofString "start") (Property.plain (.obj 29))).insert
      (Key.ofString "end") (Property.plain (.obj 30)) }]

def sampleRealm (a b q : Obj) : Realm where
  heap := (List.replicate 18 default ++ sampleBuiltins ++ sampleClasses ++ [a, b, q]).toArray
  scopes := #[{}, { parent := some 0, names := #[("Point", ⟨.obj 22, false, true⟩)] }, { parent := some 0 }]

variable (a b q : Obj)

theorem samplePoints_holds : samplePoints.Holds (sampleRealm a b q) where
  ctor_kind := rfl
  ctor_prototype :=
    show (({} : Table).insert (Key.ofString "prototype") (Property.fixed (.obj 23))).find? _ = _ from
      Table.find?_insert_self _ _ _
  proto_kind := rfl
  proto_plus := show ((({} : Table).insert _ _).insert (Key.ofString "move") _).find? _ = _ from
    (Table.find?_insert_ne _ _ (by decide) (by decide) (Key.ofString_beq_of_ne (by decide))).trans
      (Table.find?_insert_self _ _ _)
  proto_move := show ((({} : Table).insert _ _).insert (Key.ofString "move") _).find? _ = _ from
    Table.find?_insert_self _ _ _
  plus_kind := rfl
  move_kind := rfl
  scope_binds := rfl

theorem sample_holds : sample.Holds (sampleRealm a b q) where
  proto_kind := rfl
  proto_contains :=
    show (({} : Table).insert (Key.ofString "contains") (Property.hidden (.obj 27))).find? _ = _ from
      Table.find?_insert_self _ _ _
  contains_kind := rfl
  scope_parent := rfl
  scope_math := rfl
  top_parent := rfl
  top_math := rfl
  global_math := ⟨rfl, _, _, _,
    show (({} : Table).insert (Key.ofString "Math") (Property.hidden (.obj 19))).find? _ = _ from
      Table.find?_insert_self _ _ _⟩
  math_max := ⟨rfl, _, _, _, show ((({} : Table).insert _ _).insert (Key.ofString "min") _).find? _ = _ from
    (Table.find?_insert_ne _ _ (by decide) (by decide) (Key.ofString_beq_of_ne (by decide))).trans
      (Table.find?_insert_self _ _ _)⟩
  math_min := ⟨rfl, _, _, _, show ((({} : Table).insert _ _).insert (Key.ofString "min") _).find? _ = _ from
    Table.find?_insert_self _ _ _⟩
  max_kind := rfl
  min_kind := rfl

theorem sample_line : sample.IsInstance (sampleRealm a b q) 28 ∧
    (sampleRealm a b q).HasData 28 "start" (.obj 29) ∧ (sampleRealm a b q).HasData 28 "end" (.obj 30) := by
  have hprops : (sampleRealm a b q).obj 28 = { proto := some 26, props := (({} : Table).insert
      (Key.ofString "start") (Property.plain (.obj 29))).insert (Key.ofString "end") (Property.plain (.obj 30)) } :=
    rfl
  refine ⟨⟨rfl, rfl, ?_⟩, ⟨rfl, true, true, true, ?_⟩, ⟨rfl, true, true, true, ?_⟩⟩ <;> rw [hprops]
  · rw [Table.find?_insert_ne _ _ (by decide) (by decide) (Key.ofString_beq_of_ne (by decide)),
      Table.find?_insert_ne _ _ (by decide) (by decide) (Key.ofString_beq_of_ne (by decide)), Table.find?_empty]
  · rw [Table.find?_insert_ne _ _ (by decide) (by decide) (Key.ofString_beq_of_ne (by decide)),
      Table.find?_insert_self]
    rfl
  · rw [Table.find?_insert_self]
    rfl

end ScriptBridge.Script.LineClass

namespace ScriptBridge.Double

theorem smallWhole_samples :
    SmallWhole 0 0 ∧ SmallWhole 3 3 ∧ SmallWhole ((2 : Float) + 2) 4 := by
  refine ⟨⟨?_, by decide⟩, ⟨?_, by decide⟩, ⟨?_, by decide⟩⟩ <;> unfold value
  · rw [show (0 : Float).toModel.unpack = .zero .positive from rfl]
    rfl
  · rw [show (3 : Float).toModel.unpack = .finite .positive (3 * 2 ^ 51) (-51) (by decide) from rfl]
    simp only [unpackedValue, Float.Model.UnpackedFloat.Sign.apply, Option.some.injEq]
    norm_num
  · rw [show ((2 : Float) + 2).toModel.unpack = .finite .positive (2 ^ 52) (-50) (by decide) from rfl]
    simp only [unpackedValue, Float.Model.UnpackedFloat.Sign.apply, Option.some.injEq]
    norm_num

end ScriptBridge.Double

namespace ScriptBridge.Wrapper

open ScriptBridge.Host ScriptBridge.Script ScriptBridge.Double

def lineWorld : World :=
  { host := { (default : Host) with engine := ⟨LineClass.sampleRealm (LineClass.samplePoints.made 0 0)
      (LineClass.samplePoints.made 2 2) (LineClass.samplePoints.made 3 3)⟩ }, made := 2 }

def lineCoords (o : Nat) : Float × Float :=
  if o = 30 then (2, 2) else if o = 31 then (3, 3) else (0, 0)

theorem made_point {r : Realm} {pc : PointClass} {o : Nat} {x y : Float} (h : r.obj o = pc.made x y) :
    pc.IsInstance r o ∧ r.WritableCoords o (x, y) ∧ r.HasData o "x" (.num x) ∧ r.HasData o "y" (.num y) := by
  have hinst := PointClass.made_isInstance h
  have hx : (r.obj o).props.find? (Key.ofString "x") = some (Property.plain (.num x)) := by
    rw [h]; exact PointClass.madeProps_x x y
  have hy : (r.obj o).props.find? (Key.ofString "y") = some (Property.plain (.num y)) := by
    rw [h]; exact PointClass.madeProps_y x y
  have hw : r.WritableCoords o (x, y) := ⟨⟨true, true, hx⟩, ⟨true, true, hy⟩⟩
  exact ⟨hinst, hw, hw.hasData hinst.kind⟩

theorem contains_after_moving_end :
    (∃ w', (Line.start ⟨0, ⟨28⟩⟩).exec lineWorld = (.ok ⟨2, ⟨29⟩⟩, w')) ∧
    (∃ w', (Line.finish ⟨0, ⟨28⟩⟩).exec lineWorld = (.ok ⟨2, ⟨30⟩⟩, w')) ∧
    ∃ w', (Edit.runAll [.moveBy ⟨2, ⟨30⟩⟩ 2 2]).exec lineWorld = (.ok (), w') ∧ w'.made = 2 ∧
      ∃ ok w'', (Line.contains ⟨0, ⟨28⟩⟩ ⟨1, ⟨31⟩⟩).exec w' = (.ok ok, w'') ∧
        (ok = true ↔ (((3 : ℤ) : ℚ), ((3 : ℤ) : ℚ)) ∈
          segment ℚ (((0 : ℤ) : ℚ), ((0 : ℤ) : ℚ)) (((4 : ℤ) : ℚ), ((4 : ℤ) : ℚ))) := by
  have h29 := made_point (r := lineWorld.host.engine.realm) (o := 29) rfl
  have h30 := made_point (r := lineWorld.host.engine.realm) (o := 30) rfl
  have h31 := made_point (r := lineWorld.host.engine.realm) (o := 31) rfl
  obtain ⟨hline, hstart, hend⟩ := LineClass.sample_line _ _ _
  obtain ⟨hzero, hthree, hfour⟩ := smallWhole_samples
  exact contains_after_edits (w := lineWorld) (l := ⟨0, ⟨28⟩⟩) (p := ⟨1, ⟨31⟩⟩)
    (P := (· ∈ [29, 30])) (c := lineCoords)
    (LineClass.samplePoints_holds _ _ _) (LineClass.sample_holds _ _ _) hline hstart hend
    (fun o ho => by
      rcases List.mem_pair.1 ho with rfl | rfl
      · exact ⟨h29.1, h29.2.1⟩
      · exact ⟨h30.1, h30.2.1⟩)
    (fun o ho => by
      rcases List.mem_cons.1 ho with rfl | ho
      · exact h29.2.2
      rcases List.mem_pair.1 ho with rfl | rfl
      · exact h30.2.2
      · exact h31.2.2)
    (by decide) (by decide) hzero hzero hfour hfour hthree hthree

end ScriptBridge.Wrapper
