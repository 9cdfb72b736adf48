import ScriptBridge.Proofs.JoinedView
import ScriptBridge.Proofs.HostCalls

/-!
# The cache changes only which wrapper a read hands out

Two views of one array that keep the cache invariant, whatever their flags and caches, are
*twins*. Every operation, run on twins from worlds with the same host, makes the same host calls,
leaves the same host, fails with the same error or replies alike, and leaves twins again. Replies
are alike when they are equal once each wrapper is taken for the object it wraps; the two
questions a view answers about its own cache (`useCache`, `cachedLen`) are the only replies that
may differ. A join of twins with twins gives twins, so the relation carries over every view a
program derives.

The proofs run two logged computations side by side: `Logged.Lockstep R x y` says that from
worlds with the same host and the same record of calls, `x` and `y` record the same calls, leave
the same host, and fail alike or give results related by `R`. It composes through binds, so each
operation's lemma follows the operation's own steps.
-/

namespace ScriptBridge.Wrapper

open ScriptBridge.Host

def Reply.Alike : Reply → Reply → Prop
  | .done, .done => True
  | .count n, .count n' => n = n'
  | .index i, .index i' => i = i'
  | .flag b, .flag b' => b = b'
  | .text s, .text s' => s = s'
  | .slot g, .slot g' => g.map Wrapper.source = g'.map Wrapper.source
  | .slots r, .slots r' =>
    r.map (List.map (Option.map Wrapper.source)) = r'.map (List.map (Option.map Wrapper.source))
  | _, _ => False

theorem Reply.alike_refl (r : Reply) : r.Alike r := by
  cases r <;> simp [Reply.Alike]

def Access.asksCache : Access → Bool
  | .useCache | .cachedLen => true
  | _ => false

/-- Two views of the same array, each keeping the cache invariant. -/
structure Twin (a b : WrapperArray) : Prop where
  source : a.source = b.source
  left : CacheInv a
  right : CacheInv b

def ReadAlike (x y : Option Wrapper × WrapperArray) : Prop :=
  x.1.map Wrapper.source = y.1.map Wrapper.source ∧ Twin x.2 y.2

def Access.Alike (acc : Access) (x y : Reply × WrapperArray) : Prop :=
  (acc.asksCache = false → x.1.Alike y.1) ∧ Twin x.2 y.2

section Lockstep

variable {α β γ δ : Type}

def Outcome (R : α → β → Prop) : Except HostError α → Except HostError β → Prop
  | .ok a, .ok b => R a b
  | .error e, .error e' => e = e'
  | _, _ => False

theorem Outcome.eq_refl (r : Except HostError α) : Outcome Eq r r := by
  cases r <;> rfl

def Lockstep (R : α → β → Prop) (x : Op α) (y : Op β) : Prop :=
  ∀ w w' : World, w.host = w'.host →
    (x.exec w).2.host = (y.exec w').2.host ∧ Outcome R (x.exec w).1 (y.exec w').1

theorem Lockstep.lift (r : Except HostError α) : Lockstep Eq (Op.lift r) (Op.lift r) := by
  intro w w' hw
  rw [Op.exec_lift, Op.exec_lift]
  exact ⟨hw, Outcome.eq_refl r⟩

def Logged.Lockstep (R : α → β → Prop) (x : Logged α) (y : Logged β) : Prop :=
  ∀ (w w' : World) (l : List Call), w.host = w'.host →
    (x.exec w l).1.2 = (y.exec w' l).1.2 ∧ (x.exec w l).2.host = (y.exec w' l).2.host ∧
      Outcome R (x.exec w l).1.1 (y.exec w' l).1.1

namespace Logged.Lockstep

variable {R : α → β → Prop} {S : γ → δ → Prop}

theorem pure {a : α} {b : β} (h : R a b) : Lockstep R (Pure.pure a) (Pure.pure b) :=
  fun _ _ _ hw => ⟨rfl, hw, h⟩

theorem op {x : Op α} {y : Op β} (h : Wrapper.Lockstep R x y) : Lockstep R (Logged.op x) (Logged.op y) :=
  fun w w' _ hw => ⟨rfl, h w w' hw⟩

theorem call (c : Call) : Lockstep Eq (Logged.call c) (Logged.call c) := by
  intro w w' l hw
  rw [exec_call, exec_call, hw]
  exact ⟨rfl, rfl, Outcome.eq_refl _⟩

theorem bind {x : Logged α} {y : Logged β} {f : α → Logged γ} {g : β → Logged δ}
    (hxy : Lockstep R x y) (hfg : ∀ a b, R a b → Lockstep S (f a) (g b)) :
    Lockstep S (x >>= f) (y >>= g) := by
  intro w w' l hw
  have hr := hxy w w' l hw
  rw [exec_bind, exec_bind]
  rcases hx : x.exec w l with ⟨⟨_ | a, l₁⟩, w₁⟩ <;> rcases hy : y.exec w' l with ⟨⟨_ | b, l₁'⟩, w₁'⟩ <;>
    rw [hx, hy] at hr <;> obtain ⟨hl, hw₁, ho⟩ := hr
  · exact ⟨hl, hw₁, ho⟩
  · exact ho.elim
  · exact ho.elim
  · subst hl
    exact hfg a b ho w₁ w₁' l₁ hw₁

theorem tryCatch {x : Logged α} {y : Logged β} {h : HostError → Logged α} {h' : HostError → Logged β}
    (hxy : Lockstep R x y) (hh : ∀ e, Lockstep R (h e) (h' e)) :
    Lockstep R (tryCatch x h) (tryCatch y h') := by
  intro w w' l hw
  have hr := hxy w w' l hw
  rw [exec_tryCatch, exec_tryCatch]
  rcases hx : x.exec w l with ⟨⟨_ | a, l₁⟩, w₁⟩ <;> rcases hy : y.exec w' l with ⟨⟨_ | b, l₁'⟩, w₁'⟩ <;>
    rw [hx, hy] at hr <;> obtain ⟨hl, hw₁, ho⟩ := hr
  · subst hl ho
    exact hh _ w₁ w₁' l₁ hw₁
  · exact ho.elim
  · exact ho.elim
  · exact ⟨hl, hw₁, ho⟩

theorem call_bind {c : Call} {f : Foreign → Logged γ} {g : Foreign → Logged δ}
    (hfg : ∀ v, Lockstep S (f v) (g v)) : Lockstep S (Logged.call c >>= f) (Logged.call c >>= g) :=
  bind (call c) fun v _ h => h ▸ hfg v

theorem checked {T : Type} (c : Call) (f : Foreign → Except HostError T) :
    Lockstep Eq (Logged.checked c f) (Logged.checked c f) :=
  call_bind fun v => op (Wrapper.Lockstep.lift (f v))

theorem effect (c : Call) : Lockstep Eq (Logged.effect c) (Logged.effect c) :=
  call_bind fun _ => pure rfl

end Logged.Lockstep

end Lockstep

namespace Twin

variable {a b : WrapperArray}

theorem refl (ha : CacheInv a) : Twin a a := ⟨rfl, ha, ha⟩

theorem wrapSlot_given (ha : CacheInv a) {v : Foreign} {g : Option Wrapper} {a' : WrapperArray}
    {w w' : World} (run : (a.wrapSlot v).exec w = (.ok (g, a'), w')) :
    g.map Wrapper.source = v.intoHandle.toOption ∧ a'.source = a.source ∧ w'.host = w.host := by
  rw [WrapperArray.wrapSlot_exec] at run
  cases v with
  | object h =>
    cases hu : a.useCache
    · simp only [hu, Bool.false_eq_true, if_false, Prod.mk.injEq, Except.ok.injEq] at run
      obtain ⟨⟨rfl, rfl⟩, rfl⟩ := run
      exact ⟨rfl, rfl, rfl⟩
    · cases hc : a.cached h
      · simp only [hu, if_true, hc, Prod.mk.injEq, Except.ok.injEq] at run
        obtain ⟨⟨rfl, rfl⟩, rfl⟩ := run
        exact ⟨rfl, rfl, rfl⟩
      · simp only [hu, if_true, hc, Prod.mk.injEq, Except.ok.injEq] at run
        obtain ⟨⟨rfl, rfl⟩, rfl⟩ := run
        simp [ha.cached_source hc, Foreign.intoHandle, Except.toOption]
  | _ =>
    simp only [Prod.mk.injEq, Except.ok.injEq] at run
    obtain ⟨⟨rfl, rfl⟩, rfl⟩ := run
    exact ⟨rfl, rfl, rfl⟩

theorem wrapSlot (ht : Twin a b) (v : Foreign) : Lockstep ReadAlike (a.wrapSlot v) (b.wrapSlot v) := by
  intro w w' hw
  rcases hx : (a.wrapSlot v).exec w with ⟨_ | ⟨g, a'⟩, w₁⟩
  · exact absurd hx (WrapperArray.wrapSlot_ne_error _ _ _ _ _)
  rcases hy : (b.wrapSlot v).exec w' with ⟨_ | ⟨g', b'⟩, w₁'⟩
  · exact absurd hy (WrapperArray.wrapSlot_ne_error _ _ _ _ _)
  obtain ⟨hg, hsa, hwa⟩ := wrapSlot_given ht.left hx
  obtain ⟨hg', hsb, hwb⟩ := wrapSlot_given ht.right hy
  refine ⟨hwa.trans (hw.trans hwb.symm), hg.trans hg'.symm, ?_, ht.left.wrapSlot hx,
    ht.right.wrapSlot hy⟩
  rw [hsa, hsb, ht.source]

theorem read (ht : Twin a b) (c : Call) :
    Logged.Lockstep ReadAlike (do Logged.op (a.wrapSlot (← Logged.call c)))
      (do Logged.op (b.wrapSlot (← Logged.call c))) :=
  Logged.Lockstep.call_bind fun v => .op (ht.wrapSlot v)

theorem loggedGet (ht : Twin a b) (i : Nat) :
    Logged.Lockstep ReadAlike (a.loggedGet i) (b.loggedGet i) := by
  simp only [WrapperArray.loggedGet, ← ht.source]
  exact ht.read _

theorem loggedPop (ht : Twin a b) : Logged.Lockstep ReadAlike a.loggedPop b.loggedPop := by
  simp only [WrapperArray.loggedPop, ← ht.source]
  exact ht.read _

theorem loggedLength (ht : Twin a b) : Logged.Lockstep Eq a.loggedLength b.loggedLength := by
  simp only [WrapperArray.loggedLength, ← ht.source]
  exact .checked _ _

theorem loggedCollect (ht : Twin a b) {n i : Nat} {acc acc' : List (Option Wrapper)}
    (hacc : acc.map (Option.map Wrapper.source) = acc'.map (Option.map Wrapper.source)) :
    Logged.Lockstep (fun x y : Except HostError (List (Option Wrapper)) × WrapperArray =>
      x.1.map (List.map (Option.map Wrapper.source)) =
        y.1.map (List.map (Option.map Wrapper.source)) ∧ Twin x.2 y.2)
      (a.loggedCollect n i acc) (b.loggedCollect n i acc') := by
  induction n generalizing a b i acc acc' with
  | zero =>
    refine .pure ⟨?_, ht⟩
    simp only [Except.map, List.map_reverse, hacc]
  | succ n ih =>
    refine .bind (R := Outcome ReadAlike) (.tryCatch (.bind (ht.loggedGet i) fun x y h => .pure h)
      fun e => .pure rfl) fun r r' hr => ?_
    rcases r with e | ⟨g, a'⟩ <;> rcases r' with e' | ⟨g', b'⟩
    · cases hr
      exact .pure ⟨rfl, ht⟩
    · exact hr.elim
    · exact hr.elim
    · exact ih hr.2 (by simp [hacc, hr.1])

theorem loggedToList (ht : Twin a b) :
    Logged.Lockstep (fun x y : Except HostError (List (Option Wrapper)) × WrapperArray =>
      x.1.map (List.map (Option.map Wrapper.source)) =
        y.1.map (List.map (Option.map Wrapper.source)) ∧ Twin x.2 y.2)
      a.loggedToList b.loggedToList :=
  .bind ht.loggedLength fun _ _ h => h ▸ ht.loggedCollect rfl

theorem keep {T : Type} {x : Logged T} (hx : Logged.Lockstep Eq x x) (K : T → Reply) (ht : Twin a b)
    (acc : Access) :
    Logged.Lockstep acc.Alike (x >>= fun t => Pure.pure (K t, a)) (x >>= fun t => Pure.pure (K t, b)) :=
  .bind hx fun _ _ h => h ▸ .pure ⟨fun _ => Reply.alike_refl _, ht⟩

theorem access (ht : Twin a b) (acc : Access) :
    Logged.Lockstep acc.Alike (Access.logged a acc) (Access.logged b acc) := by
  cases acc with
  | length => exact .bind ht.loggedLength fun _ _ h => h ▸ .pure ⟨fun _ => rfl, ht⟩
  | get i => exact .bind (ht.loggedGet i) fun _ _ h => .pure ⟨fun _ => h.1, h.2⟩
  | pop => exact .bind ht.loggedPop fun _ _ h => .pure ⟨fun _ => h.1, h.2⟩
  | toList => exact .bind ht.loggedToList fun _ _ h => .pure ⟨fun _ => h.1, h.2⟩
  | set | fill =>
    simp only [Access.logged, ht.source]
    exact keep (.effect _) (fun _ => .done) ht _
  | push =>
    simp only [Access.logged, ht.source]
    exact keep (.checked _ _) Reply.count ht _
  | indexOf | lastIndexOf =>
    simp only [Access.logged, ht.source]
    exact keep (.checked _ _) Reply.index ht _
  | includes =>
    simp only [Access.logged, ht.source]
    exact keep (.checked _ _) Reply.flag ht _
  | join =>
    simp only [Access.logged, ht.source]
    exact keep (.checked _ _) Reply.text ht _
  | script act => exact keep (.effect _) (fun _ => .done) ht _
  | setUseCache c =>
    exact .pure ⟨fun _ => trivial, ⟨ht.source, ht.left.setUseCache c, ht.right.setUseCache c⟩⟩
  | clearCache =>
    exact .pure ⟨fun _ => trivial, ⟨ht.source, CacheInv.clearCache a, CacheInv.clearCache b⟩⟩
  | useCache => exact .pure ⟨fun h => absurd h (by decide), ht⟩
  | cachedLen => exact .pure ⟨fun h => absurd h (by decide), ht⟩

theorem made (v : Foreign) (u : Bool) :
    Lockstep Twin (Op.lift (WrapperArray.ofForeign v u)) (Op.lift (WrapperArray.ofForeign v u)) := by
  intro w w' hw
  rw [Op.exec_lift, Op.exec_lift]
  cases hv : WrapperArray.ofForeign v u with
  | error e => exact ⟨hw, rfl⟩
  | ok a => exact ⟨hw, refl (Reachable.ofForeign hv).cacheInv⟩

theorem joined (v : Foreign) (u u' : Bool) :
    Lockstep (fun c c' : WrapperArray =>
        c.source = c'.source ∧ c.useCache = u ∧ c'.useCache = u' ∧ c.cache = [] ∧ c'.cache = [])
      (Op.lift (WrapperArray.ofForeign v u)) (Op.lift (WrapperArray.ofForeign v u')) := by
  intro w w' hw
  rw [Op.exec_lift, Op.exec_lift, WrapperArray.ofForeign_eq, WrapperArray.ofForeign_eq]
  cases v with
  | object j => exact ⟨hw, rfl, rfl, rfl, rfl, rfl⟩
  | _ => exact ⟨hw, rfl⟩

theorem loggedConcat {o o' : WrapperArray} (ht : Twin a b) (ho : Twin o o') :
    Logged.Lockstep Twin (a.loggedConcat o) (b.loggedConcat o') := by
  simp only [WrapperArray.loggedConcat, ht.source, ho.source]
  refine Logged.Lockstep.call_bind fun v =>
    .bind (.op (joined v a.useCache b.useCache)) fun c c' hc => .pure ?_
  obtain ⟨hs, -, -, hc, hc'⟩ := hc
  refine ⟨?_, CacheInv.joined hc ht.left ho.left, CacheInv.joined hc' ht.right ho.right⟩
  split <;> split <;> exact hs

end Twin

namespace Command

def asksCache : Command → Bool
  | .on _ acc => acc.asksCache
  | _ => false

def Alike (c : Command) (x y : Reply × List WrapperArray) : Prop :=
  (c.asksCache = false → x.1.Alike y.1) ∧ List.Forall₂ Twin x.2 y.2

def runAll : List WrapperArray → List Command → World →
    List (Except HostError Reply × List Call × Host) × List WrapperArray
  | vs, [], _ => ([], vs)
  | vs, c :: rest, w =>
    let ((res, calls), w') := (c.logged vs).exec w []
    let (t, vs') := runAll (after vs res) rest w'
    ((res.map Prod.fst, calls, w'.host) :: t, vs')

def Traced : List Command → List (Except HostError Reply × List Call × Host) →
    List (Except HostError Reply × List Call × Host) → Prop
  | c :: cs, (o, calls, h) :: t, (o', calls', h') :: t' =>
    calls = calls' ∧ h = h' ∧ Outcome (fun r r' => c.asksCache = false → r.Alike r') o o' ∧
      Traced cs t t'
  | [], [], [] => True
  | _, _, _ => False

end Command

section Twins

variable {vs vs' : List WrapperArray}

theorem twins_getElem? (hv : List.Forall₂ Twin vs vs') (i : Nat) :
    (vs[i]? = none ∧ vs'[i]? = none) ∨ ∃ a b, vs[i]? = some a ∧ vs'[i]? = some b ∧ Twin a b := by
  induction hv generalizing i with
  | nil => exact .inl ⟨rfl, rfl⟩
  | cons hab _ ih =>
    cases i with
    | zero => exact .inr ⟨_, _, rfl, rfl, hab⟩
    | succ i => simpa using ih i

theorem twins_set (hv : List.Forall₂ Twin vs vs') (i : Nat) {a b : WrapperArray} (hab : Twin a b) :
    List.Forall₂ Twin (vs.set i a) (vs'.set i b) := by
  induction hv generalizing i with
  | nil => exact .nil
  | cons hx _ ih =>
    cases i with
    | zero => exact .cons hab ‹_›
    | succ i => exact .cons hx (ih i)

theorem Command.logged_twins (hv : List.Forall₂ Twin vs vs') (c : Command) :
    Logged.Lockstep c.Alike (c.logged vs) (c.logged vs') := by
  cases c with
  | view v useCache =>
    exact .bind (.op (Twin.made v useCache)) fun a b h =>
      .pure ⟨fun _ => trivial, List.rel_append hv (.cons h .nil)⟩
  | on i acc =>
    rcases twins_getElem? hv i with ⟨h, h'⟩ | ⟨a, b, h, h', hab⟩
    · simp only [Command.logged, h, h']
      exact .pure ⟨fun _ => trivial, hv⟩
    · simp only [Command.logged, h, h']
      exact .bind (hab.access acc) fun x y hxy => .pure ⟨hxy.1, twins_set hv i hxy.2⟩
  | concat i j =>
    rcases twins_getElem? hv i with ⟨h, h'⟩ | ⟨a, b, h, h', hab⟩
    · simp only [Command.logged, h, h']
      exact .pure ⟨fun _ => trivial, hv⟩
    rcases twins_getElem? hv j with ⟨k, k'⟩ | ⟨o, o', k, k', hoo⟩
    · simp only [Command.logged, h, h', k, k']
      exact .pure ⟨fun _ => trivial, hv⟩
    · simp only [Command.logged, h, h', k, k']
      exact .bind (hab.loggedConcat hoo) fun c c' hc =>
        .pure ⟨fun _ => trivial, List.rel_append hv (.cons hc .nil)⟩

theorem Command.runAll_twins (hv : List.Forall₂ Twin vs vs') (cmds : List Command) {w w' : World}
    (hw : w.host = w'.host) :
    Command.Traced cmds (Command.runAll vs cmds w).1 (Command.runAll vs' cmds w').1 ∧
    List.Forall₂ Twin (Command.runAll vs cmds w).2 (Command.runAll vs' cmds w').2 := by
  induction cmds generalizing vs vs' w w' with
  | nil => exact ⟨trivial, hv⟩
  | cons c rest ih =>
    have hr := Command.logged_twins hv c w w' [] hw
    simp only [Command.runAll]
    rcases hx : (c.logged vs).exec w [] with ⟨⟨_ | ⟨r, vs₁⟩, l₁⟩, w₁⟩ <;>
      rcases hy : (c.logged vs').exec w' [] with ⟨⟨_ | ⟨r', vs₁'⟩, l₁'⟩, w₁'⟩ <;>
      rw [hx, hy] at hr <;> obtain ⟨hl, hw₁, ho⟩ := hr
    · obtain ⟨ht, hv'⟩ := ih hv hw₁
      exact ⟨⟨hl, hw₁, ho, ht⟩, hv'⟩
    · exact ho.elim
    · exact ho.elim
    · obtain ⟨ht, hv'⟩ := ih ho.2 hw₁
      exact ⟨⟨hl, hw₁, ho.1, ht⟩, hv'⟩

end Twins

/-- The cache is transparent up to wrapper identity. Take a program holding a view of an array
made with the cache on and one holding a view of the same array made with it off, each beside
the same other views a program can come to hold, and run the same commands on both from the same
world, each host call made through the record of calls, which forgotten gives the command itself.
After every command the two have made the same host calls and left the same host; they fail with
the same error, or give alike replies (the same numbers, flags and texts, nothing in the same
places, and wrappers of the same objects), save a view's answers about its own cache; and they end
holding views of the same arrays. -/
theorem cache_transparent_up_to_identity (s : Handle) (others : List WrapperArray)
    (hothers : ∀ o ∈ others, Reachable o) (cmds : List Command) (w : World) :
    (∀ (vs : List WrapperArray) (c : Command), Logged.Runs (c.logged vs) (c.run vs)) ∧
    Command.Traced cmds
      (Command.runAll ({ source := s, useCache := true } :: others) cmds w).1
      (Command.runAll ({ source := s, useCache := false } :: others) cmds w).1 ∧
    List.Forall₂ (fun a b => a.source = b.source)
      (Command.runAll ({ source := s, useCache := true } :: others) cmds w).2
      (Command.runAll ({ source := s, useCache := false } :: others) cmds w).2 := by
  have hv : List.Forall₂ Twin ({ source := s, useCache := true } :: others)
      ({ source := s, useCache := false } :: others) :=
    .cons ⟨rfl, CacheInv.create s true, CacheInv.create s false⟩
      (List.forall₂_same.mpr fun o ho => Twin.refl (hothers o ho).cacheInv)
  obtain ⟨ht, hv'⟩ := Command.runAll_twins hv cmds rfl
  exact ⟨fun vs c => Command.logged_runs vs c, ht, hv'.imp fun _ _ h => h.source⟩

theorem cache_transparent_joining_another_view :
    (∀ o ∈ [({ source := ⟨195⟩, useCache := true } : WrapperArray)], Reachable o) ∧
    (Command.runAll [{ source := ⟨195⟩, useCache := true }, { source := ⟨195⟩, useCache := true }]
        [.on 0 (.get 0), .on 0 (.get 2), .concat 0 1, .on 2 .toList, .on 0 .pop] arrayWorld).1.map
      (fun t => (t.1.toOption.isSome, t.2.1.length)) =
      [(true, 1), (true, 1), (true, 1), (true, 7), (true, 1)] ∧
    (∀ (vs : List WrapperArray) (c : Command), Logged.Runs (c.logged vs) (c.run vs)) ∧
    Command.Traced [.on 0 (.get 0), .on 0 (.get 2), .concat 0 1, .on 2 .toList, .on 0 .pop]
      (Command.runAll [{ source := ⟨195⟩, useCache := true }, { source := ⟨195⟩, useCache := true }]
        [.on 0 (.get 0), .on 0 (.get 2), .concat 0 1, .on 2 .toList, .on 0 .pop] arrayWorld).1
      (Command.runAll [{ source := ⟨195⟩, useCache := false }, { source := ⟨195⟩, useCache := true }]
        [.on 0 (.get 0), .on 0 (.get 2), .concat 0 1, .on 2 .toList, .on 0 .pop] arrayWorld).1 ∧
    List.Forall₂ (fun a b => a.source = b.source)
      (Command.runAll [{ source := ⟨195⟩, useCache := true }, { source := ⟨195⟩, useCache := true }]
        [.on 0 (.get 0), .on 0 (.get 2), .concat 0 1, .on 2 .toList, .on 0 .pop] arrayWorld).2
      (Command.runAll [{ source := ⟨195⟩, useCache := false }, { source := ⟨195⟩, useCache := true }]
        [.on 0 (.get 0), .on 0 (.get 2), .concat 0 1, .on 2 .toList, .on 0 .pop] arrayWorld).2 := by
  have hothers : ∀ o ∈ [({ source := ⟨195⟩, useCache := true } : WrapperArray)], Reachable o := by
    intro o ho
    rw [List.mem_singleton] at ho
    exact ho ▸ Reachable.create ⟨195⟩ true
  exact ⟨hothers, by decide +kernel,
    cache_transparent_up_to_identity ⟨195⟩ _ hothers _ arrayWorld⟩

/-- A view's answer about its own cache is a reply the two programs do not share: asked right
away, the view made with the cache on says it caches and the other says it does not. -/
theorem cache_flag_answers_differ :
    (Command.runAll [{ source := ⟨0⟩, useCache := true }] [.on 0 .useCache] default).1 =
      [(.ok (.flag true), [], default)] ∧
    (Command.runAll [{ source := ⟨0⟩, useCache := false }] [.on 0 .useCache] default).1 =
      [(.ok (.flag false), [], default)] ∧
    ¬ (Reply.flag true).Alike (.flag false) :=
  ⟨rfl, rfl, by simp [Reply.Alike]⟩

end ScriptBridge.Wrapper
