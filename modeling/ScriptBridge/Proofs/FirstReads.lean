import ScriptBridge.Proofs.ArrayView

/-!
# A cached read hands out the first read's wrapper

The contract of a view's cache is said over its history, without the cache: a read of an object
made with the cache on hands out the wrapper of the first read of that object made with the cache
on since the cache was last emptied (by `clearCache` or by turning it off), or the wrapper the
view started with for it; only when there is neither does it make a new one. With the cache off
every read of an object makes a new wrapper, and such reads are not remembered.

`Access.step` runs an operation as `Access.run` does and also reports what it did to the cache:
each read with the slot's value, the wrapper it handed out and the count of wrappers made before
it. `Memory` keeps the contract's side: whether the cache is on and every read made with it on
since it was last emptied. The invariant `Agrees` ties the cache to the memory: the cache's lookup
of every object is the memory's first read of it.
-/

namespace ScriptBridge.Wrapper

open ScriptBridge.Host

/-- What a step does to a view's cache: a read of a slot holding a value, with the wrapper it
handed out and the count of wrappers made before it; setting whether the cache is used; emptying
it. -/
inductive Event where
  | read (slot : Foreign) (given : Option Wrapper) (made : Nat)
  | setUse (b : Bool)
  | clear

def Event.given : Event → Option Wrapper
  | .read _ g _ => g
  | _ => none

namespace WrapperArray

def readSlot (a : WrapperArray) (v : Foreign) : Op (Option Wrapper × WrapperArray × List Event) :=
  do
  let made := (← getThe World).made
  let (g, a') ← a.wrapSlot v
  pure (g, a', [.read v g made])

def collectReads (a : WrapperArray) : Nat → Nat → List (Option Wrapper) →
    Op ((Except HostError (List (Option Wrapper)) × WrapperArray) × List Event)
  | 0, _, acc => pure ((.ok acc.reverse, a), [])
  | n + 1, i, acc => do
    let r ← tryCatch (do pure (Except.ok (← Op.host (Host.getProperty a.source (toString i)))))
      fun e => pure (.error e)
    match r with
    | .ok v => do
      let (g, a', evs) ← a.readSlot v
      let (res, evs') ← collectReads a' n (i + 1) (g :: acc)
      pure (res, evs ++ evs')
    | .error e => pure ((.error e, a), [])

theorem readSlot_exec (a : WrapperArray) (v : Foreign) (w : World) :
    (a.readSlot v).exec w =
      match (a.wrapSlot v).exec w with
      | (.ok (g, a'), w') => (.ok (g, a', [.read v g w.made]), w')
      | (.error e, w') => (.error e, w') := by
  simp only [readSlot, Op.exec_bind, Op.exec_getThe]
  rcases (a.wrapSlot v).exec w with ⟨_ | ⟨g, a'⟩, w'⟩ <;> rfl

theorem collectReads_succ_exec (a : WrapperArray) (n i : Nat) (acc : List (Option Wrapper))
    (w : World) :
    (a.collectReads (n + 1) i acc).exec w =
      match Host.exec (Host.getProperty a.source (toString i)) w.host with
      | (.ok v, h) =>
        match (a.readSlot v).exec { w with host := h } with
        | (.ok (g, a', evs), w') =>
          match (a'.collectReads n (i + 1) (g :: acc)).exec w' with
          | (.ok (res, evs'), w'') => (.ok (res, evs ++ evs'), w'')
          | (.error e, w'') => (.error e, w'')
        | (.error e, w') => (.error e, w')
      | (.error e, h) => (.ok ((.error e, a), []), { w with host := h }) := by
  simp only [collectReads, Op.exec_bind, Op.exec_tryCatch, Op.exec_host]
  rcases Host.exec (Host.getProperty a.source (toString i)) w.host with ⟨_ | v, h⟩
  · rfl
  · simp only [Op.exec_pure, Op.exec_bind]
    rcases (a.readSlot v).exec { w with host := h } with ⟨_ | ⟨g, a', evs⟩, w'⟩
    · rfl
    · simp only
      rcases (a'.collectReads n (i + 1) (g :: acc)).exec w' with ⟨_ | ⟨res, evs'⟩, w''⟩ <;> rfl

theorem readSlot_forget (a : WrapperArray) (v : Foreign) :
    (fun x : Option Wrapper × WrapperArray × List Event => (x.1, x.2.1)) <$> a.readSlot v =
      a.wrapSlot v := by
  apply Op.ext
  intro w
  rw [Op.exec_map, readSlot_exec]
  rcases hs : (a.wrapSlot v).exec w with ⟨_ | ⟨g, a'⟩, w'⟩
  · exact absurd hs (wrapSlot_ne_error _ _ _ _ _)
  · rfl

theorem collectReads_forget (a : WrapperArray) (n i : Nat) (acc : List (Option Wrapper)) :
    Prod.fst <$> a.collectReads n i acc = a.collect n i acc := by
  induction n generalizing a i acc with
  | zero => rfl
  | succ n ih =>
    apply Op.ext
    intro w
    rw [Op.exec_map, collectReads_succ_exec, collect_succ_exec, get_eq, exec_read]
    rcases Host.exec (Host.getProperty a.source (toString i)) w.host with ⟨_ | v, h⟩
    · rfl
    · simp only [readSlot_exec]
      rcases hs : (a.wrapSlot v).exec { w with host := h } with ⟨_ | ⟨g, a'⟩, w'⟩
      · exact absurd hs (wrapSlot_ne_error _ _ _ _ _)
      · simp only [← ih a' (i + 1) (g :: acc), Op.exec_map]
        rcases (a'.collectReads n (i + 1) (g :: acc)).exec w' with ⟨_ | ⟨res, evs'⟩, w''⟩ <;> rfl

end WrapperArray

namespace Access

def step (a : WrapperArray) : Access → Op (Reply × WrapperArray × List Event)
  | .get i => do
    let (g, a', evs) ← a.readSlot (← Op.host (Host.getProperty a.source (toString i)))
    pure (.slot g, a', evs)
  | .pop => do
    let (g, a', evs) ← a.readSlot (← Op.host (Host.invoke a.source "pop" []))
    pure (.slot g, a', evs)
  | .toList => do
    let n ← a.length
    let ((r, a'), evs) ← a.collectReads n 0 []
    pure (.slots r, a', evs)
  | .setUseCache b => pure (.done, a.setUseCache b, [.setUse b])
  | .clearCache => pure (.done, a.clearCache, [.clear])
  | acc => do
    let (r, a') ← run a acc
    pure (r, a', [])

theorem forget_keep (x : Op (Reply × WrapperArray)) :
    (fun y : Reply × WrapperArray × List Event => (y.1, y.2.1)) <$>
      (do let (r, a') ← x; pure (r, a', [])) = x := by
  apply Op.ext
  intro w
  rw [Op.exec_map, Op.exec_bind]
  rcases x.exec w with ⟨_ | ⟨r, a'⟩, w'⟩ <;> rfl

theorem hostRead_forget (a : WrapperArray) (x : HostM Foreign) :
    (fun y : Reply × WrapperArray × List Event => (y.1, y.2.1)) <$>
      (do
        let (g, a', evs) ← a.readSlot (← Op.host x)
        pure (Reply.slot g, a', evs) : Op (Reply × WrapperArray × List Event)) =
      (do
        let (g, a') ← (do a.wrapSlot (← Op.host x) : Op (Option Wrapper × WrapperArray))
        pure (Reply.slot g, a')) := by
  apply Op.ext
  intro w
  simp only [Op.exec_map, Op.exec_bind, Op.exec_host]
  rcases Host.exec x w.host with ⟨_ | v, h⟩
  · rfl
  · simp only [WrapperArray.readSlot_exec]
    rcases hs : (a.wrapSlot v).exec { w with host := h } with ⟨_ | ⟨g, a'⟩, w'⟩
    · exact absurd hs (WrapperArray.wrapSlot_ne_error _ _ _ _ _)
    · rfl

theorem step_forget (a : WrapperArray) (acc : Access) :
    (fun y : Reply × WrapperArray × List Event => (y.1, y.2.1)) <$> step a acc = run a acc := by
  cases acc with
  | get i => exact hostRead_forget a _
  | pop => exact hostRead_forget a _
  | toList =>
    apply Op.ext
    intro w
    simp only [step, run, WrapperArray.toList, Op.exec_map, Op.exec_bind]
    rcases a.length.exec w with ⟨_ | n, w₁⟩
    · rfl
    · simp only [← WrapperArray.collectReads_forget, Op.exec_map]
      rcases (a.collectReads n 0 []).exec w₁ with ⟨_ | ⟨⟨r, a'⟩, evs⟩, w₂⟩ <;> rfl
  | setUseCache b => rfl
  | clearCache => rfl
  | length => exact forget_keep _
  | set i w => exact forget_keep _
  | push w => exact forget_keep _
  | indexOf w => exact forget_keep _
  | lastIndexOf w => exact forget_keep _
  | includes w => exact forget_keep _
  | join sep => exact forget_keep _
  | fill w => exact forget_keep _
  | useCache => exact forget_keep _
  | cachedLen => exact forget_keep _
  | script act => exact forget_keep _

end Access

def runAll : WrapperArray → List Access → World → WrapperArray × List Event × World
  | a, [], w => (a, [], w)
  | a, acc :: rest, w =>
    match (Access.step a acc).exec w with
    | (.ok (_, a', evs), w') =>
      let (b, evs', w'') := runAll a' rest w'
      (b, evs ++ evs', w'')
    | (.error _, w') => runAll a rest w'

/-- What the contract remembers of a view: whether its cache is on, and the reads of objects made
with it on since it was last emptied, oldest first, after the wrappers the view started with. -/
structure Memory where
  on : Bool
  live : List (Handle × Wrapper)

namespace Memory

def ofView (a : WrapperArray) : Memory := ⟨a.useCache, a.cache⟩

def first (m : Memory) (h : Handle) : Option Wrapper :=
  (m.live.find? fun e => e.1.sameObject h).map Prod.snd

def handOut (m : Memory) : Foreign → Nat → Option Wrapper
  | .object h, made => some (if m.on then (m.first h).getD ⟨made, h⟩ else ⟨made, h⟩)
  | _, _ => none

def after (m : Memory) : Event → Memory
  | .read (.object h) (some x) _ => if m.on then ⟨m.on, m.live ++ [(h, x)]⟩ else m
  | .read _ _ _ => m
  | .setUse b => ⟨b, if b then m.live else []⟩
  | .clear => ⟨m.on, []⟩

def replay (m : Memory) (evs : List Event) : Memory := evs.foldl after m

end Memory

def Event.Kept (m : Memory) : Event → Prop
  | .read v g made => g = m.handOut v made ∧ g.map Wrapper.source = v.intoHandle.toOption
  | _ => True

def Follows : Memory → List Event → Prop
  | _, [] => True
  | m, e :: rest => e.Kept m ∧ Follows (m.after e) rest

theorem follows_append (m : Memory) (evs evs' : List Event) :
    Follows m (evs ++ evs') ↔ Follows m evs ∧ Follows (m.replay evs) evs' := by
  induction evs generalizing m with
  | nil => simp [Follows, Memory.replay]
  | cons e evs ih => simp [Follows, Memory.replay, ih, and_assoc]

theorem lookup_snoc (l : List (Handle × Wrapper)) (h h' : Handle) (x : Wrapper) :
    ((l ++ [(h, x)]).find? fun e => e.1.sameObject h').map Prod.snd =
      ((l.find? fun e => e.1.sameObject h').map Prod.snd).or
        (if h.sameObject h' then some x else none) := by
  rw [List.find?_append]
  cases l.find? (fun e => e.1.sameObject h') <;> cases hh : h.sameObject h' <;> simp [hh]

/-- The cache agrees with the memory: the same flag, and the same lookup of every object; the
cache keeps its invariant, and each remembered wrapper wraps the object it was read for. -/
structure Agrees (a : WrapperArray) (m : Memory) : Prop where
  flag : a.useCache = m.on
  lookup : ∀ h, a.cached h = m.first h
  inv : CacheInv a
  sources : ∀ e ∈ m.live, e.2.source = e.1

namespace Agrees

variable {a a' : WrapperArray} {m : Memory}

theorem ofView (ha : CacheInv a) : Agrees a (Memory.ofView a) :=
  ⟨rfl, fun _ => rfl, ha, ha.keyed.sources⟩

theorem read (hag : Agrees a m) {v : Foreign} {g : Option Wrapper} {w w' : World}
    (run : (a.wrapSlot v).exec w = (.ok (g, a'), w')) :
    (Event.read v g w.made).Kept m ∧ Agrees a' (m.after (.read v g w.made)) := by
  have hinv' := hag.inv.wrapSlot run
  rw [WrapperArray.wrapSlot_exec] at run
  cases v with
  | object h =>
    cases hu : a.useCache
    · have hoff : m.on = false := hag.flag ▸ hu
      simp only [hu, Bool.false_eq_true, if_false, Prod.mk.injEq, Except.ok.injEq] at run
      obtain ⟨⟨rfl, rfl⟩, -⟩ := run
      exact ⟨⟨by simp [Memory.handOut, hoff], rfl⟩, by simpa [Memory.after, hoff] using hag⟩
    · have hon : m.on = true := hag.flag ▸ hu
      cases hc : a.cached h with
      | some x =>
        simp only [hu, if_true, hc, Prod.mk.injEq, Except.ok.injEq] at run
        obtain ⟨⟨rfl, rfl⟩, -⟩ := run
        have hf : m.first h = some x := (hag.lookup h).symm.trans hc
        have hx : x.source = h := hag.inv.cached_source hc
        refine ⟨⟨by simp [Memory.handOut, hon, hf], by simp [hx]; rfl⟩, ?_⟩
        refine ⟨hag.flag.trans (by simp [Memory.after, hon]), fun h' => ?_, hag.inv, ?_⟩
        · simp only [Memory.after, hon, if_true, Memory.first]
          rw [lookup_snoc, ← Memory.first, ← hag.lookup h']
          cases hh : h.sameObject h'
          · simp
          · rw [← Handle.sameObject_iff.mp hh, hc]
            rfl
        · simp only [Memory.after, hon, if_true, List.mem_append, List.mem_singleton]
          rintro e (he | rfl)
          · exact hag.sources e he
          · exact hx
      | none =>
        simp only [hu, if_true, hc, Prod.mk.injEq, Except.ok.injEq] at run
        obtain ⟨⟨rfl, rfl⟩, -⟩ := run
        have hf : m.first h = none := (hag.lookup h).symm.trans hc
        refine ⟨⟨by simp [Memory.handOut, hon, hf], rfl⟩, ?_⟩
        refine ⟨by simp [Memory.after, hon], fun h' => ?_, hinv', ?_⟩
        · simp only [Memory.after, hon, if_true, Memory.first, WrapperArray.cached]
          rw [lookup_snoc, lookup_snoc, ← Memory.first, ← hag.lookup h']
          rfl
        · simp only [Memory.after, hon, if_true, List.mem_append, List.mem_singleton]
          rintro e (he | rfl)
          · exact hag.sources e he
          · rfl
  | _ =>
    simp only [Prod.mk.injEq, Except.ok.injEq] at run
    obtain ⟨⟨rfl, rfl⟩, -⟩ := run
    exact ⟨⟨rfl, rfl⟩, hag⟩

theorem readSlot (hag : Agrees a m) {v : Foreign} {g : Option Wrapper} {evs : List Event}
    {w w' : World} (run : (a.readSlot v).exec w = (.ok (g, a', evs), w')) :
    Follows m evs ∧ Agrees a' (m.replay evs) := by
  rw [WrapperArray.readSlot_exec] at run
  rcases hs : (a.wrapSlot v).exec w with ⟨_ | ⟨g₀, a₀⟩, w₀⟩ <;> rw [hs] at run
  · cases run
  · simp only [Prod.mk.injEq, Except.ok.injEq] at run
    obtain ⟨⟨rfl, rfl, rfl⟩, -⟩ := run
    obtain ⟨hk, hag'⟩ := hag.read hs
    exact ⟨⟨hk, trivial⟩, hag'⟩

theorem collectReads (hag : Agrees a m) {n i : Nat} {acc : List (Option Wrapper)}
    {res : Except HostError (List (Option Wrapper))} {evs : List Event} {w w' : World}
    (run : (a.collectReads n i acc).exec w = (.ok ((res, a'), evs), w')) :
    Follows m evs ∧ Agrees a' (m.replay evs) := by
  induction n generalizing a a' m i acc res evs w w' with
  | zero =>
    simp only [WrapperArray.collectReads, Op.exec_pure, Prod.mk.injEq, Except.ok.injEq] at run
    obtain ⟨⟨⟨-, rfl⟩, rfl⟩, -⟩ := run
    exact ⟨trivial, hag⟩
  | succ n ih =>
    rw [WrapperArray.collectReads_succ_exec] at run
    rcases hx : Host.exec (Host.getProperty a.source (toString i)) w.host with ⟨_ | v, h⟩ <;>
      rw [hx] at run
    · simp only [Prod.mk.injEq, Except.ok.injEq] at run
      obtain ⟨⟨⟨-, rfl⟩, rfl⟩, -⟩ := run
      exact ⟨trivial, hag⟩
    · simp only at run
      rcases hr : (a.readSlot v).exec { w with host := h } with ⟨_ | ⟨g, b, evs₁⟩, w₁⟩ <;>
        rw [hr] at run
      · cases run
      · simp only at run
        rcases hc : (b.collectReads n (i + 1) (g :: acc)).exec w₁ with
          ⟨_ | ⟨⟨res₂, b₂⟩, evs₂⟩, w₂⟩ <;> rw [hc] at run
        · cases run
        · simp only [Prod.mk.injEq, Except.ok.injEq] at run
          obtain ⟨⟨⟨rfl, rfl⟩, rfl⟩, rfl⟩ := run
          obtain ⟨hf₁, hag₁⟩ := hag.readSlot hr
          obtain ⟨hf₂, hag₂⟩ := ih hag₁ hc
          refine ⟨(follows_append _ _ _).mpr ⟨hf₁, hf₂⟩, ?_⟩
          simpa [Memory.replay, List.foldl_append] using hag₂

theorem hostRead (hag : Agrees a m) {x : HostM Foreign} {r : Reply} {evs : List Event}
    {w w' : World}
    (run : (do
        let (g, a', evs) ← a.readSlot (← Op.host x)
        pure (Reply.slot g, a', evs) : Op (Reply × WrapperArray × List Event)).exec w =
      (.ok (r, a', evs), w')) :
    Follows m evs ∧ Agrees a' (m.replay evs) := by
  simp only [Op.exec_bind, Op.exec_host] at run
  rcases hx : Host.exec x w.host with ⟨_ | v, h⟩ <;> rw [hx] at run
  · cases run
  · simp only at run
    rcases hr : (a.readSlot v).exec { w with host := h } with ⟨_ | ⟨g, b, evs₁⟩, w₁⟩ <;>
      rw [hr] at run <;> cases run
    exact hag.readSlot hr

theorem step (hag : Agrees a m) {acc : Access} {r : Reply} {evs : List Event} {w w' : World}
    (run : (Access.step a acc).exec w = (.ok (r, a', evs), w')) :
    Follows m evs ∧ Agrees a' (m.replay evs) := by
  cases acc with
  | get i => exact hag.hostRead run
  | pop => exact hag.hostRead run
  | toList =>
    simp only [Access.step, Op.exec_bind] at run
    rcases hn : a.length.exec w with ⟨_ | n, w₁⟩ <;> rw [hn] at run
    · cases run
    · simp only at run
      rcases hc : (a.collectReads n 0 []).exec w₁ with ⟨_ | ⟨⟨res, b⟩, evs₁⟩, w₂⟩ <;>
        rw [hc] at run <;> cases run
      exact hag.collectReads hc
  | setUseCache b =>
    simp only [Access.step, Op.exec_pure, Prod.mk.injEq, Except.ok.injEq] at run
    obtain ⟨⟨-, rfl, rfl⟩, -⟩ := run
    refine ⟨⟨trivial, trivial⟩, rfl, fun h => ?_, hag.inv.setUseCache b, ?_⟩
    · cases b
      · rfl
      · exact hag.lookup h
    · cases b
      · simp [Memory.replay, Memory.after]
      · exact hag.sources
  | clearCache =>
    simp only [Access.step, Op.exec_pure, Prod.mk.injEq, Except.ok.injEq] at run
    obtain ⟨⟨-, rfl, rfl⟩, -⟩ := run
    exact ⟨⟨trivial, trivial⟩, hag.flag, fun _ => rfl, CacheInv.clearCache a, by
      simp [Memory.replay, Memory.after]⟩
  | useCache | cachedLen =>
    simp only [Access.step, Access.run, Op.exec_bind, Op.exec_pure, Prod.mk.injEq,
      Except.ok.injEq] at run
    obtain ⟨⟨-, rfl, rfl⟩, -⟩ := run
    exact ⟨trivial, hag⟩
  | _ =>
    simp only [Access.step, Access.run, Op.exec_bind] at run
    split at run <;> cases run
    rename_i hr
    split at hr <;> cases hr
    exact ⟨trivial, hag⟩

end Agrees

theorem runAll_agrees {a : WrapperArray} {m : Memory} (hag : Agrees a m) (ops : List Access)
    (w : World) :
    Follows m (runAll a ops w).2.1 ∧ Agrees (runAll a ops w).1 (m.replay (runAll a ops w).2.1) := by
  induction ops generalizing a m w with
  | nil => exact ⟨trivial, hag⟩
  | cons acc rest ih =>
    simp only [runAll]
    rcases hs : (Access.step a acc).exec w with ⟨_ | ⟨r, a', evs⟩, w'⟩
    · exact ih hag w'
    · obtain ⟨hf, hag'⟩ := hag.step hs
      obtain ⟨hf', hag''⟩ := ih hag' w'
      refine ⟨(follows_append _ _ _).mpr ⟨hf, hf'⟩, ?_⟩
      simpa [Memory.replay, List.foldl_append] using hag''

/-- The cache's contract over every run of operations on a reachable view, script mutations
between them included. Each traced step is the view's own operation; every read keeps to the
contract against the memory of what came before it, so with the cache on it hands out the first
remembered read's wrapper and makes a new one only when there is none; and the cache the run
leaves looks up every object as the memory does. -/
theorem reads_hand_out_first_cached_read {a : WrapperArray} (ha : Reachable a) (ops : List Access)
    (w : World) :
    (∀ (b : WrapperArray) (acc : Access),
      (fun y : Reply × WrapperArray × List Event => (y.1, y.2.1)) <$> Access.step b acc =
        Access.run b acc) ∧
    Follows (Memory.ofView a) (runAll a ops w).2.1 ∧
    ∀ h, (runAll a ops w).1.cached h = ((Memory.ofView a).replay (runAll a ops w).2.1).first h := by
  obtain ⟨hf, hag⟩ := runAll_agrees (Agrees.ofView ha.cacheInv) ops w
  exact ⟨Access.step_forget, hf, hag.lookup⟩

theorem fresh_view_reads_hand_out_first_cached_read :
    Reachable ({ source := ⟨195⟩, useCache := true } : WrapperArray) ∧
    (runAll { source := ⟨195⟩, useCache := true } [.get 0, .get 1, .get 2] arrayWorld).2.1.map
      (fun e => e.given.map Wrapper.serial) = [some 0, some 1, some 0] ∧
    (∀ (b : WrapperArray) (acc : Access),
      (fun y : Reply × WrapperArray × List Event => (y.1, y.2.1)) <$> Access.step b acc =
        Access.run b acc) ∧
    Follows ⟨true, []⟩
      (runAll { source := ⟨195⟩, useCache := true } [.get 0, .get 1, .get 2] arrayWorld).2.1 ∧
    ∀ h, (runAll { source := ⟨195⟩, useCache := true } [.get 0, .get 1, .get 2] arrayWorld).1.cached h =
      ((Memory.mk true []).replay
        (runAll { source := ⟨195⟩, useCache := true } [.get 0, .get 1, .get 2] arrayWorld).2.1).first
          h := by
  have ha := Reachable.create ⟨195⟩ true
  exact ⟨ha, by decide +kernel, reads_hand_out_first_cached_read ha [.get 0, .get 1, .get 2] arrayWorld⟩

def oneSlotHost : Host where
  engine := ⟨{ heap := #[{ proto := none, props := oneSlot }, { proto := none }] }⟩
  config := {}
where
  oneSlot : Script.Table := ({} : Script.Table).insert (.ofString "0") (.plain (.obj 1))

/-- A read made while the cache is off is not remembered: on a view made with the cache off, a
read after turning it on makes a new wrapper, not the one the first read of the object handed
out. -/
theorem read_before_enabling_not_shared :
    (runAll { source := ⟨0⟩, useCache := false } [.get 0, .setUseCache true, .get 0]
      { host := oneSlotHost }).2.1.map (fun e => e.given.map Wrapper.serial) =
      [some 0, none, some 1] := by
  decide +kernel

end ScriptBridge.Wrapper
