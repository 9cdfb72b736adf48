import ScriptBridge.Proofs.Exec
import ScriptBridge.Wrapper.Array

/-!
# Operations on a wrapper array

Everything a caller can do with one view, and a script in between, as one type of operation with
one step function built from the view's own operations. Only reads change a view's cache: `get`,
`pop` and each element of `toList` hand a slot's value to `wrapSlot`, which on a miss files a new
wrapper under the object; `setUseCache` and `clearCache` empty it; writes, searches and the
script leave the view as it is. `concat` makes a new view whose cache starts as the two caches
merged.

The cache invariant: with the cache off nothing is cached, no two entries are of the same
object, and each entry's wrapper wraps the object it is filed under. It holds of every view a
program can come to hold, failed operations and joined views included.

A program holds its views in one world and runs commands on them (`Holding`). Wrappers are
numbered by the world's count as they are made, and nothing takes the count back, so across all
the views a program holds every cached wrapper was made before the count and is the only one with
its serial (`HeldInv`); within one cache, then, entries of distinct objects hold distinct wrapper
instances.
-/

namespace ScriptBridge.Wrapper

open ScriptBridge.Host

/-- What an operation of a view gives back. -/
inductive Reply where
  | done
  | count (n : Nat)
  | index (i : Option Nat)
  | flag (b : Bool)
  | text (s : String)
  | slot (w : Option Wrapper)
  | slots (r : Except HostError (List (Option Wrapper)))

/-- What a caller can do with one view, and any host action of a script in between. -/
inductive Access where
  | length
  | get (i : Nat)
  | set (i : Nat) (w : Option Wrapper)
  | push (w : Wrapper)
  | pop
  | indexOf (w : Wrapper)
  | lastIndexOf (w : Wrapper)
  | includes (w : Wrapper)
  | join (sep : String)
  | fill (w : Option Wrapper)
  | toList
  | setUseCache (b : Bool)
  | clearCache
  | useCache
  | cachedLen
  | script (act : HostM Unit)

namespace Access

def run (a : WrapperArray) : Access → Op (Reply × WrapperArray)
  | .length => do pure (.count (← a.length), a)
  | .get i => do
    let (w, a') ← a.get i
    pure (.slot w, a')
  | .set i w => do
    a.set i w
    pure (.done, a)
  | .push w => do pure (.count (← a.push w), a)
  | .pop => do
    let (w, a') ← a.pop
    pure (.slot w, a')
  | .indexOf w => do pure (.index (← a.indexOf w), a)
  | .lastIndexOf w => do pure (.index (← a.lastIndexOf w), a)
  | .includes w => do pure (.flag (← a.includes w), a)
  | .join sep => do pure (.text (← a.join sep), a)
  | .fill w => do
    a.fill w
    pure (.done, a)
  | .toList => do
    let (r, a') ← a.toList
    pure (.slots r, a')
  | .setUseCache b => pure (.done, a.setUseCache b)
  | .clearCache => pure (.done, a.clearCache)
  | .useCache => pure (.flag a.useCache, a)
  | .cachedLen => pure (.count a.cachedLen, a)
  | .script act => do
    Op.host act
    pure (.done, a)

end Access

namespace WrapperArray

theorem wrapSlot_exec (a : WrapperArray) (v : Foreign) (w : World) :
    (a.wrapSlot v).exec w =
      match v with
      | .object h =>
        if a.useCache then
          match a.cached h with
          | some x => (.ok (some x, a), w)
          | none => (.ok (some ⟨w.made, h⟩, { a with cache := a.cache ++ [(h, ⟨w.made, h⟩)] }),
              { w with made := w.made + 1 })
        else (.ok (some ⟨w.made, h⟩, a), { w with made := w.made + 1 })
      | _ => (.ok (none, a), w) := by
  cases v with
  | object h =>
    cases hu : a.useCache
    · simp [wrapSlot, hu, Op.exec_map]
    · cases hc : a.cached h <;> simp [wrapSlot, hu, hc, Op.exec_map]
  | _ => rfl

theorem wrapSlot_ne_error (a : WrapperArray) (v : Foreign) (w w' : World) (e : HostError) :
    (a.wrapSlot v).exec w ≠ (.error e, w') := by
  rw [wrapSlot_exec]
  cases v with
  | object h =>
    cases a.useCache
    · simp
    · cases hc : a.cached h <;> simp [hc]
  | _ => simp

theorem get_eq (a : WrapperArray) (i : Nat) :
    a.get i = (do a.wrapSlot (← Op.host (Host.getProperty a.source (toString i)))) := rfl

theorem exec_read (a : WrapperArray) (x : HostM Foreign) (w : World) :
    (do a.wrapSlot (← Op.host x)).exec w =
      match Host.exec x w.host with
      | (.ok v, h) => (a.wrapSlot v).exec { w with host := h }
      | (.error e, h) => (.error e, { w with host := h }) := by
  rw [Op.exec_bind, Op.exec_host]
  rcases Host.exec x w.host with ⟨_ | v, h⟩ <;> rfl

theorem collect_succ_exec (a : WrapperArray) (n i : Nat) (acc : List (Option Wrapper))
    (w : World) :
    (a.collect (n + 1) i acc).exec w =
      match (a.get i).exec w with
      | (.ok (g, a'), w') => (a'.collect n (i + 1) (g :: acc)).exec w'
      | (.error e, w') => (.ok (.error e, a), w') := by
  simp only [collect, Op.exec_bind, Op.exec_tryCatch]
  rcases (a.get i).exec w with ⟨_ | ⟨g, a'⟩, w'⟩ <;> rfl

theorem ofForeign_eq (v : Foreign) (useCache : Bool) :
    ofForeign v useCache =
      match v with
      | .object h => .ok { source := h, useCache }
      | _ => .error (.invalidReference v.kind) := by
  cases v <;> rfl

theorem ofForeign_cache {v : Foreign} {useCache : Bool} {a : WrapperArray}
    (h : ofForeign v useCache = .ok a) : a.cache = [] := by
  cases v <;> simp only [ofForeign_eq, Except.ok.injEq, reduceCtorEq] at h
  subst h
  rfl

theorem concat_exec_ok {a o c : WrapperArray} {w w' : World}
    (run : (a.concat o).exec w = (.ok c, w')) :
    c.useCache = a.useCache ∧ c.cache = if a.useCache then mergeCaches a.cache o.cache else [] := by
  simp only [concat, Op.exec_bind, Op.exec_host] at run
  rcases hx : Host.exec (Host.invoke a.source "concat" [.object o.source]) w.host with
    ⟨_ | v, h⟩ <;> rw [hx] at run
  · cases run
  · cases v with
    | object j =>
      simp only [ofForeign_eq, Op.exec_lift, Op.exec_pure, Prod.mk.injEq, Except.ok.injEq] at run
      rw [← run.1]
      cases a.useCache <;> simp
    | _ => simp [ofForeign_eq] at run

theorem cached_eq_none_iff {a : WrapperArray} {h : Handle} :
    a.cached h = none ↔ ∀ e ∈ a.cache, e.1.sameObject h = false := by
  simp [cached, List.find?_eq_none]

theorem cached_mem {a : WrapperArray} {h : Handle} {x : Wrapper} (hc : a.cached h = some x) :
    ∃ e ∈ a.cache, e.1.sameObject h = true ∧ e.2 = x := by
  simp only [cached, Option.map_eq_some_iff] at hc
  obtain ⟨e, he, rfl⟩ := hc
  exact ⟨e, List.mem_of_find?_eq_some he, by simpa using List.find?_some he, rfl⟩

end WrapperArray

/-- Cache entries as a cache keeps them: no two are of the same object, and each wrapper wraps
the object it is filed under. -/
structure Keyed (l : List (Handle × Wrapper)) : Prop where
  distinct : l.Pairwise fun e e' => e.1.sameObject e'.1 = false
  sources : ∀ e ∈ l, e.2.source = e.1

theorem Keyed.nil : Keyed [] := ⟨List.Pairwise.nil, fun _ h => nomatch h⟩

theorem Keyed.lookup_unique {l : List (Handle × Wrapper)} (hl : Keyed l) (h : Handle) :
    (l.filter fun e => e.1.sameObject h).length ≤ 1 := by
  have hd := hl.distinct
  clear hl
  induction l with
  | nil => simp
  | cons e l ih =>
    obtain ⟨he, hrest⟩ := List.pairwise_cons.mp hd
    by_cases hh : e.1.sameObject h = true
    · have none : l.filter (fun e => e.1.sameObject h) = [] := by
        rw [List.filter_eq_nil_iff]
        intro e' he' hs
        have heq : e.1 = e'.1 :=
          (Handle.sameObject_iff.mp hh).trans (Handle.sameObject_iff.mp hs).symm
        have hfalse := he e' he'
        rw [heq] at hfalse
        simp [Handle.sameObject] at hfalse
      simp [hh, none]
    · simpa [List.filter_cons, hh] using ih hrest

theorem Keyed.snoc {l : List (Handle × Wrapper)} {h : Handle} {x : Wrapper} (hl : Keyed l)
    (fresh : ∀ e ∈ l, e.1.sameObject h = false) (hx : x.source = h) : Keyed (l ++ [(h, x)]) := by
  refine ⟨?_, ?_⟩
  · rw [List.pairwise_append]
    exact ⟨hl.distinct, List.pairwise_singleton _ _, fun e he e' he' => by
      rw [List.mem_singleton] at he'
      subst he'
      exact fresh e he⟩
  · intro e he
    rcases List.mem_append.mp he with he | he
    · exact hl.sources e he
    · rw [List.mem_singleton] at he
      subst he
      exact hx

theorem Keyed.mergeCaches {mine other : List (Handle × Wrapper)} (hm : Keyed mine)
    (ho : ∀ e ∈ other, e.2.source = e.1) : Keyed (WrapperArray.mergeCaches mine other) := by
  induction other generalizing mine with
  | nil => exact hm
  | cons e rest ih =>
    simp only [WrapperArray.mergeCaches, List.foldl_cons] at ih ⊢
    apply ih _ (fun e' he' => ho e' (List.mem_cons_of_mem _ he'))
    split
    · exact hm
    · rename_i hany
      simp only [List.any_eq_true, not_exists, not_and, Bool.not_eq_true] at hany
      exact hm.snoc hany (ho e List.mem_cons_self)

structure CacheInv (a : WrapperArray) : Prop where
  /-- With the cache off, nothing is cached. -/
  off_empty : a.useCache = false → a.cache = []
  /-- No two entries are of the same object, and each wrapper wraps its entry's object. -/
  keyed : Keyed a.cache

namespace CacheInv

variable {a a' : WrapperArray}

theorem create (source : Handle) (useCache : Bool) : CacheInv { source, useCache } :=
  ⟨fun _ => rfl, Keyed.nil⟩

theorem setUseCache (ha : CacheInv a) (b : Bool) : CacheInv (a.setUseCache b) := by
  cases b
  · exact ⟨fun _ => rfl, Keyed.nil⟩
  · exact ⟨by simp [WrapperArray.setUseCache], by simpa [WrapperArray.setUseCache] using ha.keyed⟩

theorem clearCache (a : WrapperArray) : CacheInv a.clearCache :=
  ⟨fun _ => rfl, Keyed.nil⟩

theorem cached_source (ha : CacheInv a) {h : Handle} {x : Wrapper} (hc : a.cached h = some x) :
    x.source = h := by
  obtain ⟨e, he, hs, rfl⟩ := WrapperArray.cached_mem hc
  rw [ha.keyed.sources e he]
  exact Handle.sameObject_iff.mp hs

theorem wrapSlot (ha : CacheInv a) {v : Foreign} {g : Option Wrapper} {w w' : World}
    (run : (a.wrapSlot v).exec w = (.ok (g, a'), w')) : CacheInv a' := by
  rw [WrapperArray.wrapSlot_exec] at run
  cases v with
  | object h =>
    cases hu : a.useCache
    · simp only [hu, Bool.false_eq_true, if_false, Prod.mk.injEq, Except.ok.injEq] at run
      rw [← run.1.2]
      exact ha
    · cases hc : a.cached h
      · simp only [hu, if_true, hc, Prod.mk.injEq, Except.ok.injEq] at run
        rw [← run.1.2]
        exact ⟨fun h => by simp at h,
          ha.keyed.snoc (WrapperArray.cached_eq_none_iff.mp hc) rfl⟩
      · simp only [hu, if_true, hc, Prod.mk.injEq, Except.ok.injEq] at run
        rw [← run.1.2]
        exact ha
  | _ =>
    simp only [Prod.mk.injEq, Except.ok.injEq] at run
    rw [← run.1.2]
    exact ha

theorem read (ha : CacheInv a) {x : HostM Foreign} {g : Option Wrapper} {w w' : World}
    (run : (do a.wrapSlot (← Op.host x)).exec w = (.ok (g, a'), w')) : CacheInv a' := by
  rw [WrapperArray.exec_read] at run
  rcases hx : Host.exec x w.host with ⟨_ | v, h⟩ <;> rw [hx] at run
  · cases run
  · exact ha.wrapSlot run

theorem collect (ha : CacheInv a) {n i : Nat} {acc : List (Option Wrapper)}
    {r : Except HostError (List (Option Wrapper))} {w w' : World}
    (run : (a.collect n i acc).exec w = (.ok (r, a'), w')) : CacheInv a' := by
  induction n generalizing a i acc w with
  | zero =>
    simp only [WrapperArray.collect, Op.exec_pure, Prod.mk.injEq, Except.ok.injEq] at run
    rw [← run.1.2]
    exact ha
  | succ n ih =>
    rw [WrapperArray.collect_succ_exec] at run
    rcases hg : (a.get i).exec w with ⟨_ | ⟨g, b⟩, w₁⟩ <;> rw [hg] at run
    · simp only [Prod.mk.injEq, Except.ok.injEq] at run
      rw [← run.1.2]
      exact ha
    · exact ih (ha.read hg) run

theorem access (ha : CacheInv a) {acc : Access} {r : Reply} {w w' : World}
    (run : (Access.run a acc).exec w = (.ok (r, a'), w')) : CacheInv a' := by
  cases acc with
  | get i =>
    simp only [Access.run, Op.exec_bind] at run
    rcases hg : (a.get i).exec w with ⟨_ | ⟨g, b⟩, w₁⟩ <;> rw [hg] at run <;> cases run
    exact ha.read hg
  | pop =>
    simp only [Access.run, Op.exec_bind] at run
    rcases hg : a.pop.exec w with ⟨_ | ⟨g, b⟩, w₁⟩ <;> rw [hg] at run <;> cases run
    exact ha.read hg
  | toList =>
    simp only [Access.run, WrapperArray.toList, Op.exec_bind] at run
    rcases hn : a.length.exec w with ⟨_ | n, w₁⟩ <;> rw [hn] at run
    · cases run
    · simp only at run
      rcases hc : (a.collect n 0 []).exec w₁ with ⟨_ | ⟨res, b⟩, w₂⟩ <;> rw [hc] at run <;>
        cases run
      exact ha.collect hc
  | setUseCache b =>
    simp only [Access.run, Op.exec_pure, Prod.mk.injEq, Except.ok.injEq] at run
    rw [← run.1.2]
    exact ha.setUseCache b
  | clearCache =>
    simp only [Access.run, Op.exec_pure, Prod.mk.injEq, Except.ok.injEq] at run
    rw [← run.1.2]
    exact clearCache a
  | useCache | cachedLen =>
    simp only [Access.run, Op.exec_pure, Prod.mk.injEq, Except.ok.injEq] at run
    rw [← run.1.2]
    exact ha
  | _ =>
    simp only [Access.run, Op.exec_bind] at run
    split at run <;> cases run
    exact ha

theorem joined {c b : WrapperArray} (hc : c.cache = []) (ha : CacheInv a) (hb : CacheInv b) :
    CacheInv (if c.useCache then { c with cache := WrapperArray.mergeCaches a.cache b.cache } else c) := by
  cases hu : c.useCache
  · simp only [Bool.false_eq_true, if_false]
    exact ⟨fun _ => hc, hc ▸ Keyed.nil⟩
  · simp only [if_true]
    exact ⟨fun h => by simp at h, ha.keyed.mergeCaches hb.keyed.sources⟩

theorem concat {b c : WrapperArray} (ha : CacheInv a) (hb : CacheInv b) {w w' : World}
    (run : (a.concat b).exec w = (.ok c, w')) : CacheInv c := by
  obtain ⟨hu, hc⟩ := WrapperArray.concat_exec_ok run
  cases hau : a.useCache
  · simp only [hau, Bool.false_eq_true, if_false] at hc
    exact ⟨fun _ => hc, hc ▸ Keyed.nil⟩
  · simp only [hau, if_true] at hc
    refine ⟨fun h => by simp [hu, hau] at h, ?_⟩
    rw [hc]
    exact ha.keyed.mergeCaches hb.keyed.sources

end CacheInv

/-- The views a program can come to hold: a new view of an object, the view an operation of a
reachable view leaves (a failed operation leaves the view it had), and the view joining two
reachable views, which may be one and the same. -/
inductive Reachable : WrapperArray → Prop
  | create (source : Handle) (useCache : Bool) : Reachable { source, useCache }
  | access {a a' : WrapperArray} {acc : Access} {r : Reply} {w w' : World} :
      Reachable a → (Access.run a acc).exec w = (.ok (r, a'), w') → Reachable a'
  | concat {a b c : WrapperArray} {w w' : World} :
      Reachable a → Reachable b → (a.concat b).exec w = (.ok c, w') → Reachable c

theorem Reachable.ofForeign {v : Foreign} {useCache : Bool} {a : WrapperArray}
    (h : WrapperArray.ofForeign v useCache = .ok a) : Reachable a := by
  cases v with
  | object s =>
    simp only [WrapperArray.ofForeign_eq, Except.ok.injEq] at h
    rw [← h]
    exact .create s useCache
  | _ => simp [WrapperArray.ofForeign_eq] at h

theorem Reachable.cacheInv {a : WrapperArray} (h : Reachable a) : CacheInv a := by
  induction h with
  | create source useCache => exact CacheInv.create source useCache
  | access _ run ih => exact ih.access run
  | concat _ _ run iha ihb => exact iha.concat ihb run

namespace Op

def Grows (x : Op α) : Prop := ∀ w, w.made ≤ (x.exec w).2.made

namespace Grows

variable {α β : Type}

theorem pure (a : α) : (Pure.pure a : Op α).Grows := fun _ => Nat.le_refl _

theorem bind {x : Op α} {f : α → Op β} (hx : x.Grows) (hf : ∀ a, (f a).Grows) :
    (x >>= f).Grows := by
  intro w
  have h := hx w
  rw [Op.exec_bind]
  rcases hr : x.exec w with ⟨_ | a, w₁⟩ <;> rw [hr] at h
  · exact h
  · exact Nat.le_trans h (hf a w₁)

theorem host (y : HostM α) : (Op.host y).Grows := fun w => Nat.le_of_eq (host_made y w).symm

theorem lift (r : Except HostError α) : (Op.lift r).Grows := fun w =>
  Nat.le_of_eq (by rw [exec_lift])

theorem tryCatch {x : Op α} {h : HostError → Op α} (hx : x.Grows) (hh : ∀ e, (h e).Grows) :
    (tryCatch x h).Grows := by
  intro w
  have hw := hx w
  rw [exec_tryCatch]
  rcases hr : x.exec w with ⟨_ | a, w₁⟩ <;> rw [hr] at hw
  · exact Nat.le_trans hw (hh _ w₁)
  · exact hw

theorem host_lift {T : Type} (z : HostM Foreign) (f : Foreign → Except HostError T) :
    (do Op.lift (f (← Op.host z)) : Op T).Grows :=
  bind (host z) fun v => lift (f v)

end Grows

end Op

namespace WrapperArray

theorem wrapSlot_grows (a : WrapperArray) (v : Foreign) : (a.wrapSlot v).Grows := by
  intro w
  rw [wrapSlot_exec]
  cases v with
  | object h =>
    cases a.useCache
    · simp
    · rcases hc : a.cached h with _ | x <;> simp [hc]
  | _ => simp

theorem length_grows (a : WrapperArray) : a.length.Grows := .host_lift _ _

theorem read_grows (a : WrapperArray) (x : HostM Foreign) :
    (do a.wrapSlot (← Op.host x) : Op (Option Wrapper × WrapperArray)).Grows :=
  .bind (.host x) a.wrapSlot_grows

theorem collect_grows (a : WrapperArray) (n i : Nat) (acc : List (Option Wrapper)) :
    (a.collect n i acc).Grows := by
  induction n generalizing a i acc with
  | zero => exact .pure _
  | succ n ih =>
    apply Op.Grows.bind
    · exact .tryCatch (.bind (a.read_grows _) fun _ => .pure _) fun _ => .pure _
    · intro r
      rcases r with e | ⟨g, a'⟩
      · exact .pure _
      · exact ih a' (i + 1) (g :: acc)

theorem concat_grows (a b : WrapperArray) : (a.concat b).Grows :=
  .bind (.host _) fun _ => .bind (.lift _) fun _ => .pure _

end WrapperArray

theorem Access.run_grows (a : WrapperArray) (acc : Access) : (Access.run a acc).Grows := by
  cases acc with
  | length => exact .bind a.length_grows fun _ => .pure _
  | push | indexOf | lastIndexOf | includes | join =>
    exact .bind (.host_lift _ _) fun _ => .pure _
  | get i | pop => exact .bind (a.read_grows _) fun _ => .pure _
  | toList =>
    exact .bind (.bind a.length_grows fun n => a.collect_grows n 0 []) fun _ => .pure _
  | set | script => exact .bind (.host _) fun _ => .pure _
  | fill => exact .bind (.bind (.host _) fun _ => .pure _) fun _ => .pure _
  | setUseCache | clearCache | useCache | cachedLen => exact .pure _

/-- What a program does with the views it holds: it makes a view of a value, which must be a
script object; runs an operation on one of its views; or joins two of them (the same one twice,
if it likes). A view made or joined is held after the others. -/
inductive Command where
  | view (v : Foreign) (useCache : Bool)
  | on (i : Nat) (acc : Access)
  | concat (i j : Nat)

namespace Command

def run (vs : List WrapperArray) : Command → Op (Reply × List WrapperArray)
  | .view v useCache => do pure (.done, vs ++ [← Op.lift (WrapperArray.ofForeign v useCache)])
  | .on i acc =>
    match vs[i]? with
    | some a => do
      let (r, a') ← Access.run a acc
      pure (r, vs.set i a')
    | none => pure (.done, vs)
  | .concat i j =>
    match vs[i]?, vs[j]? with
    | some a, some b => do pure (.done, vs ++ [← a.concat b])
    | _, _ => pure (.done, vs)

def after (vs : List WrapperArray) : Except HostError (Reply × List WrapperArray) →
    List WrapperArray
  | .ok (_, vs') => vs'
  | .error _ => vs

def runList : List Command → World → List WrapperArray → World × List WrapperArray
  | [], w, vs => (w, vs)
  | c :: cs, w, vs => runList cs ((c.run vs).exec w).2 (after vs ((c.run vs).exec w).1)

theorem run_grows (vs : List WrapperArray) (c : Command) : (c.run vs).Grows := by
  cases c with
  | view => exact .bind (.lift _) fun _ => .pure _
  | on i acc =>
    simp only [run]
    split
    · exact .bind (Access.run_grows _ acc) fun _ => .pure _
    · exact .pure _
  | concat i j =>
    simp only [run]
    split
    · exact .bind (WrapperArray.concat_grows _ _) fun _ => .pure _
    · exact .pure _

end Command

/-- The states a program can come to: from any world and no views, it runs commands, a failed
one keeping the views it had, and does anything else in between, which may change the host in
any way and make more wrappers but never takes back the count of wrappers made. -/
inductive Holding : World → List WrapperArray → Prop
  | start (w : World) : Holding w []
  | step {w w' : World} {vs : List WrapperArray} {res : Except HostError (Reply × List WrapperArray)}
      (c : Command) : Holding w vs → (c.run vs).exec w = (res, w') → Holding w' (Command.after vs res)
  | other {w w' : World} {vs : List WrapperArray} : Holding w vs → w.made ≤ w'.made → Holding w' vs

theorem Holding.runList {w : World} {vs : List WrapperArray} (h : Holding w vs)
    (cs : List Command) : Holding (Command.runList cs w vs).1 (Command.runList cs w vs).2 := by
  induction cs generalizing w vs with
  | nil => exact h
  | cons c cs ih => exact ih (h.step c rfl)

def Cached (vs : List WrapperArray) (x : Wrapper) : Prop := ∃ a ∈ vs, ∃ e ∈ a.cache, e.2 = x

/-- Wrappers made before a count, each the only one with its serial. -/
structure Issued (n : Nat) (S : Wrapper → Prop) : Prop where
  below : ∀ x, S x → x.serial < n
  named : ∀ x y, S x → S y → x.serial = y.serial → x = y

namespace Issued

variable {n n' : Nat} {S S' : Wrapper → Prop}

theorem mono (hi : Issued n S) (hS : ∀ x, S' x → S x) (hn : n ≤ n') : Issued n' S' :=
  ⟨fun x hx => Nat.lt_of_lt_of_le (hi.below x (hS x hx)) hn,
    fun x y hx hy => hi.named x y (hS x hx) (hS y hy)⟩

theorem fresh (hi : Issued n S) (h : Handle) (hS : ∀ x, S' x → S x ∨ x = ⟨n, h⟩) :
    Issued (n + 1) S' := by
  constructor
  · intro x hx
    rcases hS x hx with hx | rfl
    · exact Nat.lt_succ_of_lt (hi.below x hx)
    · exact Nat.lt_succ_self n
  · intro x y hx hy hxy
    rcases hS x hx with hx | rfl <;> rcases hS y hy with hy | rfl
    · exact hi.named x y hx hy hxy
    · exact absurd hxy (Nat.ne_of_lt (hi.below x hx))
    · exact absurd hxy.symm (Nat.ne_of_lt (hi.below y hy))
    · rfl

end Issued

theorem cached_set {vs : List WrapperArray} {i : Nat} {a' : WrapperArray} {x : Wrapper}
    (hx : Cached (vs.set i a') x) : Cached vs x ∨ ∃ e ∈ a'.cache, e.2 = x := by
  obtain ⟨b, hb, e, he, rfl⟩ := hx
  rcases List.mem_or_eq_of_mem_set hb with hb | rfl
  · exact .inl ⟨b, hb, e, he, rfl⟩
  · exact .inr ⟨e, he, rfl⟩

theorem cached_append {vs : List WrapperArray} {c : WrapperArray} {x : Wrapper}
    (hx : Cached (vs ++ [c]) x) : Cached vs x ∨ ∃ e ∈ c.cache, e.2 = x := by
  obtain ⟨b, hb, e, he, rfl⟩ := hx
  rcases List.mem_append.mp hb with hb | hb
  · exact .inl ⟨b, hb, e, he, rfl⟩
  · rw [List.mem_singleton] at hb
    subst hb
    exact .inr ⟨e, he, rfl⟩

theorem WrapperArray.mem_mergeCaches {mine other : List (Handle × Wrapper)} {e : Handle × Wrapper}
    (he : e ∈ WrapperArray.mergeCaches mine other) : e ∈ mine ∨ e ∈ other := by
  induction other generalizing mine with
  | nil => exact .inl he
  | cons o rest ih =>
    simp only [WrapperArray.mergeCaches, List.foldl_cons] at ih he
    rcases ih he with he | he
    · split at he
      · exact .inl he
      · rcases List.mem_append.mp he with he | he
        · exact .inl he
        · exact .inr (List.mem_singleton.mp he ▸ List.mem_cons_self)
    · exact .inr (List.mem_cons_of_mem _ he)

/-- The invariant of what a program holds: each view keeps the cache invariant, and the cached
wrappers were all made before the world's count, each the only one with its serial. -/
structure HeldInv (w : World) (vs : List WrapperArray) : Prop where
  caches : ∀ a ∈ vs, CacheInv a
  issued : Issued w.made (Cached vs)

namespace HeldInv

variable {w w' : World} {vs : List WrapperArray}

theorem start (w : World) : HeldInv w [] where
  caches _ h := nomatch h
  issued := ⟨fun _ ⟨_, h, _⟩ => (nomatch h), fun _ _ ⟨_, h, _⟩ => (nomatch h)⟩

theorem mono (hi : HeldInv w vs) (h : w.made ≤ w'.made) : HeldInv w' vs :=
  ⟨hi.caches, hi.issued.mono (fun _ hx => hx) h⟩

theorem caches_set (hi : HeldInv w vs) {i : Nat} {a' : WrapperArray} (ha' : CacheInv a') :
    ∀ b ∈ vs.set i a', CacheInv b := by
  intro b hb
  rcases List.mem_or_eq_of_mem_set hb with hb | rfl
  · exact hi.caches b hb
  · exact ha'

/-- One more view held, caching only wrappers the others cache. -/
theorem append (hi : HeldInv w vs) {c : WrapperArray} (hc : CacheInv c)
    (hsub : ∀ e ∈ c.cache, Cached vs e.2) : HeldInv w (vs ++ [c]) := by
  refine ⟨fun d hd => ?_, hi.issued.mono (fun x hx => ?_) (Nat.le_refl _)⟩
  · rcases List.mem_append.mp hd with hd | hd
    · exact hi.caches d hd
    · rw [List.mem_singleton.mp hd]
      exact hc
  · rcases cached_append hx with hx | ⟨e, he, rfl⟩
    · exact hx
    · exact hsub e he

end HeldInv

def Keeps (w : World) (a : WrapperArray) (w' : World) (a' : WrapperArray) : Prop :=
  ∀ (vs : List WrapperArray) (i : Nat), vs[i]? = some a → HeldInv w vs → HeldInv w' (vs.set i a')

namespace Keeps

variable {w w' w₁ w₂ : World} {a a' a₁ a₂ : WrapperArray}

theorem same (h : w.made ≤ w'.made) : Keeps w a w' a := by
  intro vs i hget hi
  obtain ⟨hlt, rfl⟩ := List.getElem?_eq_some_iff.mp hget
  rw [List.set_getElem_self hlt]
  exact hi.mono h

theorem trans (h₁ : Keeps w a w₁ a₁) (h₂ : Keeps w₁ a₁ w₂ a₂) : Keeps w a w₂ a₂ := by
  intro vs i hget hi
  have hlt : i < vs.length := (List.getElem?_eq_some_iff.mp hget).1
  have h := h₂ (vs.set i a₁) i (List.getElem?_set_self hlt) (h₁ vs i hget hi)
  rwa [List.set_set] at h

/-- A step that only drops cache entries. -/
theorem shrink (hc : CacheInv a → CacheInv a') (hsub : ∀ e ∈ a'.cache, e ∈ a.cache) :
    Keeps w a w a' := by
  intro vs i hget hi
  have ha := List.mem_of_getElem? hget
  refine ⟨hi.caches_set (hc (hi.caches a ha)), hi.issued.mono (fun x hx => ?_) (Nat.le_refl _)⟩
  rcases cached_set hx with hx | ⟨e, he, rfl⟩
  · exact hx
  · exact ⟨a, ha, e, hsub e he, rfl⟩

/-- Filing a new wrapper under an object with no entry: its serial is the count, which no cached
wrapper has. -/
theorem snoc {h : Handle} (hc : a.cached h = none) :
    Keeps w a { w with made := w.made + 1 }
      { a with useCache := true, cache := a.cache ++ [(h, ⟨w.made, h⟩)] } := by
  intro vs i hget hi
  have ha := List.mem_of_getElem? hget
  have ha' : CacheInv { a with useCache := true, cache := a.cache ++ [(h, ⟨w.made, h⟩)] } :=
    ⟨fun hoff => by simp at hoff, (hi.caches a ha).keyed.snoc (WrapperArray.cached_eq_none_iff.mp hc) rfl⟩
  refine ⟨hi.caches_set ha', hi.issued.fresh h fun x hx => ?_⟩
  rcases cached_set hx with hx | ⟨e, he, rfl⟩
  · exact .inl hx
  · rcases List.mem_append.mp he with he | he
    · exact .inl ⟨a, ha, e, he, rfl⟩
    · exact .inr (by rw [List.mem_singleton.mp he])

theorem wrapSlot {v : Foreign} {g : Option Wrapper}
    (run : (a.wrapSlot v).exec w = (.ok (g, a'), w')) : Keeps w a w' a' := by
  have hgrow : w.made ≤ w'.made := by
    have h := a.wrapSlot_grows v w
    rwa [run] at h
  rw [WrapperArray.wrapSlot_exec] at run
  cases v with
  | object h =>
    cases hu : a.useCache
    · simp only [hu, Bool.false_eq_true, if_false, Prod.mk.injEq, Except.ok.injEq] at run
      obtain ⟨⟨-, rfl⟩, -⟩ := run
      exact same hgrow
    · cases hc : a.cached h with
      | none =>
        simp only [hu, if_true, hc, Prod.mk.injEq, Except.ok.injEq] at run
        obtain ⟨⟨-, rfl⟩, rfl⟩ := run
        exact snoc hc
      | some x =>
        simp only [hu, if_true, hc, Prod.mk.injEq, Except.ok.injEq] at run
        obtain ⟨⟨-, rfl⟩, -⟩ := run
        exact same hgrow
  | _ =>
    simp only [Prod.mk.injEq, Except.ok.injEq] at run
    obtain ⟨⟨-, rfl⟩, -⟩ := run
    exact same hgrow

theorem read {x : HostM Foreign} {g : Option Wrapper}
    (run : (do a.wrapSlot (← Op.host x)).exec w = (.ok (g, a'), w')) : Keeps w a w' a' := by
  rw [WrapperArray.exec_read] at run
  rcases hx : Host.exec x w.host with ⟨_ | v, h⟩ <;> rw [hx] at run
  · cases run
  · have hhost : Keeps w a { w with host := h } a := same (Nat.le_refl _)
    exact hhost.trans (wrapSlot run)

theorem collect {n i : Nat} {acc : List (Option Wrapper)}
    {r : Except HostError (List (Option Wrapper))}
    (run : (a.collect n i acc).exec w = (.ok (r, a'), w')) : Keeps w a w' a' := by
  induction n generalizing a i acc w with
  | zero =>
    simp only [WrapperArray.collect, Op.exec_pure, Prod.mk.injEq, Except.ok.injEq] at run
    obtain ⟨⟨-, rfl⟩, rfl⟩ := run
    exact same (Nat.le_refl _)
  | succ n ih =>
    have hgrow := a.collect_grows (n + 1) i acc w
    rw [run] at hgrow
    rw [WrapperArray.collect_succ_exec] at run
    rcases hg : (a.get i).exec w with ⟨_ | ⟨g, b⟩, w₁⟩ <;> rw [hg] at run
    · simp only [Prod.mk.injEq, Except.ok.injEq] at run
      obtain ⟨⟨-, rfl⟩, -⟩ := run
      exact same hgrow
    · exact (read hg).trans (ih run)

theorem access {acc : Access} {r : Reply} (run : (Access.run a acc).exec w = (.ok (r, a'), w')) :
    Keeps w a w' a' := by
  have hgrow := Access.run_grows a acc w
  rw [run] at hgrow
  cases acc with
  | get i =>
    simp only [Access.run, Op.exec_bind] at run
    rcases hg : (a.get i).exec w with ⟨_ | ⟨g, b⟩, w₁⟩ <;> rw [hg] at run <;> cases run
    exact read hg
  | pop =>
    simp only [Access.run, Op.exec_bind] at run
    rcases hg : a.pop.exec w with ⟨_ | ⟨g, b⟩, w₁⟩ <;> rw [hg] at run <;> cases run
    exact read hg
  | toList =>
    simp only [Access.run, WrapperArray.toList, Op.exec_bind] at run
    rcases hn : a.length.exec w with ⟨_ | n, w₁⟩ <;> rw [hn] at run
    · cases run
    · simp only at run
      rcases hc : (a.collect n 0 []).exec w₁ with ⟨_ | ⟨res, b⟩, w₂⟩ <;> rw [hc] at run <;>
        cases run
      have hlen := a.length_grows w
      rw [hn] at hlen
      exact (same hlen).trans (collect hc)
  | setUseCache b =>
    simp only [Access.run, Op.exec_pure, Prod.mk.injEq, Except.ok.injEq] at run
    obtain ⟨⟨-, rfl⟩, rfl⟩ := run
    exact shrink (·.setUseCache b) (by cases b <;> simp [WrapperArray.setUseCache])
  | clearCache =>
    simp only [Access.run, Op.exec_pure, Prod.mk.injEq, Except.ok.injEq] at run
    obtain ⟨⟨-, rfl⟩, rfl⟩ := run
    exact shrink (fun _ => CacheInv.clearCache a) (by simp [WrapperArray.clearCache])
  | useCache | cachedLen =>
    simp only [Access.run, Op.exec_pure, Prod.mk.injEq, Except.ok.injEq] at run
    obtain ⟨⟨-, rfl⟩, -⟩ := run
    exact same hgrow
  | _ =>
    simp only [Access.run, Op.exec_bind] at run
    split at run <;> cases run
    exact same hgrow

end Keeps

theorem Command.after_cases {vs : List WrapperArray} {w w' : World} (c : Command)
    {res : Except HostError (Reply × List WrapperArray)} (run : (c.run vs).exec w = (res, w')) :
    Command.after vs res = vs ∨
    (∃ (v : Foreign) (u : Bool) (a : WrapperArray), WrapperArray.ofForeign v u = .ok a ∧
      Command.after vs res = vs ++ [a]) ∨
    (∃ (i : Nat) (a : WrapperArray) (acc : Access) (r : Reply) (a' : WrapperArray), vs[i]? = some a ∧ (Access.run a acc).exec w = (.ok (r, a'), w') ∧
      Command.after vs res = vs.set i a') ∨
    (∃ (i j : Nat) (a b d : WrapperArray), vs[i]? = some a ∧ vs[j]? = some b ∧ (a.concat b).exec w = (.ok d, w') ∧
      Command.after vs res = vs ++ [d]) := by
  cases res with
  | error e => exact .inl rfl
  | ok x =>
    obtain ⟨r, vs'⟩ := x
    cases c with
    | view v u =>
      simp only [Command.run, Op.exec_bind, Op.exec_lift] at run
      cases hv : WrapperArray.ofForeign v u with
      | error e =>
        rw [hv] at run
        cases run
      | ok a =>
        rw [hv] at run
        simp only [Op.exec_pure, Prod.mk.injEq, Except.ok.injEq] at run
        obtain ⟨⟨-, rfl⟩, -⟩ := run
        exact .inr (.inl ⟨v, u, a, hv, rfl⟩)
    | on i acc =>
      simp only [Command.run] at run
      split at run
      · rename_i a hget
        rw [Op.exec_bind] at run
        rcases ha : (Access.run a acc).exec w with ⟨_ | ⟨r', a'⟩, w₁⟩ <;> rw [ha] at run <;>
          cases run
        exact .inr (.inr (.inl ⟨i, a, acc, r', a', hget, ha, rfl⟩))
      · cases run
        exact .inl rfl
    | concat i j =>
      simp only [Command.run] at run
      split at run
      · rename_i a b ha hb
        rw [Op.exec_bind] at run
        rcases hc : (a.concat b).exec w with ⟨_ | c, w₁⟩ <;> rw [hc] at run <;> cases run
        exact .inr (.inr (.inr ⟨i, j, a, b, c, ha, hb, hc, rfl⟩))
      · cases run
        exact .inl rfl

namespace HeldInv

variable {w w' : World} {vs : List WrapperArray}

theorem concat (hi : HeldInv w vs) {i j : Nat} {a b c : WrapperArray} (ha : vs[i]? = some a)
    (hb : vs[j]? = some b) (run : (a.concat b).exec w = (.ok c, w')) : HeldInv w' (vs ++ [c]) := by
  have hgrow := WrapperArray.concat_grows a b w
  rw [run] at hgrow
  have hma := List.mem_of_getElem? ha
  have hmb := List.mem_of_getElem? hb
  obtain ⟨-, hcache⟩ := WrapperArray.concat_exec_ok run
  refine (hi.append ((hi.caches a hma).concat (hi.caches b hmb) run) fun e he => ?_).mono hgrow
  rw [hcache] at he
  split at he
  · rcases WrapperArray.mem_mergeCaches he with he | he
    · exact ⟨a, hma, e, he, rfl⟩
    · exact ⟨b, hmb, e, he, rfl⟩
  · nomatch he

theorem command (hi : HeldInv w vs) (c : Command) {res : Except HostError (Reply × List WrapperArray)}
    (run : (c.run vs).exec w = (res, w')) : HeldInv w' (Command.after vs res) := by
  have hgrow := Command.run_grows vs c w
  rw [run] at hgrow
  rcases c.after_cases run with h | ⟨v, u, a, hv, h⟩ | ⟨i, a, acc, r, a', hget, ha, h⟩ |
      ⟨i, j, a, b, d, ha, hb, hd, h⟩ <;> rw [h]
  · exact hi.mono hgrow
  · have hc := (Reachable.ofForeign hv).cacheInv
    exact (hi.append hc fun e he => by rw [WrapperArray.ofForeign_cache hv] at he; nomatch he).mono hgrow
  · exact Keeps.access ha vs i hget hi
  · exact hi.concat ha hb hd

end HeldInv

theorem Holding.heldInv {w : World} {vs : List WrapperArray} (h : Holding w vs) : HeldInv w vs := by
  induction h with
  | start w => exact HeldInv.start w
  | step c _ run ih => exact ih.command c run
  | other _ hle ih => exact ih.mono hle

theorem Holding.reachable {w : World} {vs : List WrapperArray} (h : Holding w vs) :
    ∀ a ∈ vs, Reachable a := by
  induction h with
  | start w => exact fun a ha => nomatch ha
  | step c _ run ih =>
    rcases c.after_cases run with h | ⟨v, u, a, hv, h⟩ | ⟨i, a, acc, r, a', hget, ha, h⟩ |
        ⟨i, j, a, b, d, ha, hb, hd, h⟩ <;> rw [h] <;> intro x hx
    · exact ih x hx
    · rcases List.mem_append.mp hx with hx | hx
      · exact ih x hx
      · exact List.mem_singleton.mp hx ▸ Reachable.ofForeign hv
    · rcases List.mem_or_eq_of_mem_set hx with hx | rfl
      · exact ih x hx
      · exact (ih a (List.mem_of_getElem? hget)).access ha
    · rcases List.mem_append.mp hx with hx | hx
      · exact ih x hx
      · exact List.mem_singleton.mp hx ▸
          (ih a (List.mem_of_getElem? ha)).concat (ih b (List.mem_of_getElem? hb)) hd
  | other _ _ ih => exact ih

theorem Keyed.serials_pairwise {l : List (Handle × Wrapper)} (hk : Keyed l)
    (hn : ∀ e ∈ l, ∀ e' ∈ l, e.2.serial = e'.2.serial → e.2 = e'.2) :
    l.Pairwise fun e e' => e.2.serial ≠ e'.2.serial := by
  apply hk.distinct.imp_of_mem
  intro e e' he he' hso hser
  have hsrc : e.1 = e'.1 := by rw [← hk.sources e he, ← hk.sources e' he', hn e he e' he' hser]
  rw [hsrc, Handle.sameObject_iff.mpr rfl] at hso
  cases hso

/-- The cache invariant of every view a program holds, failed operations and joined views
included: with the cache off the cache is empty; no two entries are of the same object, so a
lookup matches at most one entry; each entry's wrapper wraps the entry's object; and the entries
hold distinct wrapper instances, each made before the world's count. -/
theorem reachable_cache_invariant {w : World} {vs : List WrapperArray} (h : Holding w vs) :
    ∀ a ∈ vs,
      (a.useCache = false → a.cache = []) ∧
      a.cache.Pairwise (fun e e' => e.1.sameObject e'.1 = false) ∧
      (∀ o : Handle, (a.cache.filter fun e => e.1.sameObject o).length ≤ 1) ∧
      (∀ e ∈ a.cache, e.2.source = e.1) ∧
      a.cache.Pairwise (fun e e' => e.2.serial ≠ e'.2.serial) ∧
      (∀ e ∈ a.cache, e.2.serial < w.made) := by
  intro a ha
  have hi := h.heldInv
  have hc := hi.caches a ha
  have hcached : ∀ e ∈ a.cache, Cached vs e.2 := fun e he => ⟨a, ha, e, he, rfl⟩
  refine ⟨hc.off_empty, hc.keyed.distinct, hc.keyed.lookup_unique, hc.keyed.sources, ?_, ?_⟩
  · exact hc.keyed.serials_pairwise fun e he e' he' =>
      hi.issued.named _ _ (hcached e he) (hcached e' he')
  · exact fun e he => hi.issued.below _ (hcached e he)

def bareHost : Host := (Host.create Files.none { preloadSampleClasses := false }).toOption.getD default

def arrayWorld : World :=
  { host := (Host.exec (Host.eval "let p = \x7b\x7d; [p, \x7b\x7d, p]") bareHost).2 }

theorem cached_and_joined_views_keep_invariant :
    Holding (Command.runList [.view (.object ⟨195⟩) true, .on 0 .toList, .concat 0 0] arrayWorld
      []).1 (Command.runList [.view (.object ⟨195⟩) true, .on 0 .toList, .concat 0 0] arrayWorld
      []).2 ∧
    (Command.runList [.view (.object ⟨195⟩) true, .on 0 .toList, .concat 0 0] arrayWorld
      []).2.map (fun a => a.cache.map fun e => e.2.serial) = [[0, 1], [0, 1]] ∧
    ∀ a ∈ (Command.runList [.view (.object ⟨195⟩) true, .on 0 .toList, .concat 0 0] arrayWorld
      []).2,
      (a.useCache = false → a.cache = []) ∧
      a.cache.Pairwise (fun e e' => e.1.sameObject e'.1 = false) ∧
      (∀ o : Handle, (a.cache.filter fun e => e.1.sameObject o).length ≤ 1) ∧
      (∀ e ∈ a.cache, e.2.source = e.1) ∧
      a.cache.Pairwise (fun e e' => e.2.serial ≠ e'.2.serial) ∧
      (∀ e ∈ a.cache, e.2.serial < (Command.runList [.view (.object ⟨195⟩) true, .on 0 .toList,
        .concat 0 0] arrayWorld []).1.made) := by
  have h := (Holding.start arrayWorld).runList [.view (.object ⟨195⟩) true, .on 0 .toList,
    .concat 0 0]
  exact ⟨h, by decide +kernel, reachable_cache_invariant h⟩

end ScriptBridge.Wrapper
