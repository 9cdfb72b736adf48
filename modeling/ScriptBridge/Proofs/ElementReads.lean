import Mathlib.Data.List.Forall2
import ScriptBridge.Proofs.ArrayView

/-!
# Reading every element

`toList` reads the length once and then each slot in order, as a caller calling `get` at `0`,
`1`, … would. Its outcome is said here without its loop. The host is read slot by slot
(`readSlots`, which stops at the first failure), and the values read are wrapped one after
another (`wrapEach`), which touches only the view and the count of wrappers made; the two stages
commute because neither touches what the other does.

What the wrapping gives is `ElementsRead`: one entry per value, nothing for a value that is not
an object and otherwise a wrapper of that object. With the cache on, each entry is the wrapper
the cache ends up filing under its object, and the cache grows by the objects it did not hold,
in the order first read; so two entries are one wrapper exactly when they are of one object.
-/

namespace ScriptBridge.Wrapper

open ScriptBridge.Host

def readSlots (src : Handle) : Nat → Nat → Host → List Foreign × Option HostError × Host
  | 0, _, h => ([], none, h)
  | n + 1, i, h =>
    match Host.exec (Host.getProperty src (toString i)) h with
    | (.ok v, h') =>
      let r := readSlots src n (i + 1) h'
      (v :: r.1, r.2)
    | (.error e, h') => ([], some e, h')

def firstNew (known : List Handle) : List Foreign → List Handle
  | [] => []
  | v :: vs =>
    match v with
    | .object h =>
      if known.any (·.sameObject h) then firstNew known vs else h :: firstNew (known ++ [h]) vs
    | _ => firstNew known vs

def Entry (v : Foreign) (g : Option Wrapper) : Prop :=
  match v with
  | .object h => g.map Wrapper.source = some h
  | _ => g = none

namespace WrapperArray

def wrapEach (a : WrapperArray) : List Foreign → Op (List (Option Wrapper) × WrapperArray)
  | [] => pure ([], a)
  | v :: vs => do
    let (g, a') ← a.wrapSlot v
    let (gs, a'') ← a'.wrapEach vs
    pure (g :: gs, a'')

def getEach (a : WrapperArray) : List Nat → Op (List (Option Wrapper) × WrapperArray)
  | [] => pure ([], a)
  | i :: is => do
    let (g, a') ← a.get i
    let (gs, a'') ← a'.getEach is
    pure (g :: gs, a'')

end WrapperArray

/-- What wrapping the values `vs` on view `a` gives: the entries `gs` and the view `a'` after. -/
structure ElementsRead (a : WrapperArray) (vs : List Foreign) (gs : List (Option Wrapper))
    (a' : WrapperArray) : Prop where
  entries : List.Forall₂ Entry vs gs
  source : a'.source = a.source
  useCache : a'.useCache = a.useCache
  off : a.useCache = false → a'.cache = a.cache
  /-- The cache grows by the objects it did not hold, in the order first read. -/
  grows : a.useCache = true →
    ∃ ext, a'.cache = a.cache ++ ext ∧ ext.map Prod.fst = firstNew (a.cache.map Prod.fst) vs
  /-- Each entry of an object is the wrapper the cache files under it at the end. -/
  shared : a.useCache = true →
    List.Forall₂ (fun v g => ∀ h, v = .object h → g = a'.cached h) vs gs

section Reading

variable {src : Handle} {n i : Nat} {h₀ h : Host} {vs : List Foreign}

theorem readSlots_of_ok {v : Foreign} {h₁ : Host}
    (hx : Host.exec (Host.getProperty src (toString i)) h₀ = (.ok v, h₁)) :
    readSlots src (n + 1) i h₀ =
      ((v :: (readSlots src n (i + 1) h₁).1), (readSlots src n (i + 1) h₁).2) := by
  simp only [readSlots, hx]

theorem readSlots_of_error {e : HostError} {h₁ : Host}
    (hx : Host.exec (Host.getProperty src (toString i)) h₀ = (.error e, h₁)) :
    readSlots src (n + 1) i h₀ = ([], some e, h₁) := by
  simp only [readSlots, hx]

theorem readSlots_complete (hr : readSlots src n i h₀ = (vs, none, h)) : vs.length = n := by
  induction n generalizing i h₀ vs with
  | zero =>
    simp only [readSlots, Prod.mk.injEq] at hr
    rw [← hr.1]
    rfl
  | succ n ih =>
    rcases hx : Host.exec (Host.getProperty src (toString i)) h₀ with ⟨_ | v, h₁⟩
    · simp [readSlots_of_error hx] at hr
    · rw [readSlots_of_ok hx] at hr
      rcases hrest : readSlots src n (i + 1) h₁ with ⟨vs', err', h'⟩
      simp only [hrest, Prod.mk.injEq] at hr
      obtain ⟨rfl, rfl, rfl⟩ := hr
      simpa using ih hrest

theorem readSlots_failure {e : HostError} (hr : readSlots src n i h₀ = (vs, some e, h)) :
    vs.length < n ∧ ∃ hk, readSlots src vs.length i h₀ = (vs, none, hk) ∧
      Host.exec (Host.getProperty src (toString (i + vs.length))) hk = (.error e, h) := by
  induction n generalizing i h₀ vs with
  | zero => simp [readSlots] at hr
  | succ n ih =>
    rcases hx : Host.exec (Host.getProperty src (toString i)) h₀ with ⟨_ | v, h₁⟩
    · simp only [readSlots_of_error hx, Prod.mk.injEq, Option.some.injEq] at hr
      obtain ⟨rfl, rfl, rfl⟩ := hr
      exact ⟨Nat.succ_pos n, h₀, rfl, hx⟩
    · rw [readSlots_of_ok hx] at hr
      rcases hrest : readSlots src n (i + 1) h₁ with ⟨vs', err', h'⟩
      simp only [hrest, Prod.mk.injEq] at hr
      obtain ⟨rfl, rfl, rfl⟩ := hr
      obtain ⟨hlt, hk, hpre, hfail⟩ := ih hrest
      refine ⟨by simpa using hlt, hk, ?_, ?_⟩
      · rw [List.length_cons, readSlots_of_ok hx, hpre]
      · rw [List.length_cons, ← Nat.add_assoc, Nat.add_right_comm i]
        exact hfail

end Reading

theorem firstNew_append (known : List Handle) (xs ys : List Foreign) :
    firstNew known (xs ++ ys) = firstNew known xs ++ firstNew (known ++ firstNew known xs) ys := by
  induction xs generalizing known with
  | nil => simp [firstNew]
  | cons v xs ih =>
    cases v with
    | object o =>
      cases hk : known.any (·.sameObject o)
      · simp [firstNew, hk, ih]
      · simp only [List.cons_append, firstNew, hk, if_true, ih]
    | _ => simp only [List.cons_append, firstNew, ih]

namespace WrapperArray

theorem cached_of_cache_eq_append {a b : WrapperArray} {ext : List (Handle × Wrapper)}
    (hb : b.cache = a.cache ++ ext) {h : Handle} {x : Wrapper} (hx : a.cached h = some x) :
    b.cached h = some x := by
  unfold cached at hx ⊢
  obtain ⟨e, he, rfl⟩ := Option.map_eq_some_iff.mp hx
  rw [hb, List.find?_append, he]
  rfl

theorem wrapSlot_exec_ok (a : WrapperArray) (v : Foreign) (w : World) :
    ∃ g c m, (a.wrapSlot v).exec w = (.ok (g, { a with cache := c }), { w with made := m }) := by
  rw [wrapSlot_exec]
  split
  · split
    · split <;> exact ⟨_, _, _, rfl⟩
    · exact ⟨_, _, _, rfl⟩
  · exact ⟨_, _, _, rfl⟩

theorem wrapSlot_exec_host (a : WrapperArray) (v : Foreign) (w : World) (h : Host) :
    (a.wrapSlot v).exec { w with host := h } =
      (((a.wrapSlot v).exec w).1, { ((a.wrapSlot v).exec w).2 with host := h }) := by
  rw [wrapSlot_exec, wrapSlot_exec]
  split
  · split
    · split <;> rfl
    · rfl
  · rfl

theorem isSome_cached (a : WrapperArray) (o : Handle) :
    (a.cached o).isSome = (a.cache.map Prod.fst).any (·.sameObject o) := by
  simp [cached, List.isSome_find?, List.any_map, Function.comp_def]

theorem cached_snoc_of_none {a : WrapperArray} {o : Handle} (hc : a.cached o = none) (x : Wrapper) :
    ({ a with cache := a.cache ++ [(o, x)] } : WrapperArray).cached o = some x := by
  have hnone := cached_eq_none_iff.mp hc
  unfold cached
  rw [List.find?_append, List.find?_eq_none.mpr (by simpa using hnone)]
  simp [Handle.sameObject]

theorem wrapEach_cons_exec (a : WrapperArray) (v : Foreign) (vs : List Foreign) (w : World) :
    (a.wrapEach (v :: vs)).exec w =
      match (a.wrapSlot v).exec w with
      | (.ok (g, a₁), w₁) =>
        match (a₁.wrapEach vs).exec w₁ with
        | (.ok (gs, a'), w') => (.ok (g :: gs, a'), w')
        | (.error e, w') => (.error e, w')
      | (.error e, w₁) => (.error e, w₁) := by
  simp only [wrapEach, Op.exec_bind]
  rcases (a.wrapSlot v).exec w with ⟨_ | ⟨g, a₁⟩, w₁⟩
  · rfl
  · dsimp only
    rcases (a₁.wrapEach vs).exec w₁ with ⟨_ | ⟨gs, a'⟩, w'⟩ <;> rfl

theorem wrapEach_exec_host (a : WrapperArray) (vs : List Foreign) (w : World) (h : Host) :
    (a.wrapEach vs).exec { w with host := h } =
      (((a.wrapEach vs).exec w).1, { ((a.wrapEach vs).exec w).2 with host := h }) := by
  induction vs generalizing a w with
  | nil => rfl
  | cons v vs ih =>
    obtain ⟨g, c, m, hs⟩ := wrapSlot_exec_ok a v w
    have hrest := ih { a with cache := c } { w with made := m }
    rw [wrapEach_cons_exec, wrapEach_cons_exec, wrapSlot_exec_host, hs]
    dsimp only at hrest ⊢
    rw [hrest]
    rcases (WrapperArray.wrapEach { a with cache := c } vs).exec { w with made := m } with
      ⟨_ | ⟨gs, a'⟩, w'⟩ <;> rfl

end WrapperArray

open WrapperArray

theorem ElementsRead.nil (a : WrapperArray) : ElementsRead a [] [] a :=
  ⟨.nil, rfl, rfl, fun _ => rfl, fun _ => ⟨[], by simp, rfl⟩, fun _ => .nil⟩

theorem ElementsRead.wrapSlot {a a' : WrapperArray} (ha : CacheInv a) {v : Foreign}
    {g : Option Wrapper} {w w' : World} (run : (a.wrapSlot v).exec w = (.ok (g, a'), w')) :
    ElementsRead a [v] [g] a' := by
  rw [wrapSlot_exec] at run
  cases v with
  | object o =>
    cases hu : a.useCache
    · simp only [hu, Bool.false_eq_true, if_false, Prod.mk.injEq, Except.ok.injEq] at run
      obtain ⟨⟨rfl, rfl⟩, -⟩ := run
      exact ⟨.cons rfl .nil, rfl, rfl, fun _ => rfl, fun h => by simp [hu] at h,
        fun h => by simp [hu] at h⟩
    · have hfirst : firstNew (a.cache.map Prod.fst) [.object o] =
          if (a.cached o).isSome then [] else [o] := by
        rw [isSome_cached]
        simp [firstNew]
      cases hc : a.cached o with
      | some x =>
        simp only [hu, if_true, hc, Prod.mk.injEq, Except.ok.injEq] at run
        obtain ⟨⟨rfl, rfl⟩, -⟩ := run
        refine ⟨.cons (by simp [Entry, ha.cached_source hc]) .nil, rfl, rfl, fun _ => rfl,
          fun _ => ⟨[], by simp, by simp [hfirst, hc]⟩, fun _ => .cons ?_ .nil⟩
        rintro h ⟨⟩
        exact hc.symm
      | none =>
        simp only [hu, if_true, hc, Prod.mk.injEq, Except.ok.injEq] at run
        obtain ⟨⟨rfl, rfl⟩, -⟩ := run
        refine ⟨.cons rfl .nil, rfl, hu.symm, fun h => by simp [hu] at h,
          fun _ => ⟨_, rfl, by simp [hfirst, hc]⟩, fun _ => .cons ?_ .nil⟩
        rintro h ⟨⟩
        exact (cached_snoc_of_none hc _).symm
  | _ =>
    simp only [Prod.mk.injEq, Except.ok.injEq] at run
    obtain ⟨⟨rfl, rfl⟩, -⟩ := run
    exact ⟨.cons rfl .nil, rfl, rfl, fun _ => rfl, fun _ => ⟨[], by simp, rfl⟩,
      fun _ => .cons (fun _ hv => by cases hv) .nil⟩

theorem ElementsRead.append {a a₁ a' : WrapperArray} {vs vs' : List Foreign}
    {gs gs' : List (Option Wrapper)} (h₁ : ElementsRead a vs gs a₁) (h₂ : ElementsRead a₁ vs' gs' a') :
    ElementsRead a (vs ++ vs') (gs ++ gs') a' where
  entries := List.rel_append h₁.entries h₂.entries
  source := h₂.source.trans h₁.source
  useCache := h₂.useCache.trans h₁.useCache
  off hu := (h₂.off (h₁.useCache.trans hu)).trans (h₁.off hu)
  grows hu := by
    obtain ⟨e₁, hc₁, hk₁⟩ := h₁.grows hu
    obtain ⟨e₂, hc₂, hk₂⟩ := h₂.grows (h₁.useCache.trans hu)
    refine ⟨e₁ ++ e₂, by rw [hc₂, hc₁, List.append_assoc], ?_⟩
    rw [List.map_append, hk₁, hk₂, hc₁, List.map_append, hk₁, firstNew_append]
  shared hu := by
    have hu₁ := h₁.useCache.trans hu
    obtain ⟨e₂, hc₂, -⟩ := h₂.grows hu₁
    have hkeep : List.Forall₂ (fun v g => ∀ o, v = .object o → g = a'.cached o) vs gs := by
      refine List.Forall₂.mp (fun v g he hs o hv => ?_) h₁.entries (h₁.shared hu)
      subst hv
      obtain ⟨x, rfl, -⟩ := Option.map_eq_some_iff.mp he
      exact (cached_of_cache_eq_append hc₂ (hs o rfl).symm).symm
    exact List.rel_append hkeep (h₂.shared hu₁)

theorem wrapEach_spec {a : WrapperArray} (ha : CacheInv a) (vs : List Foreign) (w : World) :
    ∃ gs a' m, (a.wrapEach vs).exec w = (.ok (gs, a'), { w with made := m }) ∧
      ElementsRead a vs gs a' ∧ CacheInv a' := by
  induction vs generalizing a w with
  | nil => exact ⟨[], a, w.made, rfl, ElementsRead.nil a, ha⟩
  | cons v vs ih =>
    obtain ⟨g, c, m, hs⟩ := wrapSlot_exec_ok a v w
    obtain ⟨gs, a', m', hrest, hr, ha'⟩ := ih (ha.wrapSlot hs) { w with made := m }
    refine ⟨g :: gs, a', m', ?_, (ElementsRead.wrapSlot ha hs).append hr, ha'⟩
    rw [wrapEach_cons_exec, hs]
    dsimp only
    rw [hrest]

theorem forall₂_getElem? {α β : Type} {R : α → β → Prop} {l₁ : List α} {l₂ : List β}
    (h : List.Forall₂ R l₁ l₂) {i : ℕ} {x : α} (hx : l₁[i]? = some x) :
    ∃ y, l₂[i]? = some y ∧ R x y := by
  induction h generalizing i with
  | nil => simp at hx
  | cons hab _ ih =>
    cases i with
    | zero =>
      rw [List.getElem?_cons_zero, Option.some.injEq] at hx
      subst hx
      exact ⟨_, rfl, hab⟩
    | succ i => simpa using ih (by simpa using hx)

theorem ElementsRead.entry_eq_iff {a a' : WrapperArray} {vs : List Foreign}
    {gs : List (Option Wrapper)} (hr : ElementsRead a vs gs a') (hu : a.useCache = true)
    {i j : ℕ} {o o' : Handle} (hi : vs[i]? = some (.object o)) (hj : vs[j]? = some (.object o')) :
    gs[i]? = gs[j]? ↔ o = o' := by
  obtain ⟨g, hg, hgo⟩ := forall₂_getElem? hr.entries hi
  obtain ⟨g', hg', hgo'⟩ := forall₂_getElem? hr.entries hj
  rw [hg, hg', Option.some.injEq]
  constructor
  · rintro rfl
    exact Option.some.inj ((show g.map Wrapper.source = some o from hgo).symm.trans hgo')
  · rintro rfl
    obtain ⟨c, hc, hcg⟩ := forall₂_getElem? (hr.shared hu) hi
    obtain ⟨c', hc', hcg'⟩ := forall₂_getElem? (hr.shared hu) hj
    rw [hg, Option.some.injEq] at hc
    rw [hg', Option.some.injEq] at hc'
    rw [hc, hc', hcg o rfl, hcg' o rfl]

section Loops

variable {a : WrapperArray} {i : Nat} {w : World} {vs : List Foreign} {h : Host}

theorem collect_exec {n : Nat} {err : Option HostError} (acc : List (Option Wrapper))
    (hr : readSlots a.source n i w.host = (vs, err, h)) :
    (a.collect n i acc).exec w =
      match (a.wrapEach vs).exec { w with host := h } with
      | (.ok (gs, a'), w') => (.ok (err.elim (.ok (acc.reverse ++ gs)) Except.error, a'), w')
      | (.error e, w') => (.error e, w') := by
  induction n generalizing a i acc w vs err h with
  | zero =>
    simp only [readSlots, Prod.mk.injEq] at hr
    obtain ⟨rfl, rfl, rfl⟩ := hr
    simp [collect, wrapEach]
  | succ n ih =>
    rw [collect_succ_exec, get_eq, exec_read]
    rcases hx : Host.exec (Host.getProperty a.source (toString i)) w.host with ⟨_ | v, h₁⟩
    · rw [readSlots_of_error hx, Prod.mk.injEq, Prod.mk.injEq] at hr
      obtain ⟨rfl, rfl, rfl⟩ := hr
      rfl
    · rw [readSlots_of_ok hx] at hr
      rcases hrest : readSlots a.source n (i + 1) h₁ with ⟨vs', err', h'⟩
      simp only [hrest, Prod.mk.injEq] at hr
      obtain ⟨rfl, rfl, rfl⟩ := hr
      obtain ⟨g, c, m, hs⟩ := wrapSlot_exec_ok a v w
      dsimp only
      rw [wrapSlot_exec_host, hs, wrapEach_cons_exec, wrapSlot_exec_host, hs]
      dsimp only
      rw [ih (g :: acc) hrest]
      rcases (WrapperArray.wrapEach { a with cache := c } vs').exec { host := h', made := m } with
        ⟨_ | ⟨gs, a'⟩, w'⟩
      · rfl
      · simp

theorem getEach_exec {k : Nat} (hr : readSlots a.source k i w.host = (vs, none, h)) :
    (a.getEach (List.range' i k)).exec w = (a.wrapEach vs).exec { w with host := h } := by
  induction k generalizing a i w vs h with
  | zero =>
    simp only [readSlots, Prod.mk.injEq] at hr
    obtain ⟨rfl, -, rfl⟩ := hr
    rfl
  | succ k ih =>
    rcases hx : Host.exec (Host.getProperty a.source (toString i)) w.host with ⟨_ | v, h₁⟩
    · simp [readSlots_of_error hx] at hr
    · rw [readSlots_of_ok hx] at hr
      rcases hrest : readSlots a.source k (i + 1) h₁ with ⟨vs', err', h'⟩
      simp only [hrest, Prod.mk.injEq] at hr
      obtain ⟨rfl, rfl, rfl⟩ := hr
      obtain ⟨g, c, m, hs⟩ := wrapSlot_exec_ok a v w
      rw [List.range'_succ, getEach, Op.exec_bind, get_eq, exec_read, hx, wrapEach_cons_exec]
      dsimp only
      rw [wrapSlot_exec_host, hs, wrapSlot_exec_host, hs]
      dsimp only
      rw [Op.exec_bind, ih hrest]
      rcases (WrapperArray.wrapEach { a with cache := c } vs').exec { host := h', made := m } with
        ⟨_ | ⟨gs, a'⟩, w'⟩ <;> rfl

end Loops

/-- `toList` reads the length once and, if that fails, fails with it having read nothing else.
Otherwise, with `n` the length, it reads the slots from `0` on until one fails, and its outcome is
that of calling `get` at `0`, `1`, … in turn: all `n` entries when no read fails, or else the
failure, with the view the calls before it left. There is one entry per element read, nothing for
an element that is not an object and otherwise a wrapper of it; with the cache on, the cache grows
by the objects it did not hold in the order first read, and two entries are one wrapper exactly
when their elements are one object. -/
theorem toList_reads_each_element (a : WrapperArray) (ha : CacheInv a) (w : World) :
    (∀ e w₁, a.length.exec w = (.error e, w₁) → a.toList.exec w = (.error e, w₁)) ∧
    ∀ n w₁ vs err h, a.length.exec w = (.ok n, w₁) →
      readSlots a.source n 0 w₁.host = (vs, err, h) →
      ∃ gs a' m, ElementsRead a vs gs a' ∧
        (a.useCache = true → ∀ (i j : ℕ) (o o' : Handle), vs[i]? = some (.object o) →
          vs[j]? = some (.object o') → (gs[i]? = gs[j]? ↔ o = o')) ∧
        (err = none → vs.length = n ∧
          a.toList.exec w = (.ok (.ok gs, a'), { host := h, made := m }) ∧
          (a.getEach (List.range n)).exec w₁ = (.ok (gs, a'), { host := h, made := m })) ∧
        ∀ e, err = some e → vs.length < n ∧
          a.toList.exec w = (.ok (.error e, a'), { host := h, made := m }) ∧
          ∃ w₂, (a.getEach (List.range vs.length)).exec w₁ = (.ok (gs, a'), w₂) ∧
            (a'.get vs.length).exec w₂ = (.error e, { host := h, made := m }) := by
  refine ⟨fun e w₁ hl => ?_, fun n w₁ vs err h hl hr => ?_⟩
  · rw [toList, Op.exec_bind, hl]
  · obtain ⟨gs, a', m, hw, hER, -⟩ := wrapEach_spec ha vs { w₁ with host := h }
    have hlist : a.toList.exec w =
        (.ok (err.elim (.ok gs) Except.error, a'), { host := h, made := m }) := by
      rw [toList, Op.exec_bind, hl]
      dsimp only
      rw [collect_exec [] hr, hw]
      simp
    refine ⟨gs, a', m, hER, fun hu _ _ _ _ hi hj => hER.entry_eq_iff hu hi hj, ?_, ?_⟩
    · rintro rfl
      exact ⟨readSlots_complete hr, hlist, by rw [List.range_eq_range', getEach_exec hr, hw]⟩
    · rintro e rfl
      obtain ⟨hlt, hk, hpre, hfail⟩ := readSlots_failure hr
      have hwk := wrapEach_exec_host a vs { w₁ with host := h } hk
      rw [hw] at hwk
      refine ⟨hlt, hlist, _, by rw [List.range_eq_range', getEach_exec hpre]; exact hwk, ?_⟩
      rw [get_eq, exec_read]
      dsimp only
      rw [Nat.zero_add] at hfail
      rw [hER.source, hfail]

def cachingView : WrapperArray := { source := ⟨195⟩, useCache := true }

theorem fresh_view_reads_each_element :
    CacheInv cachingView ∧
    (cachingView.toList.exec arrayWorld).1.toOption.map
      (fun r => r.1.toOption.map (List.map (Option.map Wrapper.serial))) =
      some (some [some 0, some 1, some 0]) ∧
    (∀ e w₁, cachingView.length.exec arrayWorld = (.error e, w₁) →
      cachingView.toList.exec arrayWorld = (.error e, w₁)) ∧
    ∀ n w₁ vs err h, cachingView.length.exec arrayWorld = (.ok n, w₁) →
      readSlots cachingView.source n 0 w₁.host = (vs, err, h) →
      ∃ gs a' m, ElementsRead cachingView vs gs a' ∧
        (cachingView.useCache = true → ∀ (i j : ℕ) (o o' : Handle), vs[i]? = some (.object o) →
          vs[j]? = some (.object o') → (gs[i]? = gs[j]? ↔ o = o')) ∧
        (err = none → vs.length = n ∧
          cachingView.toList.exec arrayWorld = (.ok (.ok gs, a'), { host := h, made := m }) ∧
          (cachingView.getEach (List.range n)).exec w₁ =
            (.ok (gs, a'), { host := h, made := m })) ∧
        ∀ e, err = some e → vs.length < n ∧
          cachingView.toList.exec arrayWorld = (.ok (.error e, a'), { host := h, made := m }) ∧
          ∃ w₂, (cachingView.getEach (List.range vs.length)).exec w₁ = (.ok (gs, a'), w₂) ∧
            (a'.get vs.length).exec w₂ = (.error e, { host := h, made := m }) :=
  ⟨CacheInv.create ⟨195⟩ true, by decide +kernel,
    toList_reads_each_element _ (CacheInv.create ⟨195⟩ true) arrayWorld⟩

end ScriptBridge.Wrapper
