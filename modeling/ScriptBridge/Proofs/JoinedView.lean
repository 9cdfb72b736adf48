import Mathlib.Data.Set.Card
import ScriptBridge.Proofs.ArrayView

/-!
# The view a join makes

`concat` asks the script to join two arrays and makes a view of the result. The new view caches
when the first one does, and then starts from the first view's cache followed by the entries of
the second one for objects the first does not hold, in the second one's order; so an object
cached on both sides keeps the first view's wrapper, and the new cache holds one entry for each
object the two caches hold between them. A join the script fails, or that does not come back as
an object, makes no view.

Views are values: a join reads the two views it is given and hands back a third. A program
holding several views runs `Command`s on them; a join adds the new view to those held and leaves
the others as they were.
-/

namespace ScriptBridge.Wrapper

open ScriptBridge.Host

namespace WrapperArray

def holds (l : List (Handle × Wrapper)) (h : Handle) : Bool := l.any fun c => c.1.sameObject h

theorem mergeCaches_eq {mine other : List (Handle × Wrapper)}
    (hd : other.Pairwise fun e e' => e.1.sameObject e'.1 = false) :
    mergeCaches mine other = mine ++ other.filter fun e => !holds mine e.1 := by
  induction other generalizing mine with
  | nil => simp [mergeCaches]
  | cons e rest ih =>
    obtain ⟨he, hrest⟩ := List.pairwise_cons.mp hd
    simp only [mergeCaches, List.foldl_cons] at ih ⊢
    by_cases hm : holds mine e.1 = true
    · have hstep : (if mine.any (fun c => c.1.sameObject e.1) then mine else mine ++ [e]) = mine := by
        simp only [holds] at hm
        simp [hm]
      rw [hstep, ih hrest, List.filter_cons_of_neg (by simp [hm])]
    · have hstep :
          (if mine.any (fun c => c.1.sameObject e.1) then mine else mine ++ [e]) = mine ++ [e] := by
        simp only [holds, Bool.not_eq_true] at hm
        simp [hm]
      have hsame : ∀ x ∈ rest, (!holds (mine ++ [e]) x.1) = !holds mine x.1 := by
        intro x hx
        simp [holds, List.any_append, he x hx]
      rw [hstep, ih hrest, List.filter_congr hsame, List.filter_cons_of_pos (by simpa using hm)]
      simp

theorem find?_filter_of_imp {l : List (Handle × Wrapper)} {p q : Handle × Wrapper → Bool}
    (hpq : ∀ e ∈ l, p e = true → q e = true) : (l.filter q).find? p = l.find? p := by
  induction l with
  | nil => rfl
  | cons e rest ih =>
    have ih' := ih fun x hx => hpq x (List.mem_cons_of_mem _ hx)
    by_cases hp : p e = true
    · rw [List.filter_cons_of_pos (hpq e List.mem_cons_self hp), List.find?_cons_of_pos hp,
        List.find?_cons_of_pos hp]
    · rw [List.find?_cons_of_neg hp, ← ih']
      by_cases hq : q e = true
      · rw [List.filter_cons_of_pos hq, List.find?_cons_of_neg hp]
      · rw [List.filter_cons_of_neg hq]

theorem find?_eq_none_of_not_holds {l : List (Handle × Wrapper)} {h : Handle}
    (hn : holds l h = false) : l.find? (fun c => c.1.sameObject h) = none := by
  rw [List.find?_eq_none]
  intro x hx
  simp only [holds, List.any_eq_false] at hn
  simpa using hn x hx

theorem lookup_mergeCaches {mine other : List (Handle × Wrapper)}
    (hd : other.Pairwise fun e e' => e.1.sameObject e'.1 = false) (h : Handle) :
    ((mergeCaches mine other).find? fun c => c.1.sameObject h).map Prod.snd =
      (((mine.find? fun c => c.1.sameObject h).map Prod.snd).or
        ((other.find? fun c => c.1.sameObject h).map Prod.snd)) := by
  rw [mergeCaches_eq hd, List.find?_append]
  cases hm : holds mine h
  · rw [find?_eq_none_of_not_holds hm, find?_filter_of_imp]
    · simp
    · intro e _ he
      rw [Handle.sameObject_iff.mp he]
      simp [hm]
  · obtain ⟨x, hx, hxs⟩ := List.any_eq_true.mp hm
    have hfound : (mine.find? fun c => c.1.sameObject h).isSome := by
      rw [List.find?_isSome]
      exact ⟨x, hx, hxs⟩
    obtain ⟨y, hy⟩ := Option.isSome_iff_exists.mp hfound
    simp [hy]

end WrapperArray

namespace Keyed

variable {l : List (Handle × Wrapper)}

theorem keys_nodup (hl : Keyed l) : (l.map Prod.fst).Nodup := by
  rw [List.Nodup, List.pairwise_map]
  refine hl.distinct.imp fun {e e'} hs heq => ?_
  rw [heq] at hs
  simp [Handle.sameObject] at hs

theorem length_eq_ncard (hl : Keyed l) : l.length = {h | ∃ e ∈ l, e.1 = h}.ncard := by
  classical
  have hset : {h | ∃ e ∈ l, e.1 = h} = ((l.map Prod.fst).toFinset : Set Handle) := by
    ext h
    simp
  rw [hset, Set.ncard_coe_finset, List.toFinset_card_of_nodup hl.keys_nodup, List.length_map]

end Keyed

namespace WrapperArray

theorem objects_mergeCaches {mine other : List (Handle × Wrapper)}
    (hd : other.Pairwise fun e e' => e.1.sameObject e'.1 = false) :
    {h | ∃ e ∈ mergeCaches mine other, e.1 = h} = {h | ∃ e ∈ mine ++ other, e.1 = h} := by
  rw [mergeCaches_eq hd]
  ext h
  simp only [Set.mem_ofPred_eq, List.mem_append, List.mem_filter]
  constructor
  · rintro ⟨e, he | ⟨he, -⟩, rfl⟩
    · exact ⟨e, .inl he, rfl⟩
    · exact ⟨e, .inr he, rfl⟩
  · rintro ⟨e, he | he, rfl⟩
    · exact ⟨e, .inl he, rfl⟩
    · cases hm : holds mine e.1
      · exact ⟨e, .inr ⟨he, by simp [hm]⟩, rfl⟩
      · obtain ⟨x, hx, hxs⟩ := List.any_eq_true.mp hm
        exact ⟨x, .inl hx, Handle.sameObject_iff.mp hxs⟩

theorem concat_exec (a b : WrapperArray) (w : World) :
    (a.concat b).exec w =
      match Host.exec (Host.invoke a.source "concat" [.object b.source]) w.host with
      | (.error e, h) => (.error e, { w with host := h })
      | (.ok (.object j), h) =>
        (.ok (if a.useCache then { source := j, useCache := true, cache := mergeCaches a.cache b.cache }
          else { source := j, useCache := false }), { w with host := h })
      | (.ok v, h) => (.error (.invalidReference v.kind), { w with host := h }) := by
  simp only [concat, Op.exec_bind, Op.exec_host]
  rcases Host.exec (Host.invoke a.source "concat" [.object b.source]) w.host with ⟨_ | v, h⟩
  · rfl
  · cases v with
    | object j => cases a.useCache <;> rfl
    | _ => rfl

end WrapperArray

theorem concat_cache {a b c : WrapperArray} {w w' : World} (hb : CacheInv b)
    (run : (a.concat b).exec w = (.ok c, w')) :
    c.useCache = a.useCache ∧
    (a.useCache = true → c.cache = a.cache ++ b.cache.filter fun e => !WrapperArray.holds a.cache e.1) ∧
    (a.useCache = false → c.cache = []) := by
  obtain ⟨hu, hc⟩ := WrapperArray.concat_exec_ok run
  refine ⟨hu, fun hon => ?_, fun hoff => ?_⟩
  · rw [hc, hon, if_pos rfl, WrapperArray.mergeCaches_eq hb.keyed.distinct]
  · rw [hc, hoff]
    rfl

/-- The cache a join starts with, and what it means for later reads. A join of two views that
keep the cache invariant (the second may be the first) calls the script's `concat` once; when that
fails, or does not give an object, the join fails with that error and makes no view. Otherwise
the new view caches exactly when the first one does; with the cache off it starts empty,
whatever the second view holds; with it on, its cache is the first cache followed, in the second
cache's order, by the second cache's entries of objects the first does not hold, so a lookup
finds the first view's wrapper for an object both hold and the new cache holds one entry per
object the two caches hold between them. The new view keeps the cache invariant, and the join
makes no wrapper. The views joined are values the join only reads. -/
theorem concat_merges_caches {a b : WrapperArray} (ha : CacheInv a) (hb : CacheInv b) (w : World) :
    ((a.concat b).exec w =
      match Host.exec (Host.invoke a.source "concat" [.object b.source]) w.host with
      | (.error e, h) => (.error e, { w with host := h })
      | (.ok (.object j), h) =>
        (.ok (if a.useCache then
            { source := j, useCache := true, cache := WrapperArray.mergeCaches a.cache b.cache }
          else { source := j, useCache := false }), { w with host := h })
      | (.ok v, h) => (.error (.invalidReference v.kind), { w with host := h })) ∧
    ∀ c w', (a.concat b).exec w = (.ok c, w') →
      c.useCache = a.useCache ∧
      (a.useCache = true →
        c.cache = a.cache ++ b.cache.filter (fun e => !WrapperArray.holds a.cache e.1) ∧
        (∀ h, c.cached h = (a.cached h).or (b.cached h)) ∧
        c.cachedLen = {h | ∃ e ∈ a.cache ++ b.cache, e.1 = h}.ncard) ∧
      (a.useCache = false → c.cache = []) ∧
      CacheInv c ∧ w'.made = w.made := by
  refine ⟨WrapperArray.concat_exec a b w, fun c w' run => ?_⟩
  obtain ⟨hu, hon, hoff⟩ := concat_cache hb run
  have hc : CacheInv c := ha.concat hb run
  refine ⟨hu, fun h => ⟨hon h, fun o => ?_, ?_⟩, hoff, hc, ?_⟩
  · obtain ⟨-, hmerge⟩ := WrapperArray.concat_exec_ok run
    rw [h, if_pos rfl] at hmerge
    simp only [WrapperArray.cached, hmerge]
    exact WrapperArray.lookup_mergeCaches hb.keyed.distinct o
  · obtain ⟨-, hmerge⟩ := WrapperArray.concat_exec_ok run
    rw [h, if_pos rfl] at hmerge
    rw [WrapperArray.cachedLen, hc.keyed.length_eq_ncard, hmerge,
      WrapperArray.objects_mergeCaches hb.keyed.distinct]
  · rw [WrapperArray.concat_exec] at run
    rcases hx : Host.exec (Host.invoke a.source "concat" [.object b.source]) w.host with ⟨_ | v, h⟩ <;>
      rw [hx] at run
    · cases run
    · cases v with
      | object j =>
        simp only [Prod.mk.injEq] at run
        rw [← run.2]
      | _ => cases run

def joinLeft : WrapperArray := { source := ⟨195⟩, useCache := true, cache := [(⟨193⟩, ⟨0, ⟨193⟩⟩)] }

def joinRight : WrapperArray :=
  { source := ⟨195⟩, useCache := true, cache := [(⟨194⟩, ⟨1, ⟨194⟩⟩), (⟨193⟩, ⟨2, ⟨193⟩⟩)] }

theorem concat_merges_caches_overlapping :
    CacheInv joinLeft ∧ CacheInv joinRight ∧
    ((joinLeft.concat joinRight).exec arrayWorld).1.toOption.map
      (fun c => (c.source.ref, c.cache.map fun e => e.2.serial)) = some (196, [0, 1]) ∧
    ((joinLeft.concat joinRight).exec arrayWorld =
      match Host.exec (Host.invoke joinLeft.source "concat" [.object joinRight.source])
          arrayWorld.host with
      | (.error e, h) => (.error e, { arrayWorld with host := h })
      | (.ok (.object j), h) =>
        (.ok (if joinLeft.useCache then
            { source := j, useCache := true,
              cache := WrapperArray.mergeCaches joinLeft.cache joinRight.cache }
          else { source := j, useCache := false }), { arrayWorld with host := h })
      | (.ok v, h) => (.error (.invalidReference v.kind), { arrayWorld with host := h })) ∧
    ∀ c w', (joinLeft.concat joinRight).exec arrayWorld = (.ok c, w') →
      c.useCache = joinLeft.useCache ∧
      (joinLeft.useCache = true →
        c.cache = joinLeft.cache ++
          joinRight.cache.filter (fun e => !WrapperArray.holds joinLeft.cache e.1) ∧
        (∀ h, c.cached h = (joinLeft.cached h).or (joinRight.cached h)) ∧
        c.cachedLen = {h | ∃ e ∈ joinLeft.cache ++ joinRight.cache, e.1 = h}.ncard) ∧
      (joinLeft.useCache = false → c.cache = []) ∧
      CacheInv c ∧ w'.made = arrayWorld.made := by
  have ha : CacheInv joinLeft :=
    ⟨fun h => by simp [joinLeft] at h, ⟨by simp [joinLeft], by simp [joinLeft]⟩⟩
  have hb : CacheInv joinRight :=
    ⟨fun h => by simp [joinRight] at h, ⟨by simp [joinRight, Handle.sameObject], by simp [joinRight]⟩⟩
  exact ⟨ha, hb, by decide +kernel, concat_merges_caches ha hb arrayWorld⟩

end ScriptBridge.Wrapper
