import ScriptBridge.Proofs.Exec
import ScriptBridge.Wrapper.Shapes

/-!
# Wrapper identity

What `adapt` and `wrap` hand out, read off one run from a world. A refused value leaves the world
as it was; the current wrapper is handed back without making anything; a new wrapper takes the
next serial, so it is none of the wrappers made before it. From these three outcomes adaptation
is idempotent, a line's endpoints are always new wrappers, and a point's `move` and `plus` hand
back the receiver exactly when the script's result is the receiver's own object.
-/

namespace ScriptBridge.Wrapper

open ScriptBridge.Host

def World.Existing (w : World) (x : Wrapper) : Prop := x.serial < w.made

theorem adapt_run (current : Wrapper) (v : Foreign) (w : World) :
    (adapt current v).exec w =
      match v with
      | .object h => if h.sameObject current.source then (.ok current, w)
        else (.ok ⟨w.made, h⟩, { w with made := w.made + 1 })
      | _ => (.error (.invalidReference v.kind), w) := by
  cases v with
  | object h =>
    cases hs : h.sameObject current.source <;> simp [adapt, Op.exec_bind, Foreign.intoHandle, hs]
  | _ => simp [adapt, Op.exec_bind, Foreign.intoHandle]

theorem wrap_run (v : Foreign) (w : World) :
    (wrap v).exec w =
      match v with
      | .object h => (.ok ⟨w.made, h⟩, { w with made := w.made + 1 })
      | _ => (.error (.invalidReference v.kind), w) := by
  cases v <;> simp [wrap, Op.exec_bind, Foreign.intoHandle]

theorem fresh_not_existing (w : World) (h : Handle) {x : Wrapper} (hx : w.Existing x) :
    (⟨w.made, h⟩ : Wrapper) ≠ x := by
  intro heq
  subst heq
  exact Nat.lt_irrefl _ hx

theorem adapt_source {current r : Wrapper} {v : Foreign} {w w' : World}
    (run : (adapt current v).exec w = (.ok r, w')) : v = .object r.source := by
  rw [adapt_run] at run
  cases v with
  | object h =>
    cases hs : h.sameObject current.source
    · simp only [hs, Bool.false_eq_true, if_false, Prod.mk.injEq, Except.ok.injEq] at run
      rw [← run.1]
    · simp only [hs, if_true, Prod.mk.injEq, Except.ok.injEq] at run
      rw [← run.1, Handle.sameObject_iff.mp hs]
  | _ => simp at run

theorem adapt_idempotent {current r : Wrapper} {v v' : Foreign} {w w' : World}
    (run : (adapt current v).exec w = (.ok r, w')) (same : v.eq v' = true) (w'' : World) :
    (adapt r v').exec w'' = (.ok r, w'') := by
  have hv := adapt_source run
  subst hv
  cases v' with
  | object h' =>
    simp only [Foreign.eq, Handle.sameObject_iff] at same
    have hh : h'.sameObject r.source = true := Handle.sameObject_iff.mpr same.symm
    simp [adapt_run, hh]
  | _ => simp [Foreign.eq] at same

theorem adapt_after_host_eq_self_iff {p r : Wrapper} {x : HostM Foreign} {w w' : World}
    (hp : w.Existing p) (run : (do adapt p (← Op.host x) : Op Wrapper).exec w = (.ok r, w')) :
    r = p ↔ ∃ h', Host.exec x w.host = (.ok (.object p.source), h') := by
  rw [Op.exec_bind, Op.exec_host] at run
  rcases hx : Host.exec x w.host with ⟨_ | v, h'⟩
  · simp [hx] at run
  · simp only [hx] at run
    rw [adapt_run] at run
    cases v with
    | object h =>
      cases hs : h.sameObject p.source
      · simp only [hs, Bool.false_eq_true, if_false, Prod.mk.injEq, Except.ok.injEq] at run
        have hhp : h ≠ p.source := fun e => by simp [e, Handle.sameObject] at hs
        constructor
        · intro e
          exact absurd (run.1.trans e) (fresh_not_existing w h hp)
        · rintro ⟨h'', e⟩
          simp only [Prod.mk.injEq, Except.ok.injEq, Foreign.object.injEq] at e
          exact absurd e.1 hhp
      · simp only [hs, if_true, Prod.mk.injEq, Except.ok.injEq] at run
        simp [← run.1, Handle.sameObject_iff.mp hs]
    | _ => simp at run

theorem wrap_after_host_fresh {r : Wrapper} {x : HostM Foreign} {w w' : World}
    (run : (do wrap (← Op.host x) : Op Wrapper).exec w = (.ok r, w')) :
    r.serial = w.made ∧ w'.made = w.made + 1 := by
  rw [Op.exec_bind, Op.exec_host] at run
  rcases hx : Host.exec x w.host with ⟨_ | v, h'⟩
  · simp [hx] at run
  · simp only [hx] at run
    rw [wrap_run] at run
    cases v with
    | object h =>
      simp only [Prod.mk.injEq, Except.ok.injEq] at run
      rw [← run.1, ← run.2]
      exact ⟨rfl, rfl⟩
    | _ => simp at run

theorem Point.moveBy_eq_self_iff {p r : Wrapper} {dx dy : Float} {w w' : World}
    (hp : w.Existing p) (run : (Point.moveBy p dx dy).exec w = (.ok r, w')) :
    r = p ↔ ∃ h', Host.exec (Host.invoke p.source "move" [.number dx, .number dy]) w.host =
      (.ok (.object p.source), h') :=
  adapt_after_host_eq_self_iff hp run

theorem Point.plus_eq_self_iff {p q r : Wrapper} {w w' : World}
    (hp : w.Existing p) (run : (Point.plus p q).exec w = (.ok r, w')) :
    r = p ↔ ∃ h', Host.exec (Host.invoke p.source "plus" [q.toForeign]) w.host =
      (.ok (.object p.source), h') :=
  adapt_after_host_eq_self_iff hp run

theorem Line.start_fresh {l r : Wrapper} {w w' : World} (run : (Line.start l).exec w = (.ok r, w')) :
    ¬ w.Existing r ∧ w'.Existing r := by
  obtain ⟨hs, hm⟩ := wrap_after_host_fresh run
  simp only [World.Existing, hs, hm]
  omega

theorem Line.finish_fresh {l r : Wrapper} {w w' : World}
    (run : (Line.finish l).exec w = (.ok r, w')) : ¬ w.Existing r ∧ w'.Existing r := by
  obtain ⟨hs, hm⟩ := wrap_after_host_fresh run
  simp only [World.Existing, hs, hm]
  omega

/-- Wrapper identity across adaptation. `adapt` refuses a value that is not an object with its
kind and changes nothing, hands the current wrapper back for its own object without making
anything, and otherwise makes a wrapper of the candidate's object that is none of those made
before; so adapting again with the result, for any value of the same object, gives the result.
`wrap` refuses alike but always makes a wrapper, so a line's endpoints are new wrappers, while a
point's `move` and `plus` hand back the receiver exactly when the script's result is the
receiver's object. -/
theorem adapt_preserves_identity :
    (∀ (current : Wrapper) (v : Foreign) (w : World),
      (adapt current v).exec w =
        match v with
        | .object h => if h.sameObject current.source then (.ok current, w)
          else (.ok ⟨w.made, h⟩, { w with made := w.made + 1 })
        | _ => (.error (.invalidReference v.kind), w)) ∧
    (∀ (w : World) (h : Handle) (x : Wrapper), w.Existing x → (⟨w.made, h⟩ : Wrapper) ≠ x) ∧
    (∀ (current r : Wrapper) (v v' : Foreign) (w w' w'' : World),
      (adapt current v).exec w = (.ok r, w') → v.eq v' = true →
        (adapt r v').exec w'' = (.ok r, w'') ∧ (adapt r r.toForeign).exec w'' = (.ok r, w'')) ∧
    (∀ (v : Foreign) (w : World),
      (wrap v).exec w =
        match v with
        | .object h => (.ok ⟨w.made, h⟩, { w with made := w.made + 1 })
        | _ => (.error (.invalidReference v.kind), w)) ∧
    (∀ (l r : Wrapper) (w w' : World),
      ((Line.start l).exec w = (.ok r, w') ∨ (Line.finish l).exec w = (.ok r, w')) →
        ¬ w.Existing r ∧ w'.Existing r) ∧
    (∀ (p q r : Wrapper) (dx dy : Float) (w w' : World), w.Existing p →
      ((Point.moveBy p dx dy).exec w = (.ok r, w') →
        (r = p ↔ ∃ h', Host.exec (Host.invoke p.source "move" [.number dx, .number dy]) w.host =
          (.ok (.object p.source), h'))) ∧
      ((Point.plus p q).exec w = (.ok r, w') →
        (r = p ↔ ∃ h', Host.exec (Host.invoke p.source "plus" [q.toForeign]) w.host =
          (.ok (.object p.source), h')))) := by
  refine ⟨adapt_run, fun w h _ hx => fresh_not_existing w h hx, ?_, wrap_run, ?_, ?_⟩
  · intro current r v v' w w' w'' run same
    have hv := adapt_source run
    have own : v.eq r.toForeign = true := by simp [hv, Wrapper.toForeign, Foreign.eq, Handle.sameObject]
    exact ⟨adapt_idempotent run same w'', adapt_idempotent run own w''⟩
  · rintro l r w w' (run | run)
    · exact Line.start_fresh run
    · exact Line.finish_fresh run
  · intro p q r dx dy w w' hp
    exact ⟨Point.moveBy_eq_self_iff hp, Point.plus_eq_self_iff hp⟩

end ScriptBridge.Wrapper
