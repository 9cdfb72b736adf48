import Mathlib
import ScriptBridge.Proofs.OwnProperty
import ScriptBridge.Proofs.Utf16
import ScriptBridge.Wrapper.Shapes

/-!
# Values crossing between host and engine

`egress` hands a host value to the engine and `ingress` brings an engine value back. Every host
value but `other` crosses and comes back as itself: numbers keep their bits, handles their
object, and a string's escaped encoding is the string. The other way, a script value comes back
the same value exactly when it is neither a symbol nor a big integer (which cross as `other` and
are then refused) nor a string with a lone surrogate, whose escaped text is a different string
that crosses to the same host string.

A host write of a crossing value to a writable own data property of an ordinary object is read
back as that value, so a point's `x` after `setX d` is `d`.
-/

namespace ScriptBridge.Script

theorem Engine.run_eq {α : Type} (e : Engine) (work : Ops → M α) :
    e.run work =
      (((work (Calls.opsWith (Engine.fuel { e.realm with depth := 0, loops := 0, site := none }))).exec
          { e.realm with depth := 0, loops := 0, site := none }).1,
        ⟨((work (Calls.opsWith (Engine.fuel { e.realm with depth := 0, loops := 0, site := none }))).exec
          { e.realm with depth := 0, loops := 0, site := none }).2⟩) := rfl

theorem Engine.run_setProperty_writable {e : Engine} {o : Nat} {name : String} {x v : Value}
    {enum conf : Bool} (hk : (e.realm.obj o).kind = .ordinary)
    (hp : (e.realm.obj o).props.find? (Key.ofString name) = some ⟨.data v true, enum, conf⟩) :
    e.run (Engine.setProperty o name x) =
      (.ok (), ⟨{ e.realm with depth := 0, loops := 0, site := none }.putProp o (Key.ofString name)
        ⟨.data x true, enum, conf⟩⟩) := by
  have hk' : (({ e.realm with depth := 0, loops := 0, site := none } : Realm).obj o).kind =
    .ordinary := hk
  rw [Engine.run_eq]
  simp only [Engine.setProperty]
  rw [Objects.setOrThrow_writable hk' hp]

theorem Engine.run_getProperty_own {e : Engine} {o : Nat} {name : String} {v : Value}
    {w enum conf : Bool} (hk : (e.realm.obj o).kind = .ordinary)
    (hp : (e.realm.obj o).props.find? (Key.ofString name) = some ⟨.data v w, enum, conf⟩) :
    e.run (Engine.getProperty o name) =
      (.ok v, ⟨{ e.realm with depth := 0, loops := 0, site := none }⟩) := by
  have hk' : (({ e.realm with depth := 0, loops := 0, site := none } : Realm).obj o).kind =
    .ordinary := hk
  rw [Engine.run_eq]
  simp only [Engine.getProperty]
  rw [Objects.getKey_own_data hk' hp]

end ScriptBridge.Script

namespace ScriptBridge.Host

open ScriptBridge.Script

theorem egress_ok_iff (v : Foreign) : (∃ j, egress v = .ok j) ↔ v.kind ≠ "other" := by
  cases v <;> simp [egress, Foreign.kind]

theorem ingress_egress {v : Foreign} (hv : v.kind ≠ "other") (r : Realm) :
    (egress v).map (ingress r) = .ok v := by
  cases v with
  | string s => simp [egress, Value.ofString, ingress, Except.map, Units.toEscaped_ofString]
  | other s => exact absurd rfl hv
  | _ => rfl

theorem egress_ingress_sameValue_iff (r : Realm) (j : Value) :
    (∃ j', egress (ingress r j) = .ok j' ∧ j'.sameValue j = true) ↔
      (∀ i, j ≠ .sym i) ∧ (∀ n, j ≠ .bigint n) ∧ (∀ s, j = .str s → Units.isWellFormed s = true) := by
  cases j with
  | str s => simp [ingress, egress, Value.ofString, Value.sameValue, Units.ofString_toEscaped_eq_iff]
  | bigint n => simp [ingress, egress]
  | sym i => simp [ingress, egress]
  | _ => simp [ingress, egress, Value.sameValue]

theorem ingress_str_escaped (r : Realm) (u : Units) :
    ingress r (.str (Units.ofString (Units.toEscaped u))) = ingress r (.str u) := by
  simp [ingress, Units.toEscaped_ofString]

theorem setProperty_writable {h : Host} {t : Handle} {name : String} {x : Foreign} {j v : Value}
    {enum conf : Bool} (hj : egress x = .ok j) (hk : (h.engine.realm.obj t.ref).kind = .ordinary)
    (hp : (h.engine.realm.obj t.ref).props.find? (Key.ofString name) = some ⟨.data v true, enum, conf⟩) :
    Host.exec (setProperty t name x) h =
      (.ok (), { h with engine := ⟨{ h.engine.realm with depth := 0, loops := 0, site := none }.putProp
        t.ref (Key.ofString name) ⟨.data j true, enum, conf⟩⟩ }) := by
  simp only [setProperty, exec_bind, exec_lift, hj]
  rw [exec_work, Engine.run_setProperty_writable hk hp]

theorem getProperty_own (h : Host) {t : Handle} {name : String} {v : Value} {w enum conf : Bool}
    (hk : (h.engine.realm.obj t.ref).kind = .ordinary)
    (hp : (h.engine.realm.obj t.ref).props.find? (Key.ofString name) = some ⟨.data v w, enum, conf⟩) :
    Host.exec (getProperty t name) h =
      (.ok (ingress h.engine.realm v),
        { h with engine := ⟨{ h.engine.realm with depth := 0, loops := 0, site := none }⟩ }) := by
  simp only [getProperty, exec_bind]
  rw [exec_work, Engine.run_getProperty_own hk hp]
  rfl

theorem getProperty_after_setProperty {h : Host} {t : Handle} {name : String} {x : Foreign}
    {v : Value} {enum conf : Bool} (hx : x.kind ≠ "other")
    (hk : (h.engine.realm.obj t.ref).kind = .ordinary)
    (hp : (h.engine.realm.obj t.ref).props.find? (Key.ofString name) = some ⟨.data v true, enum, conf⟩) :
    ∃ h₁ h₂, Host.exec (setProperty t name x) h = (.ok (), h₁) ∧
      Host.exec (getProperty t name) h₁ = (.ok x, h₂) := by
  obtain ⟨j, hj⟩ := (egress_ok_iff x).mpr hx
  have hback : ∀ r, ingress r j = x := fun r => by simpa [hj, Except.map] using ingress_egress hx r
  have hk' : (({ h.engine.realm with depth := 0, loops := 0, site := none } : Realm).obj t.ref).kind =
    .ordinary := hk
  obtain ⟨hk₁, hp₁⟩ := Objects.putProp_writable hk' hp j
  set r₁ := ({ h.engine.realm with depth := 0, loops := 0, site := none } : Realm).putProp t.ref
    (Key.ofString name) ⟨.data j true, enum, conf⟩
  have hg := getProperty_own { h with engine := ⟨r₁⟩ } hk₁ hp₁
  rw [hback] at hg
  exact ⟨_, _, setProperty_writable hj hk hp, hg⟩

end ScriptBridge.Host

namespace ScriptBridge.Wrapper

open ScriptBridge.Host ScriptBridge.Script

theorem Point.x_after_setX {p : Wrapper} {d : Float} {w : World} {v : Value} {enum conf : Bool}
    (hk : (w.host.engine.realm.obj p.source.ref).kind = .ordinary)
    (hp : (w.host.engine.realm.obj p.source.ref).props.find? (Key.ofString "x") =
      some ⟨.data v true, enum, conf⟩) :
    ∃ w', (do Point.setX p d; Point.x p).exec w = (.ok d, w') := by
  obtain ⟨h₁, h₂, hs, hg⟩ :=
    getProperty_after_setProperty (show (Foreign.number d).kind ≠ "other" by simp [Foreign.kind]) hk hp
  simp only [Point.setX, Point.x, Op.exec_bind, Op.exec_host, hs, hg]
  exact ⟨_, rfl⟩

/-- Ingress and egress are inverse where both are defined. Egress refuses exactly the values
known only by their text; every other host value crosses and comes back as itself. A script
value comes back as the same value exactly when it is neither a symbol nor a big integer nor a
string with a lone surrogate; such a string comes back as the different string of its escaped
text, which crosses to the same host string. So a point's `x` read after `setX d` on a writable
own data property is `d`, whatever double `d` is. -/
theorem ingress_egress_inverse :
    (∀ v : Foreign, (∃ j, egress v = .ok j) ↔ v.kind ≠ "other") ∧
    (∀ (r : Realm) (v : Foreign), v.kind ≠ "other" → (egress v).map (ingress r) = .ok v) ∧
    (∀ (r : Realm) (j : Value),
      (∃ j', egress (ingress r j) = .ok j' ∧ j'.sameValue j = true) ↔
        (∀ i, j ≠ .sym i) ∧ (∀ n, j ≠ .bigint n) ∧
          (∀ s, j = .str s → Units.isWellFormed s = true)) ∧
    (∀ (r : Realm) (u : Units), Units.isWellFormed u = false →
      Units.ofString (Units.toEscaped u) ≠ u ∧
        ingress r (.str (Units.ofString (Units.toEscaped u))) = ingress r (.str u)) ∧
    (∀ (p : Wrapper) (d : Float) (w : World) (v : Value) (enum conf : Bool),
      (w.host.engine.realm.obj p.source.ref).kind = .ordinary →
      (w.host.engine.realm.obj p.source.ref).props.find? (Key.ofString "x") =
        some ⟨.data v true, enum, conf⟩ →
      ∃ w', (do Point.setX p d; Point.x p).exec w = (.ok d, w')) := by
  refine ⟨egress_ok_iff, fun r _ hv => ingress_egress hv r, egress_ingress_sameValue_iff, ?_,
    fun _ _ _ _ _ _ hk hp => Point.x_after_setX hk hp⟩
  intro r u hu
  refine ⟨fun h => ?_, ingress_str_escaped r u⟩
  rw [Units.ofString_toEscaped_eq_iff, hu] at h
  exact Bool.false_ne_true h

end ScriptBridge.Wrapper
