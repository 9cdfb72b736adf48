import Mathlib
import ScriptBridge.Proofs.Exec

/-!
# Writing and reading an own data property

The object operations on an ordinary object that already has a writable own data property: an
assignment goes through `setAt`, `setOrdinary`, `setOnReceiver` and `defineAt` and only replaces
the stored value, keeping the property's flags; a read then finds the stored value. Each lemma
takes one of these operations at the fuel it needs, so the whole chain is the composition of the
steps. At the engine's entry points the fuel is the chain bound, which always suffices.
-/

namespace ScriptBridge.Script

theorem Key.beq_self (k : Key) : (k == k) = true := by
  cases k with
  | str s => exact beq_self_eq_true s
  | sym i => exact beq_self_eq_true i

namespace Table

theorem find?_empty (k : Key) : ({} : Table).find? k = none := by
  unfold Table.find?
  cases k.index? <;> rfl

theorem find?_insert_self (t : Table) (k : Key) (p : Property) :
    (t.insert k p).find? k = some p := by
  unfold Table.insert Table.find?
  cases hk : k.index? with
  | some i => simp
  | none =>
    cases hj : t.named.findIdx? (fun e => e.1 == k) with
    | none =>
      have hn : t.named.find? (fun e => e.1 == k) = none := by
        rw [Array.find?_eq_none]
        intro x hx
        simpa using (Array.findIdx?_eq_none_iff.mp hj) x hx
      simp [Array.find?_push, hn, Key.beq_self]
    | some j =>
      obtain ⟨hjs, -, hbefore⟩ := Array.findIdx?_eq_some_iff_getElem.mp hj
      have hf : (t.named.set! j (k, p)).find? (fun e => e.1 == k) = some (k, p) := by
        rw [Array.find?_eq_some_iff_getElem]
        refine ⟨Key.beq_self k, j, by simpa using hjs, by simp, fun i hi => ?_⟩
        simp only [Array.set!_eq_setIfInBounds]
        rw [Array.getElem_setIfInBounds_ne (Nat.lt_trans hi hjs) (Nat.ne_of_gt hi)]
        simpa using hbefore i hi
      simp only [hf, Option.map_some]

end Table

namespace Realm

theorem lt_size_of_find? {r : Realm} {o : Nat} {k : Key} {p : Property}
    (hp : (r.obj o).props.find? k = some p) : o < r.heap.size := by
  by_contra h
  have hd : r.obj o = default := by
    simp only [Realm.obj]
    exact getElem!_neg r.heap o h
  rw [hd] at hp
  exact absurd hp (by rw [show (default : Obj).props = {} from rfl, Table.find?_empty]; simp)

theorem obj_putProp_self {r : Realm} {o : Nat} (ho : o < r.heap.size) (k : Key) (p : Property) :
    (r.putProp o k p).obj o = { r.obj o with props := (r.obj o).props.insert k p } := by
  simp [Realm.putProp, Realm.modifyObj, Realm.obj, ho, Array.getElem_modify_self]

end Realm

namespace Objects

variable {ops : Ops} {r : Realm} {o : Nat} {k : Key}

theorem getOwnAt_ordinary (hk : (r.obj o).kind = .ordinary) (f : Nat) :
    (getOwnAt ops (f + 1) o k).exec r = (.ok ((r.obj o).props.find? k), r) := by
  rw [getOwnAt, M.exec_bind, M.exec_obj]
  simp only [hk]
  rfl

theorem getAt_own_data {v : Value} {w enum conf : Bool} (hk : (r.obj o).kind = .ordinary)
    (hp : (r.obj o).props.find? k = some ⟨.data v w, enum, conf⟩) (f : Nat) (receiver : Value) :
    (getAt ops (f + 2) o k receiver).exec r = (.ok v, r) := by
  rw [getAt, M.exec_bind, M.exec_obj]
  simp only [hk]
  rw [M.exec_bind, getOwnAt_ordinary hk, hp]
  rfl

theorem getKey_own_data {v : Value} {w enum conf : Bool} (hk : (r.obj o).kind = .ordinary)
    (hp : (r.obj o).props.find? k = some ⟨.data v w, enum, conf⟩) :
    (getKey ops o k).exec r = (.ok v, r) := by
  simp only [getKey, getWith, chainBound, M.exec_bind, M.exec_get, M.exec_pure]
  rw [show 2 * r.heap.size + 16 = (2 * r.heap.size + 14) + 2 by omega]
  exact getAt_own_data hk hp _ _

section Writable

variable {v x : Value} {enum conf : Bool} (hk : (r.obj o).kind = .ordinary)
  (hp : (r.obj o).props.find? k = some ⟨.data v true, enum, conf⟩)
include hk hp

theorem defineAt_writable (f : Nat) :
    (defineAt ops (f + 1) o k { value := some x }).exec r =
      (.ok true, r.putProp o k ⟨.data x true, enum, conf⟩) := by
  rw [defineAt, M.exec_bind, M.exec_obj]
  simp only [hk]
  have happly : Descriptor.apply (r.obj o).extensible ((r.obj o).props.find? k) { value := some x } =
      some (some ⟨.data x true, enum, conf⟩) := by
    rw [hp]
    cases conf <;> rfl
  simp only [defineOrdinary, happly]
  rfl

theorem setOnReceiver_writable (f : Nat) :
    (setOnReceiver ops (f + 2) k x (.obj o)).exec r =
      (.ok true, r.putProp o k ⟨.data x true, enum, conf⟩) := by
  rw [setOnReceiver, M.exec_bind, getOwnAt_ordinary hk, hp]
  exact defineAt_writable hk hp f

theorem setOrdinary_writable (f : Nat) :
    (setOrdinary ops (f + 3) o (r.obj o) k x (.obj o)).exec r =
      (.ok true, r.putProp o k ⟨.data x true, enum, conf⟩) := by
  rw [setOrdinary, M.exec_bind, getOwnAt_ordinary hk, hp]
  exact setOnReceiver_writable hk hp f

theorem setAt_writable (f : Nat) :
    (setAt ops (f + 4) o k x (.obj o)).exec r =
      (.ok true, r.putProp o k ⟨.data x true, enum, conf⟩) := by
  rw [setAt, M.exec_bind, M.exec_obj]
  simp only [hk]
  exact setOrdinary_writable hk hp f

theorem setOrThrow_writable :
    (setOrThrow ops o k x).exec r = (.ok (), r.putProp o k ⟨.data x true, enum, conf⟩) := by
  simp only [setOrThrow, setWith, chainBound, M.exec_bind, M.exec_get, M.exec_pure]
  rw [show 2 * r.heap.size + 16 = (2 * r.heap.size + 12) + 4 by omega, setAt_writable hk hp]
  rfl

theorem putProp_writable (x : Value) :
    ((r.putProp o k ⟨.data x true, enum, conf⟩).obj o).kind = .ordinary ∧
      ((r.putProp o k ⟨.data x true, enum, conf⟩).obj o).props.find? k =
        some ⟨.data x true, enum, conf⟩ := by
  rw [Realm.obj_putProp_self (Realm.lt_size_of_find? hp)]
  exact ⟨hk, Table.find?_insert_self _ _ _⟩

end Writable

end Objects

end ScriptBridge.Script
