import ScriptBridge.Proofs.ExactDouble
import ScriptBridge.Proofs.Exec
import ScriptBridge.Wrapper.Array

/-!
# Lengths and indices the script reports

A view reads its array's length, the length `push` returns and the positions `indexOf` and
`lastIndexOf` find as script numbers. A length is accepted exactly when the number is a whole
number from `0` to `2 ^ 32 - 1`, and it is then that number, not a rounding or a wrapping of it;
`-0` is the length `0`. A value that is no number is refused as such, and every other number as
out of range. An index is a length, except that the number `-1` is "not found".

The numbers are read through the exact value of a double (`Double.value`), so the statements
hold at every boundary: both zeros, `2 ^ 32 - 1` and `2 ^ 32`, the infinities, NaN and the
fractions next to the bounds.
-/

namespace ScriptBridge.Wrapper

open ScriptBridge.Host ScriptBridge.Double

theorem toLength_of_exactInt {x : Float} {k : ℤ} (h : Script.Numeric.exactInt? x = some k) :
    toLength (.number x) =
      if 0 ≤ k && k ≤ maxArrayLength then .ok k.toNat
      else .error (.typeMismatch "array length" "number out of range") := by
  simp only [toLength, Foreign.asF64, bind, Except.bind, h]
  rfl

theorem toLength_of_not_whole {x : Float} (h : Script.Numeric.exactInt? x = none) :
    toLength (.number x) = .error (.typeMismatch "array length" "number out of range") := by
  simp only [toLength, Foreign.asF64, bind, Except.bind, h]
  rfl

theorem toLength_not_number {v : Foreign} (hv : ∀ x, v ≠ .number x) :
    toLength v = .error (.typeMismatch "number" v.kind) := by
  cases v with
  | number x => exact absurd rfl (hv x)
  | _ => rfl

theorem toLength_eq_ok_iff (v : Foreign) (n : ℕ) :
    toLength v = .ok n ↔ ∃ x, v = .number x ∧ value x = some (n : ℚ) ∧ n ≤ maxArrayLength := by
  cases v with
  | number x =>
    simp only [Foreign.number.injEq, exists_eq_left']
    rcases hx : Script.Numeric.exactInt? x with _ | k
    · simp only [toLength_of_not_whole hx, reduceCtorEq, false_iff, not_and]
      intro hv
      have := (exactInt?_eq_some_iff x n).2 (by exact_mod_cast hv)
      rw [hx] at this
      cases this
    · have hk := (exactInt?_eq_some_iff x k).1 hx
      rw [hk, toLength_of_exactInt hx]
      by_cases hr : 0 ≤ k ∧ k ≤ (maxArrayLength : ℤ)
      · have hc : (0 ≤ k && k ≤ (maxArrayLength : ℤ)) = true := by simpa using hr
        rw [if_pos hc, Except.ok.injEq, Option.some.injEq]
        constructor
        · intro h
          subst h
          refine ⟨by exact_mod_cast (Int.toNat_of_nonneg hr.1).symm, ?_⟩
          omega
        · rintro ⟨h, -⟩
          have : k = n := by exact_mod_cast h
          omega
      · have hc : (0 ≤ k && k ≤ (maxArrayLength : ℤ)) = false := by simpa using hr
        rw [if_neg (by simp [hc])]
        simp only [reduceCtorEq, false_iff, not_and, Option.some.injEq]
        intro h hn
        have : k = n := by exact_mod_cast h
        omega
  | _ => simp [toLength, Foreign.asF64, bind, Except.bind]

example : toLength (.number (-0.0)) = .ok 0 := rfl

theorem toLength_number_cases (x : Float) :
    toLength (.number x) = .error (.typeMismatch "array length" "number out of range") ∨
      ∃ n, toLength (.number x) = .ok n := by
  rcases hx : Script.Numeric.exactInt? x with _ | k
  · exact .inl (toLength_of_not_whole hx)
  · rw [toLength_of_exactInt hx]
    split
    · exact .inr ⟨_, rfl⟩
    · exact .inl rfl

theorem toLength_out_of_range {x : Float}
    (hx : ¬∃ n : ℕ, value x = some (n : ℚ) ∧ n ≤ maxArrayLength) :
    toLength (.number x) = .error (.typeMismatch "array length" "number out of range") := by
  rcases toLength_number_cases x with h | ⟨n, h⟩
  · exact h
  · obtain ⟨y, hy, hv⟩ := (toLength_eq_ok_iff _ n).1 h
    cases hy
    exact absurd ⟨n, hv⟩ hx

theorem toIndex_number (x : Float) :
    toIndex (.number x) = if value x = some (-1) then .ok none else some <$> toLength (.number x) := by
  simp only [toIndex, Foreign.asF64, bind, Except.bind, beq_neg_one, decide_eq_true_eq]
  rfl

theorem toIndex_eq_none_iff (v : Foreign) :
    toIndex v = .ok none ↔ ∃ x, v = .number x ∧ value x = some (-1) := by
  cases v with
  | number x =>
    simp only [toIndex_number, Foreign.number.injEq, exists_eq_left']
    by_cases h : value x = some (-1)
    · simp [h]
    · simp only [h, if_false, iff_false]
      rcases toLength (.number x) with e | n <;> simp [Functor.map, Except.map]
  | _ => simp [toIndex, Foreign.asF64, bind, Except.bind]

theorem toIndex_of_ne_neg_one {v : Foreign} (hv : ¬∃ x, v = .number x ∧ value x = some (-1)) :
    toIndex v = some <$> toLength v := by
  cases v with
  | number x =>
    rw [toIndex_number, if_neg fun h => hv ⟨x, rfl, h⟩]
  | _ => rfl

theorem exec_convert {α : Type} (f : Foreign → Except HostError α) (act : HostM Foreign)
    (w : World) :
    (do Op.lift (f (← Op.host act)) : Op α).exec w =
      match Host.exec act w.host with
      | (.ok v, h) => (f v, { w with host := h })
      | (.error e, h) => (.error e, { w with host := h }) := by
  rw [Op.exec_bind, Op.exec_host]
  rcases Host.exec act w.host with ⟨_ | v, h⟩
  · rfl
  · exact Op.exec_lift _ _

section Reported

variable {act : HostM Foreign} {w : World} {x : Float} {h : Host}

theorem convert_length (hact : Host.exec act w.host = (.ok (.number x), h)) {n : ℕ}
    (hx : value x = some (n : ℚ)) (hn : n ≤ maxArrayLength) :
    (do Op.lift (toLength (← Op.host act)) : Op Nat).exec w = (.ok n, { w with host := h }) := by
  rw [exec_convert, hact]
  exact congrArg (·, _) ((toLength_eq_ok_iff _ n).2 ⟨x, rfl, hx, hn⟩)

theorem convert_not_found (hact : Host.exec act w.host = (.ok (.number x), h))
    (hx : value x = some (-1)) :
    (do Op.lift (toIndex (← Op.host act)) : Op (Option Nat)).exec w = (.ok none, { w with host := h }) := by
  rw [exec_convert, hact]
  exact congrArg (·, _) ((toIndex_eq_none_iff _).2 ⟨x, rfl, hx⟩)

theorem convert_found (hact : Host.exec act w.host = (.ok (.number x), h)) {i : ℕ}
    (hx : value x = some (i : ℚ)) (hi : i ≤ maxArrayLength) :
    (do Op.lift (toIndex (← Op.host act)) : Op (Option Nat)).exec w =
      (.ok (some i), { w with host := h }) := by
  rw [exec_convert, hact]
  have hne : ¬∃ y, Foreign.number x = .number y ∧ value y = some (-1) := by
    rintro ⟨y, hy, hy'⟩
    cases hy
    rw [hx, Option.some.injEq] at hy'
    have : (0 : ℚ) ≤ i := Nat.cast_nonneg i
    linarith
  dsimp only
  rw [toIndex_of_ne_neg_one hne, (toLength_eq_ok_iff _ i).2 ⟨x, rfl, hx, hi⟩]
  rfl

end Reported

/-- Lengths and indices are read exactly. A length is accepted exactly when the script's number
is a whole number from `0` to `2 ^ 32 - 1`, and it is then that number; a value that is no number
is refused as such, every other number as out of range. An index is `none` for the number `-1`
alone and otherwise reads as a length. So `length` and `push` give the length the script reports,
and `indexOf` and `lastIndexOf` give `none` for `-1` and every reported position unchanged. -/
theorem reported_lengths_and_indices_exact :
    (∀ (v : Foreign) (n : ℕ), toLength v = .ok n ↔
      ∃ x, v = .number x ∧ value x = some (n : ℚ) ∧ n ≤ maxArrayLength) ∧
    (∀ v : Foreign, (∀ x, v ≠ .number x) → toLength v = .error (.typeMismatch "number" v.kind)) ∧
    (∀ x : Float, (¬∃ n : ℕ, value x = some (n : ℚ) ∧ n ≤ maxArrayLength) →
      toLength (.number x) = .error (.typeMismatch "array length" "number out of range")) ∧
    (∀ v : Foreign, toIndex v = .ok none ↔ ∃ x, v = .number x ∧ value x = some (-1)) ∧
    (∀ v : Foreign, (¬∃ x, v = .number x ∧ value x = some (-1)) →
      toIndex v = some <$> toLength v) ∧
    (∀ (a : WrapperArray) (w : World) (x : Float) (h : Host) (n : ℕ),
      Host.exec (Host.getProperty a.source "length") w.host = (.ok (.number x), h) →
      value x = some (n : ℚ) → n ≤ maxArrayLength →
      a.length.exec w = (.ok n, { w with host := h })) ∧
    (∀ (a : WrapperArray) (p : Wrapper) (w : World) (x : Float) (h : Host) (n : ℕ),
      Host.exec (Host.invoke a.source "push" [p.toForeign]) w.host = (.ok (.number x), h) →
      value x = some (n : ℚ) → n ≤ maxArrayLength →
      (a.push p).exec w = (.ok n, { w with host := h })) ∧
    (∀ (a : WrapperArray) (p : Wrapper) (w : World) (x : Float) (h : Host),
      Host.exec (Host.invoke a.source "indexOf" [p.toForeign]) w.host = (.ok (.number x), h) →
      (value x = some (-1) → (a.indexOf p).exec w = (.ok none, { w with host := h })) ∧
      ∀ i : ℕ, value x = some (i : ℚ) → i ≤ maxArrayLength →
        (a.indexOf p).exec w = (.ok (some i), { w with host := h })) ∧
    (∀ (a : WrapperArray) (p : Wrapper) (w : World) (x : Float) (h : Host),
      Host.exec (Host.invoke a.source "lastIndexOf" [p.toForeign]) w.host = (.ok (.number x), h) →
      (value x = some (-1) → (a.lastIndexOf p).exec w = (.ok none, { w with host := h })) ∧
      ∀ i : ℕ, value x = some (i : ℚ) → i ≤ maxArrayLength →
        (a.lastIndexOf p).exec w = (.ok (some i), { w with host := h })) :=
  ⟨toLength_eq_ok_iff, fun _ => toLength_not_number, fun _ => toLength_out_of_range,
    toIndex_eq_none_iff, fun _ => toIndex_of_ne_neg_one,
    fun _ _ _ _ _ hr hx hn => convert_length hr hx hn,
    fun _ _ _ _ _ _ hr hx hn => convert_length hr hx hn,
    fun _ _ _ _ _ hr => ⟨convert_not_found hr, fun _ => convert_found hr⟩,
    fun _ _ _ _ _ hr => ⟨convert_not_found hr, fun _ => convert_found hr⟩⟩

end ScriptBridge.Wrapper
