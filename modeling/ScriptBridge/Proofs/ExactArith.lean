import ScriptBridge.Proofs.ExactDouble
import ScriptBridge.Script.Builtins.Numbers

/-!
# Whole numbers computed exactly

Differences and products of doubles that stand for whole numbers are exact as long as the exact
result is at most `2 ^ 53` in size. Every whole number from `1` to `2 ^ 53` is `M · 2 ^ E` for a
53-bit mantissa `M`, and when a value has such a form the model's rounding reaches it: the
target exponent it computes from the mantissa's length is `E`, and the bits it shifts out on the
way are all zero, so the rounding direction never comes into play. Packing that result and
decoding it again gives it back.
-/

namespace ScriptBridge.Double

open Float.Model Float.Model.UnpackedFloat

section Rounding

theorem shiftRight_of_dvd (m k : ℕ) (h : 2 ^ k ∣ m) :
    (⟨m, false, false⟩ : ExtendedMantissa) >>> k = ⟨m / 2 ^ k, false, false⟩ := by
  induction k with
  | zero => simp [HShiftRight.hShiftRight, Nat.repeat]
  | succ k ih =>
    have hk : 2 ^ k ∣ m := (pow_dvd_pow 2 (Nat.le_succ k)).trans h
    change ExtendedMantissa.shiftRightOne ((⟨m, false, false⟩ : ExtendedMantissa) >>> k) = _
    rw [ih hk]
    obtain ⟨q, rfl⟩ := h
    have hhalf : 2 ^ (k + 1) * q / 2 ^ k = 2 * q := by
      rw [pow_succ, mul_comm (2 ^ k) 2, mul_assoc, mul_left_comm,
        Nat.mul_div_cancel_left _ (Nat.two_pow_pos k)]
    simp [ExtendedMantissa.shiftRightOne, hhalf]

theorem log2_mul_two_pow {n : ℕ} (hn : n ≠ 0) (k : ℕ) : (n * 2 ^ k).log2 = n.log2 + k := by
  induction k with
  | zero => simp
  | succ k ih =>
    rw [pow_succ, ← mul_assoc, mul_comm _ 2, Nat.log2_two_mul (by positivity), ih]
    rfl

theorem log2_of_mantissa {M : ℕ} (hM : 2 ^ 52 ≤ M ∧ M < 2 ^ 53) : M.log2 = 52 :=
  (Nat.log2_eq_iff (by omega)).2 hM

theorem eq_mul_two_pow_of_value_eq {m M : ℕ} {e E : ℤ} (hv : (m : ℚ) * 2 ^ e = M * 2 ^ E)
    (h : e ≤ E) : m = M * 2 ^ (E - e).toNat := by
  have h2 : (2 : ℚ) ^ e ≠ 0 := zpow_ne_zero _ (by norm_num)
  have hq : (m : ℚ) = M * 2 ^ (E - e) := by
    rw [zpow_sub₀ (by norm_num), ← mul_div_assoc, ← hv, mul_div_cancel_right₀ _ h2]
  rw [two_zpow_of_nonneg (by omega)] at hq
  exact_mod_cast hq

theorem log2_add_of_value_eq {m M : ℕ} {e E : ℤ} (hm : m ≠ 0) (hM : 2 ^ 52 ≤ M ∧ M < 2 ^ 53)
    (hv : (m : ℚ) * 2 ^ e = M * 2 ^ E) : (m.log2 : ℤ) + e = 52 + E := by
  by_cases h : e ≤ E
  · rw [eq_mul_two_pow_of_value_eq hv h, log2_mul_two_pow (by omega), log2_of_mantissa hM]
    omega
  · have hM' := eq_mul_two_pow_of_value_eq hv.symm (by omega)
    have hlog := congrArg Nat.log2 hM'
    rw [log2_mul_two_pow hm, log2_of_mantissa hM] at hlog
    omega

theorem targetExponent_eq {m : ℕ} {e E : ℤ} (hE : -1074 ≤ E) (hv : (m.log2 : ℤ) + e = 52 + E) :
    Format.binary64.targetExponent (totalExponent m e) = E := by
  simp only [Format.targetExponent, totalExponent, Format.mantissaBits, Format.minExponent]
  norm_num
  omega

theorem shiftToTargetExponent_exact (m M : ℕ) (e E : ℤ) (hM : 2 ^ 52 ≤ M ∧ M < 2 ^ 53)
    (hE : -1074 ≤ E) (he : e ≤ E) (hm : m = M * 2 ^ (E - e).toNat) :
    shiftToTargetExponent Format.binary64 m e .exact = (⟨M, false, false⟩, E) := by
  have hlog : (m.log2 : ℤ) + e = 52 + E := by
    rw [hm, log2_mul_two_pow (by omega), log2_of_mantissa hM]
    omega
  unfold shiftToTargetExponent shiftToExponent
  rw [targetExponent_eq hE hlog]
  have hdvd : 2 ^ (E - e).toNat ∣ m := ⟨M, by rw [hm, mul_comm]⟩
  show ((⟨m, false, false⟩ : ExtendedMantissa) >>> (E - e).toNat, e + ((E - e).toNat : ℤ)) = _
  rw [shiftRight_of_dvd m _ hdvd, hm, Nat.mul_div_cancel _ (Nat.two_pow_pos _)]
  congr 1
  omega

theorem roundWithAccuracy_exact (s : Sign) {m M : ℕ} {e E : ℤ} (hM : 2 ^ 52 ≤ M ∧ M < 2 ^ 53)
    (hE : -1074 ≤ E) (he : e ≤ E) (hm : m = M * 2 ^ (E - e).toNat) :
    roundWithAccuracy Format.binary64 s m e .exact = .finite s M E (by omega) := by
  have hsecond := shiftToTargetExponent_exact M M E E hM hE le_rfl (by simp)
  unfold roundWithAccuracy
  rw [shiftToTargetExponent_exact m M e E hM hE he hm]
  dsimp only
  rw [show (⟨M, false, false⟩ : ExtendedMantissa).roundedMantissa = M from rfl, hsecond]
  dsimp only
  rw [dif_neg (by omega)]

theorem round_exact (s : Sign) {m M : ℕ} {e E : ℤ} (hm : m ≠ 0) (hM : 2 ^ 52 ≤ M ∧ M < 2 ^ 53)
    (hE : -1074 ≤ E) (hv : (m : ℚ) * 2 ^ e = M * 2 ^ E) :
    UnpackedFloat.round Format.binary64 s m e = .finite s M E (by omega) := by
  unfold UnpackedFloat.round decreaseExponent
  rw [targetExponent_eq hE (log2_add_of_value_eq hm hM hv)]
  dsimp only
  by_cases h : e ≤ E
  · have hk : (e - E).toNat = 0 := by omega
    rw [hk, Nat.shiftLeft_zero, Nat.cast_zero, sub_zero]
    exact roundWithAccuracy_exact s hM hE h (eq_mul_two_pow_of_value_eq hv h)
  · have hM' := eq_mul_two_pow_of_value_eq hv.symm (by omega)
    have he : e - ((e - E).toNat : ℤ) = E := by omega
    rw [Nat.shiftLeft_eq, ← hM', he]
    exact roundWithAccuracy_exact s hM hE le_rfl (by simp)

end Rounding

section Packing

theorem ofBitVec_unpackSign_packComponents (s : Sign) (ex : BitVec 11) (f : BitVec 52) :
    Sign.ofBitVec (@unpackSign Format.binary64 (packComponents Format.binary64 s ex f)) = s := by
  simp only [unpackSign, packComponents, BitVec.extractLsb]
  rw [BitVec.extractLsb'_append_eq_of_le (by omega), BitVec.extractLsb'_append_eq_of_le (by omega)]
  cases s <;> rfl

theorem toNat_one_append (f : BitVec 52) : (1#1 ++ f).toNat = 2 ^ 52 + f.toNat := by
  rw [BitVec.toNat_append, ← Nat.shiftLeft_add_eq_or_of_lt f.isLt]
  simp [Nat.shiftLeft_eq]

theorem unpack_pack_finite (s : Sign) {M : ℕ} {E : ℤ} (hM : 0 < M) (hc : Canonical M E) :
    (Float.Model.pack (.finite s M E hM)).unpack = .finite s M E hM := by
  unfold Float.Model.unpack Float.Model.pack
  dsimp only
  have hbias : (E + Format.binary64.exponentBias + Format.binary64.mantissaBitsWithoutImplicit).toNat
      = (E + 1075).toNat := by
    show (E + (2 ^ (11 - 1) - 1 : ℕ) + (52 : ℕ)).toNat = (E + 1075).toNat
    omega
  have hb1023 : ((Format.binary64.exponentBias : ℕ) : ℤ) = 1023 := rfl
  rw [UnpackedFloat.pack]
  simp only [hbias]
  rcases hc with ⟨h₁, h₂, h₃, h₄⟩ | ⟨h₁, rfl⟩
  · rw [if_neg (by omega), if_pos (by simp [log2_of_mantissa ⟨h₁, h₂⟩, Format.mantissaBits])]
    rw [UnpackedFloat.unpack]
    simp only [unpackMantissa_packComponents, unpackExponent_packComponents,
      ofBitVec_unpackSign_packComponents]
    have hne1 : BitVec.ofNat 11 (E + 1075).toNat ≠ -1#11 := by
      intro heq
      have := congrArg BitVec.toNat heq
      simp [BitVec.toNat_ofNat] at this
      omega
    have hne0 : BitVec.ofNat 11 (E + 1075).toNat ≠ 0#11 := by
      intro heq
      have := congrArg BitVec.toNat heq
      simp [BitVec.toNat_ofNat] at this
      omega
    rw [if_neg hne1, if_neg hne0]
    simp only [toNat_one_append, BitVec.toNat_ofNat, hb1023, UnpackedFloat.finite.injEq, true_and]
    omega
  · have hlog : M.log2 < 52 := (Nat.log2_lt (by omega)).2 h₁
    rw [if_neg (by omega), if_neg (by simp [Format.mantissaBits]; omega)]
    rw [UnpackedFloat.unpack]
    simp only [unpackMantissa_packComponents, unpackExponent_packComponents,
      ofBitVec_unpackSign_packComponents]
    have hne : BitVec.ofNat 52 M ≠ 0#52 := by
      intro heq
      have := congrArg BitVec.toNat heq
      simp [BitVec.toNat_ofNat] at this
      omega
    rw [if_neg (by decide), if_pos trivial, dif_neg hne]
    simp only [BitVec.toNat_ofNat, hb1023, UnpackedFloat.finite.injEq, true_and]
    omega

theorem unpack_pack_zero (s : Sign) : (Float.Model.pack (.zero s)).unpack = .zero s := by
  cases s <;> rfl

end Packing

section Whole

theorem exists_mantissa {N : ℕ} (h0 : 0 < N) (h : N ≤ 2 ^ 53) :
    ∃ (M : ℕ) (E : ℤ), (2 ^ 52 ≤ M ∧ M < 2 ^ 53) ∧ -52 ≤ E ∧ E ≤ 1 ∧ (M : ℚ) * 2 ^ E = N := by
  by_cases htop : N = 2 ^ 53
  · refine ⟨2 ^ 52, 1, by norm_num, by norm_num, le_rfl, ?_⟩
    rw [htop]
    norm_num
  · set k := N.log2
    have hk : k ≤ 52 := by
      have := (Nat.log2_lt (by omega)).2 (show N < 2 ^ 53 by omega)
      omega
    have hlow : 2 ^ k ≤ N := Nat.log2_self_le (by omega)
    have hhigh : N < 2 ^ (k + 1) := Nat.lt_log2_self
    refine ⟨N * 2 ^ (52 - k), -((52 - k : ℕ) : ℤ), ⟨?_, ?_⟩, by omega, by omega, ?_⟩
    · calc 2 ^ 52 = 2 ^ k * 2 ^ (52 - k) := by rw [← pow_add]; congr 1; omega
        _ ≤ N * 2 ^ (52 - k) := Nat.mul_le_mul_right _ hlow
    · calc N * 2 ^ (52 - k) < 2 ^ (k + 1) * 2 ^ (52 - k) :=
            Nat.mul_lt_mul_of_pos_right hhigh (Nat.two_pow_pos _)
        _ = 2 ^ 53 := by rw [← pow_add]; congr 1; omega
    · rw [zpow_neg, zpow_natCast]
      push_cast
      field_simp

theorem shiftLeft_value (m : ℕ) {e t : ℤ} (h : t ≤ e) :
    ((m <<< (e - t).toNat : ℕ) : ℚ) * 2 ^ t = m * 2 ^ e := by
  rw [Nat.shiftLeft_eq]
  push_cast
  rw [← zpow_natCast, mul_assoc, ← zpow_add₀ (by norm_num)]
  congr 2
  omega

theorem sign_apply_shift (s : Sign) (m : ℕ) {e t : ℤ} (h : t ≤ e) :
    ((s.apply (m <<< (e - t).toNat : ℕ) : ℤ) : ℚ) * 2 ^ t = ((s.apply m : ℤ) : ℚ) * 2 ^ e := by
  cases s <;> simp only [Sign.apply, Int.cast_neg, Int.cast_natCast, neg_mul, shiftLeft_value m h]

theorem sign_apply_neg (s : Sign) (n : ℤ) : (-s).apply n = -s.apply n := by
  cases s
  · exact (neg_neg n).symm
  · rfl

theorem sign_apply_cast_eq (s : Sign) (n : ℤ) : ((s.apply n : ℤ) : ℚ) = ((s.apply 1 : ℤ) : ℚ) * n := by
  cases s <;> simp [Sign.apply]

theorem sign_mul_apply_one (s₁ s₂ : Sign) : (s₁ * s₂).apply 1 = s₁.apply 1 * s₂.apply 1 := by
  cases s₁ <;> cases s₂ <;> decide

theorem abs_sign_apply (s : Sign) (m : ℕ) (e : ℤ) : |((s.apply m : ℤ) : ℚ) * 2 ^ e| = m * 2 ^ e := by
  have hpos : (0 : ℚ) ≤ m * 2 ^ e := mul_nonneg (Nat.cast_nonneg m) (zpow_nonneg (by norm_num) e)
  cases s <;> simp only [Sign.apply, Int.cast_neg, Int.cast_natCast, neg_mul, abs_neg, abs_of_nonneg hpos]

theorem normal_of_whole {m : ℕ} {e : ℤ} (hc : Canonical m e) (hm : 0 < m) {n : ℤ}
    (hv : (m : ℚ) * 2 ^ e = n) : 2 ^ 52 ≤ m := by
  rcases hc with ⟨h₁, -⟩ | ⟨h₁, rfl⟩
  · exact h₁
  · rw [two_zpow_of_neg (by norm_num), mul_inv_eq_int_iff _ _ (Nat.two_pow_pos _)] at hv
    have hd : (2 : ℕ) ^ 52 < 2 ^ (-(-1074 : ℤ)).toNat := Nat.pow_lt_pow_right (by norm_num) (by decide)
    generalize (2 : ℕ) ^ (-(-1074 : ℤ)).toNat = d at hv hd
    rcases le_or_gt n 0 with hn | hn
    · have : n * (d : ℤ) ≤ 0 := Int.mul_nonpos_of_nonpos_of_nonneg hn (by positivity)
      omega
    · have : (d : ℤ) ≤ n * d := le_mul_of_one_le_left (by positivity) hn
      omega

theorem value_pack_round (s : Sign) {m : ℕ} {e : ℤ} (hm : m ≠ 0) {N : ℕ} (hN : N ≤ 2 ^ 53)
    (hv : (m : ℚ) * 2 ^ e = N) :
    unpackedValue (Float.Model.pack (UnpackedFloat.round .binary64 s m e)).unpack =
      some ((s.apply N : ℤ) : ℚ) := by
  have hN0 : 0 < N := by
    have hpos := finite_value_pos (Nat.pos_of_ne_zero hm) e
    rw [hv] at hpos
    exact_mod_cast hpos
  obtain ⟨M, E, hM, hE₁, hE₂, hME⟩ := exists_mantissa hN0 hN
  rw [round_exact s hm hM (by omega) (hv.trans hME.symm),
    unpack_pack_finite s _ (.inl ⟨hM.1, hM.2, by omega, by omega⟩)]
  cases s <;> simp only [unpackedValue, Sign.apply, Int.cast_neg, Int.cast_natCast, neg_mul, hME]

theorem value_pack_normalize (z : Sign) {M₀ e n : ℤ} (hn : n.natAbs ≤ 2 ^ 53)
    (hv : (M₀ : ℚ) * 2 ^ e = n) :
    unpackedValue (Float.Model.pack (UnpackedFloat.normalize .binary64 M₀ e z)).unpack = some (n : ℚ) := by
  have hp : (0 : ℚ) < 2 ^ e := zpow_pos (by norm_num) e
  unfold UnpackedFloat.normalize
  rcases lt_trichotomy M₀ 0 with h | rfl | h
  · have hneg : n < 0 := by
      have : (M₀ : ℚ) * 2 ^ e < 0 := mul_neg_of_neg_of_pos (by exact_mod_cast h) hp
      rw [hv] at this
      exact_mod_cast this
    have hmag : (((-M₀).toNat : ℕ) : ℚ) * 2 ^ e = (n.natAbs : ℚ) := by
      have h₁ : (((-M₀).toNat : ℕ) : ℚ) = -(M₀ : ℚ) := by
        rw [← Int.cast_natCast, Int.toNat_of_nonneg (by omega), Int.cast_neg]
      rw [h₁, Nat.cast_natAbs, Int.cast_abs, abs_of_neg (by exact_mod_cast hneg), ← hv, neg_mul]
    rw [Int.compare_eq_lt.mpr h]
    rw [value_pack_round .negative (by omega) hn hmag]
    simp only [Sign.apply, Int.natCast_natAbs, abs_of_neg hneg, neg_neg]
  · have hz : n = 0 := by
      rw [Int.cast_zero, zero_mul] at hv
      exact_mod_cast hv.symm
    rw [Int.compare_eq_eq.mpr rfl, hz]
    dsimp only
    rw [unpack_pack_zero]
    simp [unpackedValue]
  · have hpos : 0 < n := by
      have : (0 : ℚ) < (M₀ : ℚ) * 2 ^ e := mul_pos (by exact_mod_cast h) hp
      rw [hv] at this
      exact_mod_cast this
    have hmag : ((M₀.toNat : ℕ) : ℚ) * 2 ^ e = (n.natAbs : ℚ) := by
      rw [← Int.cast_natCast, Int.toNat_of_nonneg (by omega), Nat.cast_natAbs, Int.cast_abs,
        abs_of_pos (by exact_mod_cast hpos), hv]
    rw [Int.compare_eq_gt.mpr h]
    rw [value_pack_round .positive (by omega) hn hmag]
    simp only [Sign.apply, Int.natCast_natAbs, abs_of_pos hpos]

end Whole

section Operations

variable {x y : Float} {a b : ℤ}

theorem value_of_finite {u : UnpackedFloat} {s : Sign} {m : ℕ} {e : ℤ} {hm : 0 < m}
    (hu : u = .finite s m e hm) (hc : Canonical m e) :
    unpackedValue (Float.Model.pack u).unpack = some (((s.apply m : ℤ) : ℚ) * 2 ^ e) := by
  rw [hu, unpack_pack_finite s hm hc]
  rfl

theorem value_sub (hx : value x = some (a : ℚ)) (hy : value y = some (b : ℚ)) (h : (a - b).natAbs ≤ 2 ^ 53) :
    value (x - y) = some ((a - b : ℤ) : ℚ) := by
  unfold value at hx hy ⊢
  change unpackedValue (Float.Model.pack
    (UnpackedFloat.sub .binary64 x.toModel.unpack y.toModel.unpack)).unpack = _
  rcases hu : x.toModel.unpack with _ | _ | s₁ | ⟨s₁, m₁, e₁, hm₁⟩ <;> rw [hu] at hx <;>
    simp only [unpackedValue, reduceCtorEq, Option.some.injEq] at hx <;>
  rcases hw : y.toModel.unpack with _ | _ | s₂ | ⟨s₂, m₂, e₂, hm₂⟩ <;> rw [hw] at hy <;>
    simp only [unpackedValue, reduceCtorEq, Option.some.injEq] at hy
  · have ha : a = 0 := by exact_mod_cast hx.symm
    have hb : b = 0 := by exact_mod_cast hy.symm
    simp only [UnpackedFloat.sub]
    split <;> rw [unpack_pack_zero] <;> simp [unpackedValue, ha, hb]
  · have ha : a = 0 := by exact_mod_cast hx.symm
    simp only [UnpackedFloat.sub]
    rw [value_of_finite rfl (unpack_finite_canonical _ hw), sign_apply_neg, ha]
    push_cast
    rw [← hy]
    congr 1
    ring
  · have hb : b = 0 := by exact_mod_cast hy.symm
    simp only [UnpackedFloat.sub]
    rw [value_of_finite rfl (unpack_finite_canonical _ hu), hb, hx]
    simp
  · simp only [UnpackedFloat.sub, decreaseExponent]
    apply value_pack_normalize _ h
    rw [Int.cast_sub, Int.cast_sub, sub_mul, sign_apply_shift s₁ m₁ (min_le_left e₁ e₂),
      sign_apply_shift s₂ m₂ (min_le_right e₁ e₂), hx, hy]

theorem value_mul (hx : value x = some (a : ℚ)) (hy : value y = some (b : ℚ))
    (h : (a * b).natAbs ≤ 2 ^ 53) : value (x * y) = some ((a * b : ℤ) : ℚ) := by
  unfold value at hx hy ⊢
  change unpackedValue (Float.Model.pack
    (UnpackedFloat.mul .binary64 x.toModel.unpack y.toModel.unpack)).unpack = _
  rcases hu : x.toModel.unpack with _ | _ | s₁ | ⟨s₁, m₁, e₁, hm₁⟩ <;> rw [hu] at hx <;>
    simp only [unpackedValue, reduceCtorEq, Option.some.injEq] at hx <;>
  rcases hw : y.toModel.unpack with _ | _ | s₂ | ⟨s₂, m₂, e₂, hm₂⟩ <;> rw [hw] at hy <;>
    simp only [unpackedValue, reduceCtorEq, Option.some.injEq] at hy
  · have ha : a = 0 := by exact_mod_cast hx.symm
    simp only [UnpackedFloat.mul]
    rw [unpack_pack_zero]
    simp [unpackedValue, ha]
  · have ha : a = 0 := by exact_mod_cast hx.symm
    simp only [UnpackedFloat.mul]
    rw [unpack_pack_zero]
    simp [unpackedValue, ha]
  · have hb : b = 0 := by exact_mod_cast hy.symm
    simp only [UnpackedFloat.mul]
    rw [unpack_pack_zero]
    simp [unpackedValue, hb]
  · simp only [UnpackedFloat.mul]
    have habs₁ : (m₁ : ℚ) * 2 ^ e₁ = ((|a| : ℤ) : ℚ) := by rw [Int.cast_abs, ← hx, abs_sign_apply]
    have habs₂ : (m₂ : ℚ) * 2 ^ e₂ = ((|b| : ℤ) : ℚ) := by rw [Int.cast_abs, ← hy, abs_sign_apply]
    have hn₁ := normal_of_whole (unpack_finite_canonical _ hu) hm₁ habs₁
    have hn₂ := normal_of_whole (unpack_finite_canonical _ hw) hm₂ habs₂
    have hv : ((m₁ * m₂ : ℕ) : ℚ) * 2 ^ (e₁ + e₂) = ((a * b).natAbs : ℚ) := by
      rw [Nat.cast_natAbs, Int.cast_abs, Int.cast_mul, abs_mul, ← hx, ← hy, abs_sign_apply,
        abs_sign_apply, zpow_add₀ two_ne_zero]
      push_cast
      ring
    have hN0 : 0 < (a * b).natAbs := by
      have hpos := finite_value_pos (Nat.mul_pos hm₁ hm₂) (e₁ + e₂)
      rw [hv] at hpos
      exact_mod_cast hpos
    obtain ⟨M, E, hM, hE₁, hE₂, hME⟩ := exists_mantissa hN0 h
    have hv' := hv.trans hME.symm
    have he : e₁ + e₂ ≤ E := by
      by_contra hlt
      have hM' := eq_mul_two_pow_of_value_eq hv'.symm (by omega)
      have hbig : 2 ^ 104 ≤ m₁ * m₂ :=
        calc 2 ^ 104 = 2 ^ 52 * 2 ^ 52 := by norm_num
          _ ≤ m₁ * m₂ := Nat.mul_le_mul hn₁ hn₂
      have hle : m₁ * m₂ ≤ M := hM' ▸ Nat.le_mul_of_pos_right _ (Nat.two_pow_pos _)
      omega
    rw [value_of_finite (roundWithAccuracy_exact (s₁ * s₂) hM (by omega) he
      (eq_mul_two_pow_of_value_eq hv' he)) (.inl ⟨hM.1, hM.2, by omega, by omega⟩)]
    congr 1
    rw [sign_apply_cast_eq, Int.cast_mul, ← hx, ← hy, sign_apply_cast_eq s₁, sign_apply_cast_eq s₂,
      sign_mul_apply_one, Int.cast_mul]
    rw [zpow_add₀ two_ne_zero] at hv'
    push_cast at hv' ⊢
    linear_combination (-(((s₁.apply 1 : ℤ) : ℚ) * ((s₂.apply 1 : ℤ) : ℚ))) * hv'

end Operations

section Extremes

open ScriptBridge.Script.Builtins (maxOf minOf)

variable {x y : Float} {a b : ℚ}

theorem isNaN_of_value (h : value x = some a) : x.isNaN = false := by
  unfold value at h
  change x.toModel.unpack.isNaN = false
  cases hx : x.toModel.unpack <;> rw [hx] at h <;> first | rfl | cases h

theorem unpack_negInfinity : (-Script.Builtins.infinity).toModel.unpack = UnpackedFloat.infinity .negative := rfl

theorem unpack_infinity : Script.Builtins.infinity.toModel.unpack = UnpackedFloat.infinity .positive := rfl

theorem negInfinity_lt (h : value x = some a) : -Script.Builtins.infinity < x := by
  unfold value at h
  change Float.lt _ _ = true
  unfold Float.lt
  rw [decide_eq_true_iff]
  change (Float.Model.UnpackedFloat.compare _ _ == some .lt) = true
  rw [unpack_negInfinity]
  cases hx : x.toModel.unpack <;> rw [hx] at h <;> first | rfl | cases h

theorem lt_infinity (h : value x = some a) : x < Script.Builtins.infinity := by
  unfold value at h
  change Float.lt _ _ = true
  unfold Float.lt
  rw [decide_eq_true_iff]
  change (Float.Model.UnpackedFloat.compare _ _ == some .lt) = true
  rw [unpack_infinity]
  cases hx : x.toModel.unpack <;> rw [hx] at h <;> first | rfl | cases h

theorem value_maxOf (ha : value x = some a) (hb : value y = some b) :
    value (maxOf x y) = some (max a b) := by
  unfold maxOf
  rw [isNaN_of_value ha, isNaN_of_value hb, Bool.or_false, if_neg Bool.false_ne_true]
  by_cases hlt : y > x
  · rw [if_pos hlt, hb, max_eq_right (le_of_lt ((lt_iff_of_value ha hb).1 hlt))]
  · have hle : b ≤ a := not_lt.1 fun h => hlt ((lt_iff_of_value ha hb).2 h)
    rw [if_neg hlt]
    split
    · rename_i heq
      have hba : b = a := by
        simp only [Bool.and_eq_true] at heq
        have := heq.1.1
        rw [beq_of_value hb ha] at this
        exact of_decide_eq_true this
      rw [hb, hba, max_self]
    · rw [ha, max_eq_left hle]

theorem value_minOf (ha : value x = some a) (hb : value y = some b) :
    value (minOf x y) = some (min a b) := by
  unfold minOf
  rw [isNaN_of_value ha, isNaN_of_value hb, Bool.or_false, if_neg Bool.false_ne_true]
  by_cases hlt : y < x
  · rw [if_pos hlt, hb, min_eq_right (le_of_lt ((lt_iff_of_value hb ha).1 hlt))]
  · have hle : a ≤ b := not_lt.1 fun h => hlt ((lt_iff_of_value hb ha).2 h)
    rw [if_neg hlt]
    split
    · rename_i heq
      have hba : b = a := by
        simp only [Bool.and_eq_true] at heq
        have := heq.1.1
        rw [beq_of_value hb ha] at this
        exact of_decide_eq_true this
      rw [hb, hba, min_self]
    · rw [ha, min_eq_left hle]

theorem value_max_pair (ha : value x = some a) (hb : value y = some b) :
    value ([x, y].foldl maxOf (-Script.Builtins.infinity)) = some (max a b) := by
  have hfirst : maxOf (-Script.Builtins.infinity) x = x := by
    unfold maxOf
    rw [isNaN_of_value ha, if_neg (by decide), if_pos (negInfinity_lt ha)]
  rw [List.foldl_cons, hfirst, List.foldl_cons, List.foldl_nil, value_maxOf ha hb]

theorem value_min_pair (ha : value x = some a) (hb : value y = some b) :
    value ([x, y].foldl minOf Script.Builtins.infinity) = some (min a b) := by
  have hfirst : minOf Script.Builtins.infinity x = x := by
    unfold minOf
    rw [isNaN_of_value ha, if_neg (by decide), if_pos (lt_infinity ha)]
  rw [List.foldl_cons, hfirst, List.foldl_cons, List.foldl_nil, value_minOf ha hb]

end Extremes

end ScriptBridge.Double
