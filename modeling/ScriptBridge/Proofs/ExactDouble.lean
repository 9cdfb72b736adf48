import Mathlib
import ScriptBridge.Script.Numeric

/-!
# Doubles as exact numbers

A double that is neither infinite nor NaN stands for a rational number: `± m · 2 ^ e` for the
mantissa and exponent its bits decode to, and `0` for both zeros. The decoding is the one of the
logical model of doubles that comes with Lean (`Float.Model.unpack`), so the value of a double
here does not depend on this library's own decoder; `ofFloat_eq` shows that decoder reads every
double as the model does, and `exactInt?_eq_some_iff` gives the whole numbers by their value.

The model decodes a finite double into one shape only (`Canonical`): a 53-bit mantissa with an
exponent from `-1074` to `971`, or a shorter mantissa at the least exponent. On that shape the
model's ordering, which compares exponents before mantissas, is the ordering of the values.
-/

namespace ScriptBridge.Double

open Float.Model Float.Model.UnpackedFloat

def unpackedValue : UnpackedFloat → Option ℚ
  | .zero _ => some 0
  | .finite s m e _ => some ((s.apply m : ℚ) * 2 ^ e)
  | _ => none

def value (x : Float) : Option ℚ := unpackedValue x.toModel.unpack

def Canonical (m : Nat) (e : Int) : Prop :=
  (2 ^ 52 ≤ m ∧ m < 2 ^ 53 ∧ -1074 ≤ e ∧ e ≤ 971) ∨ (m < 2 ^ 52 ∧ e = -1074)

section Decoding

variable (b : BitVec 64)

theorem unpackMantissa_toNat :
    (@unpackMantissa Format.binary64 b).toNat = b.toNat % 2 ^ 52 := by
  simp [unpackMantissa, BitVec.extractLsb_toNat]

theorem unpackExponent_toNat :
    (@unpackExponent Format.binary64 b).toNat = b.toNat / 2 ^ 52 % 2 ^ 11 := by
  simp [unpackExponent, BitVec.extractLsb_toNat, Nat.shiftRight_eq_div_pow]

theorem unpackSign_eq :
    Sign.ofBitVec (@unpackSign Format.binary64 b) =
      if b.toNat / 2 ^ 63 = 0 then .positive else .negative := by
  have hlt : b.toNat / 2 ^ 63 < 2 := by
    have := b.isLt
    omega
  have hv : (@unpackSign Format.binary64 b).toNat = b.toNat / 2 ^ 63 := by
    simp [unpackSign, BitVec.extractLsb_toNat, Nat.shiftRight_eq_div_pow]
    omega
  unfold Sign.ofBitVec
  by_cases h : b.toNat / 2 ^ 63 = 0
  · have : @unpackSign Format.binary64 b = 0#1 := BitVec.eq_of_toNat_eq (by rw [hv, h]; rfl)
    rw [if_pos this, if_pos h]
  · have : @unpackSign Format.binary64 b ≠ 0#1 := fun he => h (by
      have := congrArg BitVec.toNat he
      simpa [hv] using this)
    rw [if_neg this, if_neg h]

def fields (s : Sign) (be f : Nat) : UnpackedFloat :=
  if be = 2047 then (if f = 0 then .infinity s else .notANumber)
  else if be = 0 then (if h : f = 0 then .zero s else .finite s f (-1074) (Nat.pos_of_ne_zero h))
  else .finite s (2 ^ 52 + f) (be - 1075) (by omega)

theorem unpack_eq_fields :
    unpack Format.binary64 b = fields (Sign.ofBitVec (@unpackSign Format.binary64 b))
      (b.toNat / 2 ^ 52 % 2 ^ 11) (b.toNat % 2 ^ 52) := by
  have hm := unpackMantissa_toNat b
  have he := unpackExponent_toNat b
  have hofNat : ∀ {w} (v : BitVec w) (n : Nat), v = BitVec.ofNat w n ↔ v.toNat = n % 2 ^ w := by
    intro w v n
    rw [← BitVec.toNat_inj, BitVec.toNat_ofNat]
  have happ : (1#1 ++ @unpackMantissa Format.binary64 b).toNat = 2 ^ 52 + b.toNat % 2 ^ 52 := by
    rw [BitVec.toNat_append, ← Nat.shiftLeft_add_eq_or_of_lt (@unpackMantissa Format.binary64 b).isLt, hm]
    rfl
  have hbias : ((Format.binary64.exponentBias : Nat) : Int) = 1023 := rfl
  unfold UnpackedFloat.unpack fields
  simp only [show (-1#11 : BitVec 11) = BitVec.ofNat 11 2047 from rfl]
  simp only [hofNat, he, hm, happ, hbias, Nat.reducePow, Nat.reduceMod]
  split_ifs with h₁ h₂ h₃
  · rfl
  · rfl
  · rfl
  · congr 1
    omega
  · congr 1

end Decoding

def toBinary : UnpackedFloat → Decimal.Binary
  | .notANumber => .nan
  | .infinity s => .infinite (s == .negative)
  | .zero s => .zero (s == .negative)
  | .finite s m e _ => .finite (s == .negative) m e (m == 2 ^ 52 && decide (-1074 < e))

section Words

variable (w : UInt64)

theorem fraction_toNat : (w &&& 0xFFFFFFFFFFFFF).toNat = w.toNat % 2 ^ 52 := by
  rw [UInt64.toNat_and]
  exact Nat.and_two_pow_sub_one_eq_mod _ 52

theorem biasedExponent_toNat : ((w >>> 52) &&& 0x7FF).toNat = w.toNat / 2 ^ 52 % 2 ^ 11 := by
  rw [UInt64.toNat_and, UInt64.toNat_shiftRight,
    show (0x7FF : UInt64).toNat = 2 ^ 11 - 1 from rfl, Nat.and_two_pow_sub_one_eq_mod,
    Nat.shiftRight_eq_div_pow]
  rfl

theorem signBit_eq : (w >>> 63 == 1) = decide (w.toNat / 2 ^ 63 = 1) := by
  have h : (w >>> 63).toNat = w.toNat / 2 ^ 63 := by
    rw [UInt64.toNat_shiftRight, Nat.shiftRight_eq_div_pow]
    rfl
  have key : w >>> 63 = 1 ↔ w.toNat / 2 ^ 63 = 1 := by
    rw [← h, ← UInt64.toNat_inj]
    rfl
  rw [Bool.eq_iff_iff, beq_iff_eq, decide_eq_true_iff]
  exact key

theorem ofBits_eq : Decimal.Binary.ofBits w = toBinary (unpack Format.binary64 w.toBitVec) := by
  rw [unpack_eq_fields, unpackSign_eq, UInt64.toNat_toBitVec]
  unfold Decimal.Binary.ofBits fields
  simp only [fraction_toNat, biasedExponent_toNat, signBit_eq]
  have hneg : ((if w.toNat / 2 ^ 63 = 0 then Sign.positive else .negative) == .negative) =
      decide (w.toNat / 2 ^ 63 = 1) := by
    by_cases h : w.toNat / 2 ^ 63 = 0
    · have : ¬w.toNat / 2 ^ 63 = 1 := by omega
      rw [if_pos h, decide_eq_false this]
      rfl
    · have : w.toNat / 2 ^ 63 = 1 := by
        have := w.toNat_lt
        omega
      rw [if_neg h, decide_eq_true this]
      rfl
  rw [← hneg]
  generalize (if w.toNat / 2 ^ 63 = 0 then Sign.positive else .negative) = s
  generalize w.toNat / 2 ^ 52 % 2 ^ 11 = be
  generalize w.toNat % 2 ^ 52 = f
  simp only [beq_iff_eq]
  split_ifs with h₁ h₂ h₃ h₄ <;> simp only [toBinary]
  · simp
  · rw [Nat.add_comm f]
    congr 1
    rw [Bool.eq_iff_iff]
    simp only [Bool.and_eq_true, beq_iff_eq, decide_eq_true_eq]
    omega

end Words

theorem ofFloat_eq (x : Float) : Decimal.Binary.ofFloat x = toBinary x.toModel.unpack :=
  ofBits_eq x.toModel.toBits

section Powers

theorem two_zpow_of_nonneg {e : ℤ} (he : 0 ≤ e) : (2 : ℚ) ^ e = ((2 ^ e.toNat : ℕ) : ℚ) := by
  rw [← Int.toNat_of_nonneg he]
  push_cast
  rw [zpow_natCast, Int.toNat_natCast]

theorem two_zpow_of_neg {e : ℤ} (he : e < 0) : (2 : ℚ) ^ e = (((2 ^ (-e).toNat : ℕ) : ℚ))⁻¹ := by
  have : e = -(((-e).toNat : ℕ) : ℤ) := by omega
  conv_lhs => rw [this]
  rw [zpow_neg, zpow_natCast]
  push_cast
  rfl

theorem mul_inv_eq_int_iff (m d : ℕ) (hd : 0 < d) (n : ℤ) :
    (m : ℚ) * (d : ℚ)⁻¹ = n ↔ (m : ℤ) = n * d := by
  rw [← div_eq_mul_inv, div_eq_iff (by exact_mod_cast hd.ne')]
  exact_mod_cast Iff.rfl

end Powers

theorem sign_apply_cast (s : Sign) (m : ℕ) :
    ((s.apply m : ℤ) : ℚ) = if (s == .negative) = true then -(m : ℚ) else m := by
  cases s <;> rfl

theorem finite_exactInt_iff (neg : Bool) (m : ℕ) (e n : ℤ) :
    (if e ≥ 0 then some (if neg then -((m * 2 ^ e.toNat : ℕ) : ℤ) else ((m * 2 ^ e.toNat : ℕ) : ℤ))
      else if m % 2 ^ (-e).toNat = 0 then
        some (if neg then -((m / 2 ^ (-e).toNat : ℕ) : ℤ) else ((m / 2 ^ (-e).toNat : ℕ) : ℤ))
      else none) = some n ↔
    (if neg then -(m : ℚ) else m) * 2 ^ e = n := by
  by_cases he : 0 ≤ e
  · rw [if_pos he, two_zpow_of_nonneg he]
    have hcast : (if neg then -(m : ℚ) else m) * ((2 ^ e.toNat : ℕ) : ℚ) =
        (Int.cast (if neg then -((m * 2 ^ e.toNat : ℕ) : ℤ) else ((m * 2 ^ e.toNat : ℕ) : ℤ)) : ℚ) := by
      cases neg <;> simp only [Bool.false_eq_true, if_false, if_true] <;> push_cast <;> ring
    rw [hcast, Int.cast_inj, Option.some.injEq]
  · rw [if_neg he, two_zpow_of_neg (by omega)]
    have hpos : (0 : ℕ) < 2 ^ (-e).toNat := Nat.two_pow_pos _
    generalize (2 : ℕ) ^ (-e).toNat = d at hpos ⊢
    have hvalue : (if neg then -(m : ℚ) else m) * (d : ℚ)⁻¹ = n ↔
        (m : ℤ) = (if neg then -n else n) * d := by
      cases neg
      · exact mul_inv_eq_int_iff m d hpos n
      · simp only [if_true, neg_mul]
        rw [neg_eq_iff_eq_neg, ← Int.cast_neg, mul_inv_eq_int_iff m d hpos, neg_mul]
    rw [hvalue]
    by_cases hdiv : m % d = 0
    · rw [if_pos hdiv, Option.some.injEq]
      have hm : (m : ℤ) = ((m / d : ℕ) : ℤ) * d := by
        exact_mod_cast (Nat.div_mul_cancel (Nat.dvd_of_mod_eq_zero hdiv)).symm
      rw [hm]
      have hd0 : (d : ℤ) ≠ 0 := by exact_mod_cast hpos.ne'
      cases neg <;> simp only [Bool.false_eq_true, if_false, if_true]
      · exact ⟨fun h => by rw [h], fun h => mul_right_cancel₀ hd0 h⟩
      · constructor
        · intro h
          rw [← h]
          ring
        · intro h
          have := mul_right_cancel₀ hd0 h
          omega
    · rw [if_neg hdiv]
      simp only [reduceCtorEq, false_iff]
      intro h
      apply hdiv
      have : (d : ℤ) ∣ (m : ℤ) := ⟨if neg then -n else n, by rw [h, mul_comm]⟩
      exact Nat.mod_eq_zero_of_dvd (by exact_mod_cast this)

theorem exactInt?_eq_some_iff (x : Float) (n : ℤ) :
    Script.Numeric.exactInt? x = some n ↔ value x = some (n : ℚ) := by
  unfold Script.Numeric.exactInt? value
  rw [ofFloat_eq]
  cases x.toModel.unpack with
  | notANumber => simp [toBinary, unpackedValue]
  | infinity s => simp [toBinary, unpackedValue]
  | zero s => simp [toBinary, unpackedValue, eq_comm]
  | finite s m e hm =>
    simp only [toBinary, unpackedValue, Option.some.injEq, sign_apply_cast]
    exact finite_exactInt_iff _ m e n

theorem unpack_finite_canonical (x : Float.Model) {s : Sign} {m : ℕ} {e : ℤ} {hm : 0 < m}
    (h : x.unpack = .finite s m e hm) : Canonical m e := by
  change unpack Format.binary64 x.toBits.toBitVec = _ at h
  rw [unpack_eq_fields] at h
  unfold fields at h
  split_ifs at h with h₁ h₂ h₃ <;> cases h
  · exact .inr ⟨Nat.mod_lt _ (by decide), rfl⟩
  · have := Nat.mod_lt x.toBits.toBitVec.toNat (show 0 < 2 ^ 52 by decide)
    have := Nat.mod_lt (x.toBits.toBitVec.toNat / 2 ^ 52) (show 0 < 2 ^ 11 by decide)
    exact .inl ⟨by omega, by omega, by omega, by omega⟩

section Order

variable {m₁ m₂ : ℕ} {e₁ e₂ : ℤ}

theorem canonical_lt_of_exponent_lt (h₁ : Canonical m₁ e₁) (h₂ : Canonical m₂ e₂) (he : e₁ < e₂) :
    (m₁ : ℚ) * 2 ^ e₁ < m₂ * 2 ^ e₂ := by
  have hm₁ : m₁ < 2 ^ 53 := by rcases h₁ with h | h <;> omega
  have he₁ : -1074 ≤ e₁ := by rcases h₁ with h | h <;> omega
  have hm₂ : 2 ^ 52 ≤ m₂ := by
    rcases h₂ with h | h
    · exact h.1
    · omega
  have hpos : (0 : ℚ) < 2 ^ e₁ := zpow_pos (by norm_num) _
  calc (m₁ : ℚ) * 2 ^ e₁ < 2 ^ 53 * 2 ^ e₁ := by
        apply mul_lt_mul_of_pos_right _ hpos
        exact_mod_cast hm₁
    _ = 2 ^ 52 * 2 ^ (e₁ + 1) := by
        rw [zpow_add₀ (by norm_num), zpow_one]
        ring
    _ ≤ 2 ^ 52 * 2 ^ e₂ := by
        apply mul_le_mul_of_nonneg_left _ (by norm_num)
        exact zpow_le_zpow_right₀ (by norm_num) (by omega)
    _ ≤ m₂ * 2 ^ e₂ := by
        apply mul_le_mul_of_nonneg_right _ (zpow_pos (by norm_num) _).le
        exact_mod_cast hm₂

theorem compare_canonical (h₁ : Canonical m₁ e₁) (h₂ : Canonical m₂ e₂) :
    (compare e₁ e₂).then (compare m₁ m₂) = compare ((m₁ : ℚ) * 2 ^ e₁) (m₂ * 2 ^ e₂) := by
  rcases lt_trichotomy e₁ e₂ with he | rfl | he
  · rw [compare_lt_iff_lt.2 he, compare_lt_iff_lt.2 (canonical_lt_of_exponent_lt h₁ h₂ he)]
    rfl
  · have hpos : (0 : ℚ) < 2 ^ e₁ := zpow_pos (by norm_num) _
    rw [compare_eq_iff_eq.2 rfl, Ordering.eq_then]
    rcases lt_trichotomy m₁ m₂ with hm | rfl | hm
    · rw [compare_lt_iff_lt.2 hm, compare_lt_iff_lt.2 (mul_lt_mul_of_pos_right (by exact_mod_cast hm) hpos)]
    · rw [compare_eq_iff_eq.2 rfl, compare_eq_iff_eq.2 rfl]
    · rw [compare_gt_iff_gt.2 hm, compare_gt_iff_gt.2 (mul_lt_mul_of_pos_right (by exact_mod_cast hm) hpos)]
  · rw [compare_gt_iff_gt.2 he, compare_gt_iff_gt.2 (canonical_lt_of_exponent_lt h₂ h₁ he)]
    rfl

theorem compare_neg_neg (a b : ℚ) : compare (-a) (-b) = (compare a b).swap := by
  rcases lt_trichotomy a b with h | rfl | h
  · rw [compare_lt_iff_lt.2 h, compare_gt_iff_gt.2 (neg_lt_neg h)]
    rfl
  · rw [compare_eq_iff_eq.2 rfl, compare_eq_iff_eq.2 rfl]
    rfl
  · rw [compare_gt_iff_gt.2 h, compare_lt_iff_lt.2 (neg_lt_neg h)]
    rfl

theorem finite_value_pos {m : ℕ} (hm : 0 < m) (e : ℤ) : (0 : ℚ) < m * 2 ^ e :=
  mul_pos (by exact_mod_cast hm) (zpow_pos (by norm_num) _)

theorem compare_of_value {x y : Float.Model} {a b : ℚ} (ha : unpackedValue x.unpack = some a)
    (hb : unpackedValue y.unpack = some b) : x.unpack.compare y.unpack = some (compare a b) := by
  rcases hx : x.unpack with _ | _ | s₁ | ⟨s₁, m₁, e₁, hm₁⟩ <;> rw [hx] at ha <;>
    simp only [unpackedValue, reduceCtorEq, Option.some.injEq] at ha <;>
  rcases hy : y.unpack with _ | _ | s₂ | ⟨s₂, m₂, e₂, hm₂⟩ <;> rw [hy] at hb <;>
    simp only [unpackedValue, reduceCtorEq, Option.some.injEq] at hb <;> subst ha hb
  · rw [compare_eq_iff_eq.2 rfl]
    rfl
  · have hpos := finite_value_pos hm₂ e₂
    cases s₂
    · rw [compare_gt_iff_gt.2 (by simp only [Sign.apply]; push_cast; linarith)]
      rfl
    · rw [compare_lt_iff_lt.2 (by simp only [Sign.apply]; push_cast; linarith)]
      rfl
  · have hpos := finite_value_pos hm₁ e₁
    cases s₁
    · rw [compare_lt_iff_lt.2 (by simp only [Sign.apply]; push_cast; linarith)]
      rfl
    · rw [compare_gt_iff_gt.2 (by simp only [Sign.apply]; push_cast; linarith)]
      rfl
  · have h₁ := unpack_finite_canonical x hx
    have h₂ := unpack_finite_canonical y hy
    have hpos₁ := finite_value_pos hm₁ e₁
    have hpos₂ := finite_value_pos hm₂ e₂
    cases s₁ <;> cases s₂ <;> simp only [Sign.apply, Int.cast_neg, Int.cast_natCast, neg_mul]
    · show some ((compare e₁ e₂).then (compare m₁ m₂)).swap = _
      rw [compare_canonical h₁ h₂, compare_neg_neg]
    · rw [compare_lt_iff_lt.2 (by linarith)]
      rfl
    · rw [compare_gt_iff_gt.2 (by linarith)]
      rfl
    · exact congrArg some (compare_canonical h₁ h₂)

variable {x y : Float} {a b : ℚ}

theorem beq_of_value (ha : value x = some a) (hb : value y = some b) : (x == y) = decide (a = b) := by
  show (x.toModel.unpack.compare y.toModel.unpack == some .eq) = _
  rw [compare_of_value ha hb]
  by_cases h : a = b
  · rw [h, compare_eq_iff_eq.2 rfl, decide_eq_true rfl]
    rfl
  · rw [decide_eq_false h]
    simpa [compare_eq_iff_eq] using h

theorem lt_iff_of_value (ha : value x = some a) (hb : value y = some b) : x < y ↔ a < b := by
  change Float.lt x y = true ↔ _
  unfold Float.lt
  rw [decide_eq_true_iff]
  change (x.toModel.unpack.compare y.toModel.unpack == some .lt) = true ↔ _
  rw [compare_of_value ha hb]
  simp [compare_lt_iff_lt]

theorem le_iff_of_value (ha : value x = some a) (hb : value y = some b) : x ≤ y ↔ a ≤ b := by
  change Float.le x y = true ↔ _
  unfold Float.le
  rw [decide_eq_true_iff]
  change ((x.toModel.unpack.compare y.toModel.unpack).any (·.isLE)) = true ↔ _
  rw [compare_of_value ha hb]
  simp [Ordering.isLE_iff_ne_gt, compare_gt_iff_gt]

theorem beq_of_value_none (ha : value x = none) (hb : value y = some b) : (x == y) = false := by
  show (x.toModel.unpack.compare y.toModel.unpack == some .eq) = false
  unfold value at ha hb
  rcases hx : x.toModel.unpack with s | _ | s | ⟨s, m, e, hm⟩ <;> rw [hx] at ha <;>
    simp only [unpackedValue, reduceCtorEq] at ha
  · rcases hy : y.toModel.unpack with t | _ | t | ⟨t, n, f, hn⟩ <;> rw [hy] at hb <;>
      simp only [unpackedValue, reduceCtorEq] at hb <;> cases s <;> rfl
  · rfl

theorem value_neg_one : value (-1) = some (-1) := by
  unfold value
  rw [show (-1 : Float).toModel.unpack = .finite .negative (2 ^ 52) (-52) (by decide) from rfl]
  simp only [unpackedValue, Sign.apply, Option.some.injEq]
  norm_num

theorem beq_neg_one (x : Float) : (x == -1) = decide (value x = some (-1)) := by
  rcases hx : value x with _ | a
  · rw [beq_of_value_none hx value_neg_one]
    simp
  · rw [beq_of_value hx value_neg_one]
    simp

end Order

end ScriptBridge.Double
