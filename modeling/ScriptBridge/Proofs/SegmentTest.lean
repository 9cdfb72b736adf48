import ScriptBridge.Proofs.ExactArith
import ScriptBridge.Proofs.LineMethods

/-!
# The segment test of `contains`

`contains` decides whether a point lies on a segment by two tests: the cross product of the point
and the far end, both taken from the near end, is zero, and the point lies in the segment's
bounding box. Over the rationals the two tests together are exactly membership of the closed
segment, whatever its direction, a vertical segment and a segment of one point included
(`Plane.mem_segment_iff_cross_box`); the cross product alone admits the whole line, and the box
alone a rectangle.

In doubles the test is that one as long as every difference and product it computes is exact.
For whole coordinates of magnitude at most `2 ^ 25` the differences stay within `2 ^ 26` and the
products within `2 ^ 52`, under the `2 ^ 53` up to which whole numbers are exact
(`answer_iff_mem_segment`).
-/

namespace ScriptBridge.Plane

theorem between_iff_lerp {x y z : ℚ} :
    (min x y ≤ z ∧ z ≤ max x y) ↔ ∃ t, 0 ≤ t ∧ t ≤ 1 ∧ z = x + t * (y - x) := by
  have h : z ∈ segment ℚ x y ↔ min x y ≤ z ∧ z ≤ max x y := by
    rw [segment_eq_uIcc, Set.mem_uIcc]
    constructor
    · rintro (⟨h₁, h₂⟩ | ⟨h₁, h₂⟩) <;> constructor <;> simp [*]
    · rintro ⟨h₁, h₂⟩
      rcases le_total x y with hxy | hxy
      · left; simp_all
      · right; simp_all
  rw [← h, segment_eq_image']
  simp only [Set.mem_image, Set.mem_Icc, smul_eq_mul, and_assoc]
  exact exists_congr fun t => by rw [eq_comm]

theorem mem_segment_iff_cross_box {a b p : ℚ × ℚ} :
    p ∈ segment ℚ a b ↔ (p.1 - a.1) * (b.2 - a.2) = (b.1 - a.1) * (p.2 - a.2) ∧
      (min a.1 b.1 ≤ p.1 ∧ p.1 ≤ max a.1 b.1) ∧ (min a.2 b.2 ≤ p.2 ∧ p.2 ≤ max a.2 b.2) := by
  rw [segment_eq_image']
  constructor
  · rintro ⟨t, ⟨ht₀, ht₁⟩, rfl⟩
    refine ⟨?_, between_iff_lerp.2 ⟨t, ht₀, ht₁, by simp⟩, between_iff_lerp.2 ⟨t, ht₀, ht₁, by simp⟩⟩
    simp only [Prod.fst_add, Prod.snd_add, Prod.smul_fst, Prod.smul_snd, Prod.fst_sub, Prod.snd_sub,
      smul_eq_mul]
    ring
  · rintro ⟨hcross, hx, hy⟩
    obtain ⟨t₁, h₁₀, h₁₁, hp₁⟩ := between_iff_lerp.1 hx
    obtain ⟨t₂, h₂₀, h₂₁, hp₂⟩ := between_iff_lerp.1 hy
    by_cases hv : b.1 = a.1
    · refine ⟨t₂, ⟨h₂₀, h₂₁⟩, Prod.ext ?_ ?_⟩
      · simp [hp₁, hv]
      · simp [hp₂]
    · have hne : b.1 - a.1 ≠ 0 := sub_ne_zero.2 hv
      refine ⟨t₁, ⟨h₁₀, h₁₁⟩, Prod.ext ?_ ?_⟩
      · simp [hp₁]
      · simp only [Prod.snd_add, Prod.smul_snd, Prod.snd_sub, smul_eq_mul]
        apply mul_left_cancel₀ hne
        rw [hp₁] at hcross
        linear_combination hcross

end ScriptBridge.Plane

namespace ScriptBridge.Double

def SmallWhole (x : Float) (n : ℤ) : Prop := value x = some (n : ℚ) ∧ n.natAbs ≤ 2 ^ 25

variable {x y : Float} {a b : ℤ}

theorem SmallWhole.sub (hx : SmallWhole x a) (hy : SmallWhole y b) :
    value (x - y) = some ((a - b : ℤ) : ℚ) ∧ (a - b).natAbs ≤ 2 ^ 26 := by
  have hab : (a - b).natAbs ≤ 2 ^ 26 := (Int.natAbs_sub_le a b).trans (by have := hx.2; have := hy.2; omega)
  exact ⟨value_sub hx.1 hy.1 (hab.trans (by norm_num)), hab⟩

theorem value_mul_of_le (hx : value x = some (a : ℚ)) (hy : value y = some (b : ℚ))
    (ha : a.natAbs ≤ 2 ^ 26) (hb : b.natAbs ≤ 2 ^ 26) : value (x * y) = some ((a * b : ℤ) : ℚ) :=
  value_mul hx hy (by rw [Int.natAbs_mul]; exact (Nat.mul_le_mul ha hb).trans (by norm_num))

theorem atLeast_of_value {p q : ℚ} (hx : value x = some p) (hy : value y = some q) :
    Script.Operators.atLeast x y = decide (q ≤ p) := by
  rw [Script.Operators.atLeast, isNaN_of_value hx, isNaN_of_value hy]
  simp [lt_iff_of_value hx hy, ← not_lt]

end ScriptBridge.Double

namespace ScriptBridge.Script.LineClass

open ScriptBridge.Double

variable {sx sy ex ey px py : Float} {SX SY EX EY PX PY : ℤ}

theorem answer_iff_mem_segment (hsx : SmallWhole sx SX) (hsy : SmallWhole sy SY)
    (hex : SmallWhole ex EX) (hey : SmallWhole ey EY) (hpx : SmallWhole px PX)
    (hpy : SmallWhole py PY) :
    answer sx sy ex ey px py = true ↔
      ((PX : ℚ), (PY : ℚ)) ∈ segment ℚ ((SX : ℚ), (SY : ℚ)) ((EX : ℚ), (EY : ℚ)) := by
  obtain ⟨d₁, b₁⟩ := hpx.sub hsx
  obtain ⟨d₂, b₂⟩ := hey.sub hsy
  obtain ⟨d₃, b₃⟩ := hex.sub hsx
  obtain ⟨d₄, b₄⟩ := hpy.sub hsy
  have hcross := beq_of_value (value_mul_of_le d₁ d₂ b₁ b₂) (value_mul_of_le d₃ d₄ b₃ b₄)
  rw [answer, hcross, atLeast_of_value hpx.1 (value_min_pair hsx.1 hex.1),
    atLeast_of_value (value_max_pair hsx.1 hex.1) hpx.1, atLeast_of_value hpy.1 (value_min_pair hsy.1 hey.1),
    atLeast_of_value (value_max_pair hsy.1 hey.1) hpy.1, Plane.mem_segment_iff_cross_box]
  simp only [Bool.and_eq_true, decide_eq_true_eq, and_assoc]
  push_cast
  rfl

end ScriptBridge.Script.LineClass
