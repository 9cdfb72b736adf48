import Mathlib
import ScriptBridge.Text.Units

/-!
# UTF-16 text and its escaped form

A string encodes to units that decode back to its code points: a code point below `0x10000` is
one unit, which is no surrogate since a character never is one, and any other is a high and a
low surrogate whose halves recombine to it. So the escaped form of an encoded string is the
string itself, and encoded text is always well formed. The other way, text is the encoding of its
escaped form exactly when it is well formed: a lone surrogate comes back as the six units of its
`\uXXXX` escape.
-/

namespace ScriptBridge.Units

theorem isHigh_eq_true {u : UInt16} : isHigh u = true ↔ 0xD800 ≤ u.toNat ∧ u.toNat ≤ 0xDBFF := by
  simp [isHigh]

theorem isLow_eq_true {u : UInt16} : isLow u = true ↔ 0xDC00 ≤ u.toNat ∧ u.toNat ≤ 0xDFFF := by
  simp [isLow]

theorem isHigh_eq_false {u : UInt16} : isHigh u = false ↔ ¬ (0xD800 ≤ u.toNat ∧ u.toNat ≤ 0xDBFF) := by
  simp [isHigh]

theorem isLow_eq_false {u : UInt16} : isLow u = false ↔ ¬ (0xDC00 ≤ u.toNat ∧ u.toNat ≤ 0xDFFF) := by
  simp [isLow]

theorem piecesOf_ofChar_append (c : Char) (rest : List UInt16) :
    piecesOf (ofChar c ++ rest) = .point c :: piecesOf rest := by
  have hv : c.toNat < 0xD800 ∨ (0xDFFF < c.toNat ∧ c.toNat < 0x110000) := c.valid
  by_cases h : c.toNat < 0x10000
  · have hu : (c.toNat.toUInt16).toNat = c.toNat := by simp; omega
    have hh : isHigh c.toNat.toUInt16 = false := isHigh_eq_false.mpr (by rw [hu]; omega)
    have hl : isLow c.toNat.toUInt16 = false := isLow_eq_false.mpr (by rw [hu]; omega)
    cases rest with
    | nil => simp [ofChar, h, piecesOf, hh, hl, hu]
    | cons lo rest => simp [ofChar, h, piecesOf, hh, hl, hu]
  · have hhi : ((0xD800 + (c.toNat - 0x10000) / 0x400).toUInt16).toNat =
        0xD800 + (c.toNat - 0x10000) / 0x400 := by simp; omega
    have hlo : ((0xDC00 + (c.toNat - 0x10000) % 0x400).toUInt16).toNat =
        0xDC00 + (c.toNat - 0x10000) % 0x400 := by simp; omega
    have hpair : (isHigh (0xD800 + (c.toNat - 0x10000) / 0x400).toUInt16 &&
        isLow (0xDC00 + (c.toNat - 0x10000) % 0x400).toUInt16) = true := by
      simp only [Bool.and_eq_true, isHigh_eq_true, isLow_eq_true, hhi, hlo]
      omega
    have hn : 0x10000 + ((0xD800 + (c.toNat - 0x10000) / 0x400).toUInt16.toNat - 0xD800) * 0x400 +
        ((0xDC00 + (c.toNat - 0x10000) % 0x400).toUInt16.toNat - 0xDC00) = c.toNat := by
      rw [hhi, hlo]
      omega
    simp only [ofChar, h, if_false, List.cons_append, List.nil_append]
    rw [piecesOf, if_pos hpair, hn, Char.ofNat_toNat]

theorem pieces_ofString (s : String) : pieces (ofString s) = s.toList.map .point := by
  simp only [pieces, ofString, List.toList_toArray]
  induction s.toList with
  | nil => simp [piecesOf]
  | cons c cs ih => rw [List.flatMap_cons, piecesOf_ofChar_append, ih, List.map_cons]

theorem toEscaped_ofString (s : String) : toEscaped (ofString s) = s := by
  simp [toEscaped, pieces_ofString, List.flatMap_map]

theorem isWellFormed_ofString (s : String) : isWellFormed (ofString s) = true := by
  simp [isWellFormed, pieces_ofString]

theorem ofChar_ofNat_single {u : UInt16} (hu : (isHigh u || isLow u) = false) :
    ofChar (Char.ofNat u.toNat) = [u] := by
  have hh := isHigh_eq_false.mp (Bool.or_eq_false_iff.mp hu).1
  have hl := isLow_eq_false.mp (Bool.or_eq_false_iff.mp hu).2
  have hlt := u.toNat_lt
  have hc : (Char.ofNat u.toNat).toNat = u.toNat := by
    rw [Char.toNat_ofNat, if_pos (by simp only [Nat.isValidChar]; omega)]
  simp only [ofChar, hc, show u.toNat < 0x10000 by omega, if_true, List.cons.injEq, and_true]
  exact UInt16.ofNat_toNat

theorem ofChar_ofNat_pair {u lo : UInt16} (hp : (isHigh u && isLow lo) = true) :
    ofChar (Char.ofNat (0x10000 + (u.toNat - 0xD800) * 0x400 + (lo.toNat - 0xDC00))) = [u, lo] := by
  obtain ⟨hh, hl⟩ := Bool.and_eq_true_iff.mp hp
  rw [isHigh_eq_true] at hh
  rw [isLow_eq_true] at hl
  have hc : (Char.ofNat (0x10000 + (u.toNat - 0xD800) * 0x400 + (lo.toNat - 0xDC00))).toNat =
      0x10000 + (u.toNat - 0xD800) * 0x400 + (lo.toNat - 0xDC00) := by
    rw [Char.toNat_ofNat, if_pos (by simp only [Nat.isValidChar]; omega)]
  have hhi : 0xD800 + (0x10000 + (u.toNat - 0xD800) * 0x400 + (lo.toNat - 0xDC00) - 0x10000) / 0x400
      = u.toNat := by omega
  have hlo : 0xDC00 + (0x10000 + (u.toNat - 0xD800) * 0x400 + (lo.toNat - 0xDC00) - 0x10000) % 0x400
      = lo.toNat := by omega
  simp only [ofChar, hc, show ¬ (0x10000 + (u.toNat - 0xD800) * 0x400 + (lo.toNat - 0xDC00) < 0x10000)
    by omega, if_false, hhi, hlo, UInt16.ofNat_toNat]

theorem flatMap_ofChar_of_piecesOf {l : List UInt16} {cs : List Char}
    (h : piecesOf l = cs.map .point) : cs.flatMap ofChar = l := by
  induction l using piecesOf.induct generalizing cs with
  | case1 =>
    rw [piecesOf] at h
    rw [List.map_eq_nil_iff.mp h.symm, List.flatMap_nil]
  | case2 u hs =>
    rw [piecesOf, if_pos hs] at h
    obtain ⟨c, -, hc⟩ := List.mem_map.mp (h ▸ List.mem_singleton_self _)
    cases hc
  | case3 u hs =>
    rw [piecesOf, if_neg hs] at h
    obtain ⟨c, rfl, hc⟩ := List.map_eq_singleton_iff.mp h.symm
    obtain rfl := Piece.point.inj hc
    rw [List.flatMap_singleton, ofChar_ofNat_single (Bool.eq_false_iff.mpr hs)]
  | case4 u lo rest hp ih =>
    rw [piecesOf, if_pos hp] at h
    have hd := ofChar_ofNat_pair hp
    generalize Char.ofNat (0x10000 + (u.toNat - 0xD800) * 0x400 + (lo.toNat - 0xDC00)) = d at h hd
    obtain ⟨c, cs', rfl, hc, hrest⟩ := List.map_eq_cons_iff.mp h.symm
    obtain rfl := Piece.point.inj hc
    rw [List.flatMap_cons, hd, ih hrest.symm]
    rfl
  | case5 u lo rest hp hs ih =>
    rw [piecesOf, if_neg hp, if_pos hs] at h
    obtain ⟨c, cs', -, hc, -⟩ := List.map_eq_cons_iff.mp h.symm
    cases hc
  | case6 u lo rest hp hs ih =>
    rw [piecesOf, if_neg hp, if_neg hs] at h
    obtain ⟨c, cs', rfl, hc, hrest⟩ := List.map_eq_cons_iff.mp h.symm
    obtain rfl := Piece.point.inj hc
    rw [List.flatMap_cons, ofChar_ofNat_single (Bool.eq_false_iff.mpr hs), ih hrest.symm]
    rfl

theorem isWellFormed_iff {u : Units} :
    isWellFormed u = true ↔ ∃ cs : List Char, pieces u = cs.map .point := by
  constructor
  · intro h
    simp only [isWellFormed, List.all_eq_true] at h
    generalize pieces u = ps at h ⊢
    induction ps with
    | nil => exact ⟨[], rfl⟩
    | cons p ps ih =>
      obtain ⟨cs, hcs⟩ := ih fun q hq => h q (List.mem_cons_of_mem _ hq)
      cases p with
      | point c => exact ⟨c :: cs, by rw [hcs]; rfl⟩
      | lone v => exact absurd (h _ List.mem_cons_self) (by simp)
  · rintro ⟨cs, hcs⟩
    simp [isWellFormed, hcs]

theorem ofString_toEscaped {u : Units} (h : isWellFormed u = true) : ofString (toEscaped u) = u := by
  obtain ⟨cs, hcs⟩ := isWellFormed_iff.mp h
  have hl : cs.flatMap ofChar = u.toList := flatMap_ofChar_of_piecesOf hcs
  simp only [ofString, toEscaped, hcs, List.flatMap_map, List.flatMap_singleton',
    String.toList_ofList, hl]

theorem ofString_toEscaped_eq_iff (u : Units) :
    ofString (toEscaped u) = u ↔ isWellFormed u = true := by
  constructor
  · intro h
    rw [← h]
    exact isWellFormed_ofString _
  · exact ofString_toEscaped

end ScriptBridge.Units
