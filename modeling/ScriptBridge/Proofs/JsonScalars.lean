import ScriptBridge.Proofs.JsonReading

/-!
# Reading numbers and strings

What the reader takes as a number or a string is what the grammar calls one. A skipped number is
checked against the standard's number syntax; a limit is read as a natural number only when it is
digits alone, and then its value is exact as long as it fits in 64 bits. A string is checked, or
decoded, escape by escape; a character wider than one byte is copied over byte by byte, which
yields its own encoding again.
-/

namespace ScriptBridge.Json

open Grammar

variable {b : ByteArray} {i j k : Nat} {cs : List Char} {c : Char}

theorem char_le_iff {c d : Char} : c ≤ d ↔ c.toNat ≤ d.toNat := UInt32.le_iff_toNat_le

theorem Digit.toNat_lt (h : Digit c) : c.toNat < 128 := by
  have := char_le_iff.1 h.2
  have : ('9' : Char).toNat = 57 := rfl
  omega

theorem isDigit_leadByte (c : Char) : isDigit (leadByte c) = decide (Digit c) :=
  byteTest_leadByte (by decide +kernel) (by decide +kernel) (fun _ h => Digit.toNat_lt h) c

theorem toNat_leadByte_of_lt (h : c.toNat < 128) : (leadByte c).toNat = c.toNat := by
  rw [leadByte_of_lt h, Nat.toUInt8, UInt8.toNat_ofNat']
  omega

theorem dropWhile_append_of_all {p : Char → Bool} {l r : List Char} (hl : ∀ x ∈ l, p x)
    (hr : ∀ x ∈ r.head?, ¬p x) : (l ++ r).dropWhile p = r := by
  rw [List.dropWhile_append_of_pos hl]
  cases r with
  | nil => rfl
  | cons x r => exact List.dropWhile_cons_of_neg (hr x rfl)

theorem takeWhile_append_of_all {p : Char → Bool} {l r : List Char} (hl : ∀ x ∈ l, p x)
    (hr : ∀ x ∈ r.head?, ¬p x) : (l ++ r).takeWhile p = l := by
  rw [List.takeWhile_append_of_pos hl]
  cases r with
  | nil => simp
  | cons x r => simp [List.takeWhile_cons_of_neg (hr x rfl)]

/-! ## Runs of digits -/

theorem dropDigits_exec (n : Nat) (h : At b i cs) (hn : (utf8 cs).length < n) :
    ∃ j, (dropDigits n).exec b i = (.ok (), j) ∧ At b j (cs.dropWhile fun c => decide (Digit c)) := by
  induction cs generalizing n i with
  | nil =>
    obtain ⟨n, rfl⟩ : ∃ m, n = m + 1 := ⟨n - 1, by simp at hn; omega⟩
    refine ⟨i, ?_, h⟩
    rw [dropDigits, exec_bind_of_ok exec_peek, h.peek_nil]
    rfl
  | cons c cs ih =>
    obtain ⟨n, rfl⟩ : ∃ m, n = m + 1 := ⟨n - 1, by rw [utf8_cons] at hn; simp at hn; omega⟩
    rw [dropDigits, exec_bind_of_ok exec_peek, h.peek_cons]
    by_cases hd : Digit c
    · have hlt := Digit.toNat_lt hd
      have hn' : (utf8 cs).length < n := by rw [utf8_cons_of_lt hlt] at hn; simp at hn; omega
      obtain ⟨j, hj, hat⟩ := ih n (h.next hlt) hn'
      refine ⟨j, ?_, by simpa [hd] using hat⟩
      simp only [isDigit_leadByte, hd, decide_true, if_true]
      rw [exec_bind_of_ok exec_eat, hj]
    · refine ⟨i, ?_, by simpa [hd] using h⟩
      simp only [isDigit_leadByte, hd, decide_false, Bool.false_eq_true, if_false]
      rfl

theorem digitsWith_exec (step : Digits → Nat → Digits) (n : Nat) (s : Digits) (h : At b i cs)
    (hn : (utf8 cs).length < n) :
    ∃ j, (digitsWith step n s).exec b i =
        (.ok ((cs.takeWhile fun c => decide (Digit c)).foldl (fun s c => step s (c.toNat - 48)) s), j) ∧
      At b j (cs.dropWhile fun c => decide (Digit c)) := by
  induction cs generalizing n i s with
  | nil =>
    obtain ⟨n, rfl⟩ : ∃ m, n = m + 1 := ⟨n - 1, by simp at hn; omega⟩
    refine ⟨i, ?_, h⟩
    rw [digitsWith, exec_bind_of_ok exec_peek, h.peek_nil]
    rfl
  | cons c cs ih =>
    obtain ⟨n, rfl⟩ : ∃ m, n = m + 1 := ⟨n - 1, by rw [utf8_cons] at hn; simp at hn; omega⟩
    rw [digitsWith, exec_bind_of_ok exec_peek, h.peek_cons]
    by_cases hd : Digit c
    · have hlt := Digit.toNat_lt hd
      have hn' : (utf8 cs).length < n := by rw [utf8_cons_of_lt hlt] at hn; simp at hn; omega
      obtain ⟨j, hj, hat⟩ := ih n (step s (c.toNat - 48)) (h.next hlt) hn'
      refine ⟨j, ?_, by simpa [hd] using hat⟩
      simp only [isDigit_leadByte, hd, decide_true, if_true]
      rw [exec_bind_of_ok exec_eat, toNat_leadByte_of_lt hlt, hj]
      simp [hd]
    · refine ⟨i, ?_, by simpa [hd] using h⟩
      simp only [isDigit_leadByte, hd, decide_false, Bool.false_eq_true, if_false]
      simp [hd]

/-! ## Numbers as the standard writes them -/

theorem skipIntegerPart_sound (h : At b i cs) (hok : skipIntegerPart.exec b i = (.ok (), j)) :
    ∃ p r, cs = p ++ r ∧ IntPart p ∧ At b j r := by
  rw [skipIntegerPart] at hok
  obtain ⟨x, j₁, hx, hok⟩ := exec_bind_eq_ok hok
  split at hok
  · obtain ⟨cs', rfl, rfl, hat⟩ := h.of_next? hx (by decide)
    obtain ⟨y, j₂, hy, hok⟩ := exec_bind_eq_ok hok
    rw [exec_peek] at hy
    cases hy
    refine ⟨['0'], cs', rfl, IntPart.zero, ?_⟩
    split at hok
    · split at hok
      · simp at hok
      · cases hok
        exact hat
    · cases hok
      exact hat
  · rename_i v hv
    split at hok
    · rename_i hrange
      simp only [Bool.and_eq_true, decide_eq_true_eq] at hrange
      have hlt : v.toNat < 128 := by
        have := hrange.2
        simp only [UInt8.le_iff_toNat_le] at this
        simp at this
        omega
      obtain ⟨cs', rfl, rfl, hat⟩ := h.of_next? hx hlt
      obtain ⟨n, j₂, hn, hok⟩ := exec_bind_eq_ok hok
      rw [exec_budget] at hn
      cases hn
      obtain ⟨j₃, hj₃, hat₃⟩ := dropDigits_exec (b.size + 1 - (i + 1)) hat (by rw [hat.budget]; omega)
      rw [hj₃] at hok
      cases hok
      refine ⟨asciiChar v :: cs'.takeWhile (fun c => decide (Digit c)), _, ?_, ?_, hat₃⟩
      · rw [List.cons_append, List.takeWhile_append_dropWhile]
      · have hvt := toNat_asciiChar hlt
        simp only [UInt8.le_iff_toNat_le] at hrange
        simp at hrange
        have h1 : ('1' : Char).toNat = 49 := rfl
        have h9 : ('9' : Char).toNat = 57 := rfl
        refine IntPart.lead (char_le_iff.2 ?_) (char_le_iff.2 ?_) of_mem_takeWhile <;> omega
    · simp at hok
  · simp at hok

theorem skipIntegerPart_complete {p r : List Char} (hp : IntPart p) (hr : ∀ c ∈ r.head?, ¬Digit c)
    (h : At b i (p ++ r)) : ∃ j, skipIntegerPart.exec b i = (.ok (), j) ∧ At b j r := by
  rw [skipIntegerPart]
  cases hp with
  | zero =>
    have hat : At b (i + 1) r := h.next (by decide)
    rw [exec_bind_of_ok h.next?_exec]
    refine ⟨i + 1, ?_, hat⟩
    split
    · rw [exec_bind_of_ok exec_peek]
      cases r with
      | nil => rw [hat.peek_nil]; rfl
      | cons c r =>
        rw [hat.peek_cons]
        simp only [isDigit_leadByte, hr c rfl, decide_false, Bool.false_eq_true, if_false]
        rfl
    · rename_i hne heq
      exact absurd (Option.some.inj heq).symm (by rw [leadByte_of_lt (by decide)]; exact hne)
    · simp at *
  | lead h₁ h₂ hds =>
    rename_i d ds
    have h1 : ('1' : Char).toNat = 49 := rfl
    have h9 : ('9' : Char).toNat = 57 := rfl
    have hd₁ := char_le_iff.1 h₁
    have hd₂ := char_le_iff.1 h₂
    have hlt : d.toNat < 128 := by omega
    have hlead := toNat_leadByte_of_lt hlt
    rw [List.cons_append] at h
    have hat : At b (i + 1) (ds ++ r) := h.next hlt
    rw [exec_bind_of_ok h.next?_exec]
    split
    · rename_i heq
      have h48 : (48 : UInt8).toNat = 48 := rfl
      have := congrArg UInt8.toNat (Option.some.inj heq)
      rw [hlead, h48] at this
      omega
    · rename_i v _ heq
      cases Option.some.inj heq
      have hrange : (decide (49 ≤ leadByte d) && decide (leadByte d ≤ 57)) = true := by
        simp only [Bool.and_eq_true, decide_eq_true_eq, UInt8.le_iff_toNat_le, hlead]
        simp
        omega
      rw [if_pos hrange, exec_bind_of_ok exec_budget]
      obtain ⟨j, hj, hatj⟩ := dropDigits_exec (b.size + 1 - (i + 1)) hat (by rw [hat.budget]; omega)
      refine ⟨j, hj, ?_⟩
      rwa [dropWhile_append_of_all (fun x hx => decide_eq_true (hds x hx))
        (fun x hx => by simpa using hr x hx)] at hatj
    · simp at *

theorem At.peek_ascii {v : UInt8} (h : At b i cs) (hv : b[i]? = some v) (hlt : v.toNat < 128) :
    ∃ cs', cs = asciiChar v :: cs' ∧ At b (i + 1) cs' := by
  obtain ⟨c, cs', rfl, hc, hat⟩ := h.of_peek hv hlt
  refine ⟨cs', ?_, hat⟩
  rw [← Char.toNat_inj.1 (hc.trans (toNat_asciiChar hlt).symm)]

theorem At.peek_ne {r : List Char} (h : At b i r) {v : UInt8} (hv : v.toNat < 128)
    (hr : ∀ c ∈ r.head?, c ≠ asciiChar v) : (b[i]? == some v) = false := by
  cases r with
  | nil => rw [h.peek_nil]; rfl
  | cons c r =>
    rw [h.peek_cons, beq_eq_false_iff_ne, ne_eq, Option.some.injEq, leadByte_eq_iff hv,
      ← toNat_asciiChar hv, Char.toNat_inj]
    exact hr c rfl

theorem digitRun_takeWhile (cs : List Char) : DigitRun (cs.takeWhile fun c => decide (Digit c)) :=
  of_mem_takeWhile

theorem At.peek_digit {v : UInt8} (h : At b i cs) (hv : b[i]? = some v) (hd : isDigit v = true) :
    ∃ c cs', cs = c :: cs' ∧ Digit c := by
  cases cs with
  | nil => rw [h.peek_nil] at hv; cases hv
  | cons c cs' =>
    rw [h.peek_cons, Option.some.injEq] at hv
    subst hv
    rw [isDigit_leadByte] at hd
    exact ⟨c, cs', rfl, of_decide_eq_true hd⟩

theorem skipFraction_sound (h : At b i cs) (hok : skipFraction.exec b i = (.ok (), j)) :
    ∃ f r, cs = f ++ r ∧ Fraction f ∧ At b j r := by
  rw [skipFraction] at hok
  obtain ⟨x, j₁, hx, hok⟩ := exec_bind_eq_ok hok
  rw [exec_peek] at hx
  cases hx
  split at hok
  · rename_i hpoint
    obtain ⟨cs', rfl, hat⟩ := h.peek_ascii (beq_iff_eq.1 hpoint) (by decide)
    rw [exec_bind_of_ok exec_eat] at hok
    obtain ⟨y, j₂, hy, hok⟩ := exec_bind_eq_ok hok
    rw [exec_peek] at hy
    cases hy
    split at hok
    · split at hok
      · rename_i d hd hdig
        obtain ⟨c, cs'', rfl, hc⟩ := hat.peek_digit hd hdig
        obtain ⟨n, j₂, hn, hok⟩ := exec_bind_eq_ok hok
        rw [exec_budget] at hn
        cases hn
        obtain ⟨j₃, hj₃, hat₃⟩ := dropDigits_exec (b.size + 1 - (i + 1)) hat (by rw [hat.budget]; omega)
        rw [hj₃] at hok
        cases hok
        refine ⟨'.' :: c :: cs''.takeWhile (fun c => decide (Digit c)),
          cs''.dropWhile (fun c => decide (Digit c)), ?_, Fraction.some hc (digitRun_takeWhile cs''), ?_⟩
        · rw [List.cons_append, List.cons_append, List.takeWhile_append_dropWhile]
          rfl
        · simpa [hc] using hat₃
      · simp at hok
    · simp at hok
  · cases hok
    exact ⟨[], cs, rfl, Fraction.none, h⟩

theorem skipFraction_complete {f r : List Char} (hf : Fraction f) (hr : ∀ c ∈ r.head?, ¬Digit c)
    (hpoint : f = [] → ∀ c ∈ r.head?, c ≠ '.') (h : At b i (f ++ r)) :
    ∃ j, skipFraction.exec b i = (.ok (), j) ∧ At b j r := by
  rw [skipFraction, exec_bind_of_ok exec_peek]
  cases hf with
  | none =>
    refine ⟨i, ?_, h⟩
    rw [h.peek_ne (v := 46) (by decide) (hpoint rfl)]
    rfl
  | some hd hds =>
    rename_i d ds
    rw [List.cons_append, List.cons_append] at h
    have hat₁ : At b (i + 1) (d :: (ds ++ r)) := h.next (by decide)
    rw [h.peek_cons, if_pos (by rfl), exec_bind_of_ok exec_eat, exec_bind_of_ok exec_peek, hat₁.peek_cons]
    simp only [isDigit_leadByte, hd, decide_true, if_true]
    rw [exec_bind_of_ok exec_budget]
    obtain ⟨j, hj, hatj⟩ := dropDigits_exec (b.size + 1 - (i + 1)) hat₁ (by rw [hat₁.budget]; omega)
    refine ⟨j, hj, ?_⟩
    rw [← List.cons_append, dropWhile_append_of_all (p := fun c => decide (Digit c))
      (fun x hx => decide_eq_true (by rcases List.mem_cons.1 hx with rfl | hx; exact hd; exact hds x hx))
      (fun x hx => by simpa using hr x hx)] at hatj
    exact hatj

theorem skipSign_sound (h : At b i cs) (hok : skipSign.exec b i = (.ok (), j)) :
    ∃ s r, cs = s ++ r ∧ (s = [] ∨ s = ['+'] ∨ s = ['-']) ∧ At b j r := by
  rw [skipSign] at hok
  obtain ⟨x, j₁, hx, hok⟩ := exec_bind_eq_ok hok
  rw [exec_peek] at hx
  cases hx
  split at hok
  · rename_i hsign
    rw [exec_eat] at hok
    cases hok
    simp only [Bool.or_eq_true, beq_iff_eq] at hsign
    rcases hsign with hsign | hsign
    · obtain ⟨cs', rfl, hat⟩ := h.peek_ascii hsign (by decide)
      exact ⟨['+'], cs', rfl, Or.inr (Or.inl rfl), hat⟩
    · obtain ⟨cs', rfl, hat⟩ := h.peek_ascii hsign (by decide)
      exact ⟨['-'], cs', rfl, Or.inr (Or.inr rfl), hat⟩
  · cases hok
    exact ⟨[], cs, rfl, Or.inl rfl, h⟩

theorem skipSign_complete {s r : List Char} (hs : s = [] ∨ s = ['+'] ∨ s = ['-'])
    (hr : s = [] → ∀ c ∈ r.head?, c ≠ '+' ∧ c ≠ '-') (h : At b i (s ++ r)) :
    ∃ j, skipSign.exec b i = (.ok (), j) ∧ At b j r := by
  rw [skipSign, exec_bind_of_ok exec_peek]
  rcases hs with rfl | rfl | rfl
  · refine ⟨i, ?_, h⟩
    rw [h.peek_ne (v := 43) (by decide) fun c hc => (hr rfl c hc).1,
      h.peek_ne (v := 45) (by decide) fun c hc => (hr rfl c hc).2]
    rfl
  · exact ⟨i + 1, by rw [h.peek_cons]; rfl, h.next (by decide)⟩
  · exact ⟨i + 1, by rw [h.peek_cons]; rfl, h.next (by decide)⟩

theorem At.next?_digit {v : UInt8} (h : At b i cs) (hx : next?.exec b i = (.ok (some v), j))
    (hd : isDigit v = true) : ∃ c cs', cs = c :: cs' ∧ Digit c ∧ At b j cs' := by
  cases cs with
  | nil => rw [h.next?_nil] at hx; cases hx
  | cons c cs' =>
    rw [h.next?_exec] at hx
    cases hx
    rw [isDigit_leadByte] at hd
    have hc := of_decide_eq_true hd
    exact ⟨c, cs', rfl, hc, h.next (Digit.toNat_lt hc)⟩

theorem skipExponent_sound (h : At b i cs) (hok : skipExponent.exec b i = (.ok (), j)) :
    ∃ e r, cs = e ++ r ∧ Exponent e ∧ At b j r := by
  rw [skipExponent] at hok
  obtain ⟨x, j₁, hx, hok⟩ := exec_bind_eq_ok hok
  rw [exec_peek] at hx
  cases hx
  split at hok
  · rename_i hletter
    obtain ⟨l, cs', rfl, hl, hat⟩ : ∃ l cs', cs = l :: cs' ∧ (l = 'e' ∨ l = 'E') ∧ At b (i + 1) cs' := by
      simp only [Bool.or_eq_true, beq_iff_eq] at hletter
      rcases hletter with hv | hv
      · obtain ⟨cs', rfl, hat⟩ := h.peek_ascii hv (by decide)
        exact ⟨_, cs', rfl, Or.inl rfl, hat⟩
      · obtain ⟨cs', rfl, hat⟩ := h.peek_ascii hv (by decide)
        exact ⟨_, cs', rfl, Or.inr rfl, hat⟩
    rw [exec_bind_of_ok exec_eat] at hok
    obtain ⟨⟨⟩, j₂, hsign, hok⟩ := exec_bind_eq_ok hok
    obtain ⟨s, cs'', rfl, hs, hat₂⟩ := skipSign_sound hat hsign
    obtain ⟨y, j₃, hy, hok⟩ := exec_bind_eq_ok hok
    split at hok
    · split at hok
      · rename_i d hdig
        obtain ⟨c, rest, rfl, hc, hat₃⟩ := hat₂.next?_digit hy hdig
        obtain ⟨n, j₄, hn, hok⟩ := exec_bind_eq_ok hok
        rw [exec_budget] at hn
        cases hn
        obtain ⟨j₅, hj₅, hat₅⟩ := dropDigits_exec (b.size + 1 - j₃) hat₃ (by rw [hat₃.budget]; omega)
        rw [hj₅] at hok
        cases hok
        refine ⟨l :: s ++ c :: rest.takeWhile (fun c => decide (Digit c)),
          rest.dropWhile (fun c => decide (Digit c)), ?_, Exponent.some hl hs hc (digitRun_takeWhile rest), hat₅⟩
        simp
      · simp at hok
    · simp at hok
  · cases hok
    exact ⟨[], cs, rfl, Exponent.none, h⟩

theorem skipExponent_complete {e r : List Char} (he : Exponent e) (hr : ∀ c ∈ r.head?, ¬Digit c)
    (hletter : e = [] → ∀ c ∈ r.head?, c ≠ 'e' ∧ c ≠ 'E') (h : At b i (e ++ r)) :
    ∃ j, skipExponent.exec b i = (.ok (), j) ∧ At b j r := by
  rw [skipExponent, exec_bind_of_ok exec_peek]
  cases he with
  | none =>
    refine ⟨i, ?_, h⟩
    rw [h.peek_ne (v := 101) (by decide) fun c hc => (hletter rfl c hc).1,
      h.peek_ne (v := 69) (by decide) fun c hc => (hletter rfl c hc).2]
    rfl
  | some hl hs hd hds =>
    rename_i l d s ds
    have hlt : l.toNat < 128 := by rcases hl with rfl | rfl <;> decide
    rw [List.cons_append] at h
    have hat₁ : At b (i + 1) (s ++ d :: ds ++ r) := by
      have := h.next hlt
      simpa using this
    have hcond : (some (leadByte l) == some 101 || some (leadByte l) == some 69) = true := by
      rcases hl with rfl | rfl <;> rfl
    rw [h.peek_cons, if_pos hcond, exec_bind_of_ok exec_eat]
    obtain ⟨j₂, hj₂, hat₂⟩ := skipSign_complete (r := d :: (ds ++ r)) hs
      (fun _ c hc => by
        cases hc
        refine ⟨fun he => ?_, fun he => ?_⟩ <;> subst he <;> exact absurd hd (by decide))
      (by simpa using hat₁)
    rw [exec_bind_of_ok hj₂, exec_bind_of_ok hat₂.next?_exec]
    simp only [isDigit_leadByte, hd, decide_true, if_true]
    rw [exec_bind_of_ok exec_budget]
    have hat₃ : At b (j₂ + 1) (ds ++ r) := hat₂.next (Digit.toNat_lt hd)
    obtain ⟨j, hj, hatj⟩ := dropDigits_exec (b.size + 1 - (j₂ + 1)) hat₃ (by rw [hat₃.budget]; omega)
    refine ⟨j, hj, ?_⟩
    rwa [dropWhile_append_of_all (fun x hx => decide_eq_true (hds x hx))
      (fun x hx => by simpa using hr x hx)] at hatj

def AfterValue (r : List Char) : Prop := ∀ c ∈ r.head?, Blank c ∨ c = ',' ∨ c = ']' ∨ c = '}'

theorem AfterValue.not_digit {r : List Char} (h : AfterValue r) : ∀ c ∈ r.head?, ¬Digit c := by
  intro c hc hd
  rcases h c hc with hb | rfl | rfl | rfl
  · rcases hb with rfl | rfl | rfl | rfl <;> exact absurd hd (by decide)
  all_goals exact absurd hd (by decide)

theorem AfterValue.ne {r : List Char} (h : AfterValue r) {d : Char}
    (hd : d = '.' ∨ d = 'e' ∨ d = 'E' ∨ d = '+' ∨ d = '-') :
    ∀ c ∈ r.head?, c ≠ d := by
  intro c hc he
  subst he
  rcases h c hc with hb | hb | hb | hb
  · rcases hb with hb | hb | hb | hb <;> rcases hd with rfl | rfl | rfl | rfl | rfl <;> cases hb
  all_goals rcases hd with rfl | rfl | rfl | rfl | rfl <;> cases hb

theorem skipNumber_sound (h : At b i cs) (hok : skipNumber.exec b i = (.ok (), j)) :
    ∃ p f e r, cs = p ++ f ++ e ++ r ∧ IntPart p ∧ Fraction f ∧ Exponent e ∧ At b j r := by
  rw [skipNumber] at hok
  obtain ⟨⟨⟩, j₁, h₁, hok⟩ := exec_bind_eq_ok hok
  obtain ⟨⟨⟩, j₂, h₂, h₃⟩ := exec_bind_eq_ok hok
  obtain ⟨p, r₁, rfl, hp, hat₁⟩ := skipIntegerPart_sound h h₁
  obtain ⟨f, r₂, rfl, hf, hat₂⟩ := skipFraction_sound hat₁ h₂
  obtain ⟨e, r, rfl, he, hat⟩ := skipExponent_sound hat₂ h₃
  exact ⟨p, f, e, r, by simp, hp, hf, he, hat⟩

theorem skipNumber_complete {p f e r : List Char} (hp : IntPart p) (hf : Fraction f) (he : Exponent e)
    (hr : AfterValue r) (h : At b i (p ++ f ++ e ++ r)) :
    ∃ j, skipNumber.exec b i = (.ok (), j) ∧ At b j r := by
  have hre : ∀ c ∈ (e ++ r).head?, ¬Digit c := by
    cases he with
    | none => exact hr.not_digit
    | some hl _ _ _ => intro c hc hd; cases hc; rcases hl with rfl | rfl <;> exact absurd hd (by decide)
  have hrf : ∀ c ∈ (f ++ e ++ r).head?, ¬Digit c := by
    cases hf with
    | none => simpa using hre
    | some _ _ => intro c hc hd; cases hc; exact absurd hd (by decide)
  have hpoint : f = [] → ∀ c ∈ (e ++ r).head?, c ≠ '.' := by
    intro _
    cases he with
    | none => exact hr.ne (Or.inl rfl)
    | some hl _ _ _ => intro c hc he; cases hc; rcases hl with rfl | rfl <;> cases he
  rw [skipNumber]
  obtain ⟨j₁, h₁, hat₁⟩ := skipIntegerPart_complete hp hrf (by simpa using h)
  obtain ⟨j₂, h₂, hat₂⟩ := skipFraction_complete hf hre hpoint (by simpa using hat₁)
  obtain ⟨j, h₃, hat⟩ := skipExponent_complete he hr.not_digit
    (fun _ c hc => ⟨hr.ne (Or.inr (Or.inl rfl)) c hc, hr.ne (Or.inr (Or.inr (Or.inl rfl))) c hc⟩) hat₂
  exact ⟨j, by rw [exec_bind_of_ok h₁, exec_bind_of_ok h₂, h₃], hat⟩

/-! ## Limits

A limit is a number read with `readNumber`. It comes back as a natural only when it is an
integer part alone whose value fits in 64 bits; the state of its digits shows which. -/

def Digits.Exact (s : Digits) : Prop :=
  (s.full = false → s.sig = s.digits ∧ s.digits ≤ wordMax) ∧ (s.full = true → wordMax < s.digits)

theorem Digits.Exact.integer {s : Digits} (h : s.Exact) (d : Nat) : (s.integer d).Exact := by
  unfold Digits.integer
  split
  · rename_i hfit
    simp only [Bool.and_eq_true, Bool.not_eq_true', decide_eq_true_eq] at hfit
    obtain ⟨hsig, -⟩ := h.1 hfit.1
    exact ⟨fun _ => ⟨by simp [hsig], by simp only; omega⟩, fun hf => by simp [hfit.1] at hf⟩
  · rename_i hover
    refine ⟨fun hf => by simp at hf, fun _ => ?_⟩
    simp only
    cases hfull : s.full
    · obtain ⟨hsig, -⟩ := h.1 hfull
      simp only [hfull, Bool.not_false, Bool.true_and, decide_eq_true_eq] at hover
      omega
    · have := h.2 hfull
      omega

def intDigits (p : List Char) : Digits := p.foldl (fun s c => s.integer (c.toNat - 48)) {}

theorem foldl_integer_digits (p : List Char) (s : Digits) :
    (p.foldl (fun s c => s.integer (c.toNat - 48)) s).digits =
      p.foldl (fun n c => n * 10 + (c.toNat - 48)) s.digits := by
  induction p generalizing s with
  | nil => rfl
  | cons c p ih =>
    rw [List.foldl_cons, List.foldl_cons, ih]
    congr 1
    unfold Digits.integer
    split <;> rfl

theorem foldl_integer_exact (p : List Char) {s : Digits} (h : s.Exact) :
    (p.foldl (fun s c => s.integer (c.toNat - 48)) s).Exact := by
  induction p generalizing s with
  | nil => exact h
  | cons c p ih => exact ih (h.integer _)

theorem intDigits_fits (p : List Char) :
    ((intDigits p).full = false ↔ digitsValue p ≤ wordMax) ∧
      ((intDigits p).full = false → (intDigits p).sig = digitsValue p) := by
  have hex : (intDigits p).Exact :=
    foldl_integer_exact p ⟨fun _ => ⟨rfl, by simp [wordMax]⟩, fun h => by cases h⟩
  have hd : (intDigits p).digits = digitsValue p := foldl_integer_digits p {}
  refine ⟨⟨fun hf => hd ▸ (hex.1 hf).2, fun hv => ?_⟩, fun hf => hd ▸ (hex.1 hf).1⟩
  cases hf : (intDigits p).full
  · rfl
  · have := hex.2 hf
    omega

theorem integerPart_sound {t : Digits} (h : At b i cs) (hok : integerPart.exec b i = (.ok t, j)) :
    ∃ p r, cs = p ++ r ∧ IntPart p ∧ t = intDigits p ∧ At b j r := by
  rw [integerPart] at hok
  obtain ⟨x, j₁, hx, hok⟩ := exec_bind_eq_ok hok
  split at hok
  · simp at hok
  · rename_i v
    split at hok
    · rename_i h48
      cases beq_iff_eq.1 h48
      obtain ⟨cs', rfl, rfl, hat⟩ := h.of_next? hx (by decide)
      obtain ⟨y, j₂, hy, hok⟩ := exec_bind_eq_ok hok
      rw [exec_peek] at hy
      cases hy
      refine ⟨['0'], cs', rfl, IntPart.zero, ?_⟩
      split at hok
      · split at hok
        · simp at hok
        · cases hok
          exact ⟨rfl, hat⟩
      · cases hok
        exact ⟨rfl, hat⟩
    · split at hok
      · rename_i hrange
        simp only [Bool.and_eq_true, decide_eq_true_eq, UInt8.le_iff_toNat_le] at hrange
        have h49 : (49 : UInt8).toNat = 49 := rfl
        have h57 : (57 : UInt8).toNat = 57 := rfl
        rw [h49, h57] at hrange
        have hlt : v.toNat < 128 := by omega
        obtain ⟨cs', rfl, rfl, hat⟩ := h.of_next? hx hlt
        obtain ⟨n, j₂, hn, hok⟩ := exec_bind_eq_ok hok
        rw [exec_budget] at hn
        cases hn
        obtain ⟨j₃, hj₃, hat₃⟩ := digitsWith_exec Digits.integer (b.size + 1 - (i + 1))
          (Digits.integer {} (v.toNat - 48)) hat (by rw [hat.budget]; omega)
        rw [hj₃] at hok
        cases hok
        have hvt := toNat_asciiChar hlt
        have h1 : ('1' : Char).toNat = 49 := rfl
        have h9 : ('9' : Char).toNat = 57 := rfl
        refine ⟨asciiChar v :: cs'.takeWhile (fun c => decide (Digit c)), _, ?_,
          IntPart.lead (char_le_iff.2 (by omega)) (char_le_iff.2 (by omega)) of_mem_takeWhile, ?_, hat₃⟩
        · rw [List.cons_append, List.takeWhile_append_dropWhile]
        · rw [intDigits, List.foldl_cons, hvt]
      · simp at hok

theorem integerPart_complete {p r : List Char} (hp : IntPart p) (hr : ∀ c ∈ r.head?, ¬Digit c)
    (h : At b i (p ++ r)) : ∃ j, integerPart.exec b i = (.ok (intDigits p), j) ∧ At b j r := by
  rw [integerPart]
  cases hp with
  | zero =>
    have hat : At b (i + 1) r := h.next (by decide)
    rw [exec_bind_of_ok h.next?_exec]
    refine ⟨i + 1, ?_, hat⟩
    have h0 : leadByte '0' = 48 := rfl
    dsimp only
    simp only [h0, beq_self_eq_true, if_true]
    rw [exec_bind_of_ok exec_peek]
    cases r with
    | nil => rw [hat.peek_nil]; rfl
    | cons c r =>
      rw [hat.peek_cons]
      simp only [isDigit_leadByte, hr c rfl, decide_false, Bool.false_eq_true, if_false]
      rfl
  | lead h₁ h₂ hds =>
    rename_i d ds
    have h1 : ('1' : Char).toNat = 49 := rfl
    have h9 : ('9' : Char).toNat = 57 := rfl
    have hd₁ := char_le_iff.1 h₁
    have hd₂ := char_le_iff.1 h₂
    have hlt : d.toNat < 128 := by omega
    have hlead := toNat_leadByte_of_lt hlt
    rw [List.cons_append] at h
    have hat : At b (i + 1) (ds ++ r) := h.next hlt
    rw [exec_bind_of_ok h.next?_exec]
    have hne : (leadByte d == 48) = false := by
      rw [beq_eq_false_iff_ne]
      intro heq
      have := congrArg UInt8.toNat heq
      rw [hlead] at this
      simp at this
      omega
    have hrange : (decide (49 ≤ leadByte d) && decide (leadByte d ≤ 57)) = true := by
      simp only [Bool.and_eq_true, decide_eq_true_eq, UInt8.le_iff_toNat_le, hlead]
      simp
      omega
    simp only [hne, Bool.false_eq_true, if_false, if_pos hrange]
    rw [exec_bind_of_ok exec_budget]
    obtain ⟨j, hj, hatj⟩ := digitsWith_exec Digits.integer (b.size + 1 - (i + 1))
      (Digits.integer {} ((leadByte d).toNat - 48)) hat (by rw [hat.budget]; omega)
    have hdrop := dropWhile_append_of_all (fun x hx => decide_eq_true (hds x hx)) (fun x hx => by simpa using hr x hx)
    have htake := takeWhile_append_of_all (fun x hx => decide_eq_true (hds x hx)) (fun x hx => by simpa using hr x hx)
    refine ⟨j, ?_, by rwa [hdrop] at hatj⟩
    rw [hj, htake, hlead]
    rfl

theorem pointPart_of_false {whole s : Digits} (hok : (pointPart whole).exec b i = (.ok (s, false), j)) :
    s = whole ∧ j = i := by
  rw [pointPart] at hok
  obtain ⟨x, j₁, hx, hok⟩ := exec_bind_eq_ok hok
  rw [exec_peek] at hx
  cases hx
  split at hok
  · obtain ⟨t, j₂, -, hok⟩ := exec_bind_eq_ok hok
    simp at hok
  · simp at hok
    exact ⟨hok.1.symm, hok.2.symm⟩

theorem pointPart_of_not_point {whole : Digits} {r : List Char} (h : At b i r)
    (hr : ∀ c ∈ r.head?, c ≠ '.') : (pointPart whole).exec b i = (.ok (whole, false), i) := by
  rw [pointPart, exec_bind_of_ok exec_peek, h.peek_ne (v := 46) (by decide) hr]
  rfl

theorem readNumber_unsigned {positive : Bool} {x : Float} (h : At b i cs)
    (hok : (readNumber positive).exec b i = (.ok (.unsigned k, x), j)) :
    positive = true ∧ ∃ p r, cs = p ++ r ∧ IntPart p ∧ k = digitsValue p ∧ k ≤ wordMax ∧ At b j r := by
  rw [readNumber] at hok
  obtain ⟨whole, j₁, h₁, hok₁⟩ := exec_bind_eq_ok hok
  obtain ⟨⟨s, hasPoint⟩, j₂, h₂, hok₂⟩ := exec_bind_eq_ok hok₁
  obtain ⟨y, j₃, h₃, hok₃⟩ := exec_bind_eq_ok hok₂
  clear hok hok₁ hok₂
  rw [exec_peek] at h₃
  cases h₃
  split at hok₃
  · obtain ⟨⟨up, e⟩, j₄, -, hok₄⟩ := exec_bind_eq_ok hok₃
    split at hok₄
    · simp only at hok₄
      split at hok₄ <;> simp at hok₄
    · split at hok₄
      · simp at hok₄
      · obtain ⟨_, _, _, hok₅⟩ := exec_bind_eq_ok hok₄
        obtain ⟨_, _, _, hok₆⟩ := exec_bind_eq_ok hok₅
        simp at hok₆
  · split at hok₃
    · rename_i hexact
      split at hok₃
      · rename_i hpos
        simp only [Bool.and_eq_true, Bool.not_eq_true'] at hexact
        obtain ⟨hp, hfull⟩ := hexact
        subst hp
        obtain ⟨rfl, rfl⟩ := pointPart_of_false h₂
        obtain ⟨p, r, rfl, hp, rfl, hat⟩ := integerPart_sound h h₁
        simp at hok₃
        obtain ⟨⟨rfl, -⟩, rfl⟩ := hok₃
        have hfits := intDigits_fits p
        exact ⟨hpos, p, r, rfl, hp, hfits.2 hfull, (hfits.2 hfull).symm ▸ hfits.1.1 hfull, hat⟩
      · split at hok₃
        · simp at hok₃
        · split at hok₃ <;> simp at hok₃
    · split at hok₃ <;> simp at hok₃

theorem readNumber_natural {p r : List Char} (hp : IntPart p) (hv : digitsValue p ≤ wordMax)
    (hr : AfterValue r) (h : At b i (p ++ r)) :
    ∃ j x, (readNumber true).exec b i = (.ok (.unsigned (digitsValue p), x), j) ∧ At b j r := by
  obtain ⟨j, h₁, hat⟩ := integerPart_complete hp hr.not_digit h
  have hfits := intDigits_fits p
  have hexp : (b[j]? == some 101 || b[j]? == some 69) = false := by
    rw [hat.peek_ne (v := 101) (by decide) (hr.ne (Or.inr (Or.inl rfl))),
      hat.peek_ne (v := 69) (by decide) (hr.ne (Or.inr (Or.inr (Or.inl rfl))))]
    rfl
  refine ⟨j, ?_⟩
  rw [readNumber, exec_bind_of_ok h₁, exec_bind_of_ok (pointPart_of_not_point hat (hr.ne (Or.inl rfl)))]
  dsimp only
  rw [exec_bind_of_ok exec_peek, hexp]
  simp only [Bool.false_eq_true, if_false, hfits.1.2 hv, Bool.not_false, Bool.and_self, if_true]
  rw [hfits.2 (hfits.1.2 hv)]
  exact ⟨_, rfl, hat⟩

end ScriptBridge.Json
