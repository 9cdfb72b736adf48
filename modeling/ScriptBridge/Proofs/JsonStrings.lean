import ScriptBridge.Proofs.JsonScalars

/-!
# Reading strings

A string's bytes up to its closing quote, read as the grammar's characters. Outside escapes the
reader copies bytes one at a time. An ASCII character is one byte, and a wider character is a run
of bytes from `128` on, none of them a quote, a backslash or a control byte, so the run is copied
whole and gives back the character's own encoding (`stringBody_plain`). An escape is read after
its backslash (`escape`): only checked, as for a skipped value, any four hexadecimal digits do;
decoded, a surrogate must come as a high and a low half, each its own escape.

The main statements: `skipString` takes exactly a `StringBody` and its closing quote
(`skipString_sound`, `skipString_complete`), and `readString` exactly a body that `Decodes` to
some characters, returning the text of those characters (`readString_sound`,
`readString_complete`).
-/

namespace ScriptBridge.Json

open Grammar

variable {b : ByteArray} {i j : Nat} {cs rest : List Char} {c : Char} {keep : Bool}
  {acc r : Array UInt8}

@[simp] theorem exec_read : (read : Read ByteArray).exec b i = (.ok b, i) := rfl

@[simp] theorem exec_get : (get : Read Nat).exec b i = (.ok i, i) := rfl

@[simp] theorem exec_set (k : Nat) : (set k : Read Unit).exec b i = (.ok (), k) := rfl

/-! ## Bytes and characters -/

theorem getElem?_eq_head?_drop (b : ByteArray) (i : Nat) : b[i]? = (b.data.toList.drop i).head? := by
  rw [List.head?_drop]
  simp only [getElem?_def]
  rfl

theorem At.tail (h : At b i (c :: cs)) : At b (i + (String.utf8EncodeChar c).length) cs := by
  have := (show At b i ([c] ++ cs) from h).drop
  rwa [utf8_cons, utf8_nil, List.append_nil] at this

theorem fromUTF8?_utf8 (cs : List Char) : String.fromUTF8? ⟨(utf8 cs).toArray⟩ = some (String.ofList cs) := by
  have hb : (⟨(utf8 cs).toArray⟩ : ByteArray) = cs.utf8Encode := by
    apply ByteArray.ext
    rw [List.utf8Encode]
    apply Array.toList_inj.1
    rw [List.toList_data_toByteArray]
    rfl
  rw [hb, String.fromUTF8?, dif_pos ByteArray.isValidUTF8_utf8Encode]
  congr 1

theorem hexValue_ascii : ∀ n, n < 128 → hexValue n.toUInt8 = hexDigit (Char.ofNat n) := by
  decide +kernel

theorem hexValue_high : ∀ n, n < 256 → 128 ≤ n → hexValue n.toUInt8 = none := by
  decide +kernel

theorem hexValue_leadByte (c : Char) : hexValue (leadByte c) = hexDigit c := by
  by_cases hc : c.toNat < 128
  · rw [leadByte_of_lt hc, hexValue_ascii _ hc, Char.ofNat_toNat]
  · have h₁ := le_leadByte (c := c) (by omega)
    have h₂ : hexDigit c = none := by
      have h9 : ('9' : Char).toNat = 57 := rfl
      have hF : ('F' : Char).toNat = 70 := rfl
      have hf : ('f' : Char).toNat = 102 := rfl
      simp only [hexDigit, char_le_iff, h9, hF, hf]
      rw [if_neg (by omega), if_neg (by omega), if_neg (by omega)]
    rw [h₂, ← UInt8.ofNat_toNat (x := leadByte c)]
    exact hexValue_high _ (UInt8.toNat_lt _) h₁

theorem hexDigit_ascii {v : Nat} (h : hexDigit c = some v) : c.toNat < 128 := by
  apply Decidable.byContradiction
  intro hc
  have := hexValue_leadByte c
  rw [h, ← UInt8.ofNat_toNat (x := leadByte c), hexValue_high _ (UInt8.toNat_lt _)
    (le_leadByte (by omega))] at this
  cases this

theorem asciiChar_leadByte (hc : c.toNat < 128) : asciiChar (leadByte c) = c := by
  rw [← Char.toNat_inj, toNat_asciiChar (by rw [toNat_leadByte_of_lt hc]; exact hc),
    toNat_leadByte_of_lt hc]

/-! ## Four hexadecimal digits -/

theorem hex4_sound (h : At b i cs) {n : Nat} (hok : hex4.exec b i = (.ok n, j)) :
    ∃ d rest, cs = d ++ rest ∧ Hex4 d n ∧ At b j rest := by
  rw [hex4, exec_bind_of_ok exec_read, exec_bind_of_ok exec_get] at hok
  split at hok
  · rename_i hle
    rw [exec_bind_of_ok (exec_set _)] at hok
    have step : ∀ {k ds} {v : Nat}, At b k ds → k < b.size → hexValue b[k]! = some v →
        ∃ d ds', ds = d :: ds' ∧ hexDigit d = some v ∧ At b (k + 1) ds' := by
      intro k ds v hat hk hv
      rw [getElem!_pos b k hk] at hv
      cases ds with
      | nil => have := hat.peek_nil; rw [getElem?_pos b k hk] at this; cases this
      | cons d ds' =>
        have hpk := hat.peek_cons
        rw [getElem?_pos b k hk, Option.some.injEq] at hpk
        rw [hpk, hexValue_leadByte] at hv
        exact ⟨d, ds', rfl, hv, hat.next (hexDigit_ascii hv)⟩
    split at hok
    · rename_i a₁ a₂ a₃ a₄ h₁ h₂ h₃ h₄
      cases hok
      obtain ⟨d₁, r₁, rfl, hd₁, at₁⟩ := step h (by omega) h₁
      obtain ⟨d₂, r₂, rfl, hd₂, at₂⟩ := step at₁ (by omega) h₂
      obtain ⟨d₃, r₃, rfl, hd₃, at₃⟩ := step at₂ (by omega) h₃
      obtain ⟨d₄, r₄, rfl, hd₄, at₄⟩ := step at₃ (by omega) h₄
      exact ⟨[d₁, d₂, d₃, d₄], r₄, rfl, Hex4.mk hd₁ hd₂ hd₃ hd₄, at₄⟩
    · simp at hok
  · rw [exec_bind_of_ok (exec_set _)] at hok
    simp at hok

theorem hex4_complete {d : List Char} {n : Nat} (hd : Hex4 d n) (h : At b i (d ++ rest)) :
    hex4.exec b i = (.ok n, i + 4) ∧ At b (i + 4) rest := by
  cases hd with
  | mk h₁ h₂ h₃ h₄ =>
    rename_i d₁ d₂ d₃ d₄ a₁ a₂ a₃ a₄
    have at₁ := h.next (hexDigit_ascii h₁)
    have at₂ := at₁.next (hexDigit_ascii h₂)
    have at₃ := at₂.next (hexDigit_ascii h₃)
    have at₄ := at₃.next (hexDigit_ascii h₄)
    have hsize : i + 4 ≤ b.size := by have := at₄.le_size; omega
    have byte : ∀ {k d ds} {v : Nat}, At b k (d :: ds) → hexDigit d = some v → hexValue b[k]! = some v := by
      intro k d ds v hat hv
      have hk : k < b.size := by
        have := hat.size_sub
        rw [utf8_cons] at this
        have := List.length_pos_iff.2 (String.utf8EncodeChar_ne_nil (c := d))
        simp at *
        omega
      have hpk := hat.peek_cons
      rw [getElem?_pos b k hk, Option.some.injEq] at hpk
      rw [getElem!_pos b k hk, hpk, hexValue_leadByte, hv]
    refine ⟨?_, at₄⟩
    rw [hex4, exec_bind_of_ok exec_read, exec_bind_of_ok exec_get, if_pos hsize,
      exec_bind_of_ok (exec_set _), byte h h₁, byte at₁ h₂, byte at₂ h₃, byte at₃ h₄]
    rfl

/-! ## Escapes -/

theorem shortEscape_ascii {e c : Char} (h : shortEscape e = some c) : e.toNat < 128 ∧ c.toNat < 128 := by
  unfold shortEscape at h
  split at h <;> cases h <;> decide

theorem escape_short {e c : Char} (hec : shortEscape e = some c) (h : At b i (e :: rest)) :
    (escape keep acc).exec b i = (.ok (acc.push c.toNat.toUInt8), i + 1) := by
  rw [escape, exec_bind_of_ok h.next?_exec]
  unfold shortEscape at hec
  split at hec <;> cases hec <;> rfl

theorem escape_sound (h : At b i cs) (hok : (escape keep acc).exec b i = (.ok r, j)) :
    (∃ e c rest, cs = e :: rest ∧ shortEscape e = some c ∧ r = acc.push c.toNat.toUInt8 ∧
        At b j rest) ∨
      (∃ rest, cs = 'u' :: rest ∧ At b (i + 1) rest ∧
        (if keep then unicodeEscape acc else do let _ ← hex4; pure acc).exec b (i + 1) = (.ok r, j)) := by
  rw [escape] at hok
  obtain ⟨x, j₁, hx, hok⟩ := exec_bind_eq_ok hok
  rcases x with _ | v
  · simp at hok
  have short : ∀ e c, shortEscape e = some c → v = leadByte e → r = acc.push c.toNat.toUInt8 →
      j = j₁ → ∃ e c rest, cs = e :: rest ∧ shortEscape e = some c ∧
        r = acc.push c.toNat.toUInt8 ∧ At b j rest := by
    intro e c hec hv hr hj
    have he := (shortEscape_ascii hec).1
    obtain ⟨rest, hcs, rfl, hat⟩ := h.of_next? hx (by rw [hv, toNat_leadByte_of_lt he]; exact he)
    rw [hv, asciiChar_leadByte he] at hcs
    exact ⟨e, c, rest, hcs, hec, hr, hj ▸ hat⟩
  simp only [Bool.or_eq_true, beq_iff_eq] at hok
  by_cases hq : (v = 34 ∨ v = 92) ∨ v = 47
  · rw [if_pos hq] at hok
    cases hok
    rcases hq with (rfl | rfl) | rfl
    · exact .inl (short '"' '"' rfl rfl rfl rfl)
    · exact .inl (short '\\' '\\' rfl rfl rfl rfl)
    · exact .inl (short '/' '/' rfl rfl rfl rfl)
  rw [if_neg hq] at hok
  by_cases hv : v = 98
  · rw [if_pos hv] at hok; cases hok; exact .inl (short 'b' '\x08' rfl hv rfl rfl)
  rw [if_neg hv] at hok
  by_cases hv : v = 102
  · rw [if_pos hv] at hok; cases hok; exact .inl (short 'f' '\x0c' rfl hv rfl rfl)
  rw [if_neg hv] at hok
  by_cases hv : v = 110
  · rw [if_pos hv] at hok; cases hok; exact .inl (short 'n' '\n' rfl hv rfl rfl)
  rw [if_neg hv] at hok
  by_cases hv : v = 114
  · rw [if_pos hv] at hok; cases hok; exact .inl (short 'r' '\r' rfl hv rfl rfl)
  rw [if_neg hv] at hok
  by_cases hv : v = 116
  · rw [if_pos hv] at hok; cases hok; exact .inl (short 't' '\t' rfl hv rfl rfl)
  rw [if_neg hv] at hok
  by_cases hv : v = 117
  · rw [if_pos hv] at hok
    subst hv
    obtain ⟨rest, hcs, rfl, hat⟩ := h.of_next? hx (by decide)
    exact .inr ⟨rest, hcs, hat, hok⟩
  rw [if_neg hv] at hok
  simp at hok

theorem peekInString_sound {v : UInt8} (hok : peekInString.exec b i = (.ok v, j)) :
    b[i]? = some v ∧ j = i := by
  rw [peekInString] at hok
  obtain ⟨x, j₁, hx, hok⟩ := exec_bind_eq_ok hok
  rw [exec_peek] at hx
  cases hx
  split at hok
  · rename_i w hw
    cases hok
    exact ⟨hw, rfl⟩
  · simp at hok

theorem peekInString_cons (h : At b i (c :: cs)) : peekInString.exec b i = (.ok (leadByte c), i) := by
  rw [peekInString, exec_bind_of_ok exec_peek, h.peek_cons]
  rfl

theorem expectEscapeByte_sound {v : UInt8} (hv : v.toNat < 128) (h : At b i cs)
    (hok : (expectEscapeByte v).exec b i = (.ok (), j)) : ∃ rest, cs = asciiChar v :: rest ∧ At b j rest := by
  rw [expectEscapeByte] at hok
  obtain ⟨x, j₁, hx, hif⟩ := exec_bind_eq_ok hok
  obtain ⟨hpeek, rfl⟩ := peekInString_sound hx
  split at hif
  · rename_i hxv
    rw [exec_eat] at hif
    cases hif
    exact h.peek_ascii (hpeek.trans (by rw [beq_iff_eq.1 hxv])) hv
  · obtain ⟨_, _, _, hfail⟩ := exec_bind_eq_ok hif
    simp at hfail

theorem expectEscapeByte_complete {v : UInt8} (hv : v.toNat < 128) (h : At b i (asciiChar v :: rest)) :
    (expectEscapeByte v).exec b i = (.ok (), i + 1) := by
  rw [expectEscapeByte, exec_bind_of_ok (peekInString_cons h), leadByte_asciiChar hv]
  simp

theorem unicodeEscape_sound (h : At b i cs) (hok : (unicodeEscape acc).exec b i = (.ok r, j)) :
    ∃ u c rest, cs = u ++ rest ∧ Escape ('u' :: u) c ∧ r = acc ++ (String.utf8EncodeChar c).toArray ∧
      At b j rest := by
  rw [unicodeEscape] at hok
  obtain ⟨n, j₁, hn, hok⟩ := exec_bind_eq_ok hok
  obtain ⟨d, r₁, rfl, hd, at₁⟩ := hex4_sound h hn
  split at hok
  · simp at hok
  rename_i hlow
  split at hok
  · rename_i hhigh
    obtain ⟨⟨⟩, j₂, h₂, hok⟩ := exec_bind_eq_ok hok
    obtain ⟨r₂, rfl, at₂⟩ := expectEscapeByte_sound (by decide) at₁ h₂
    obtain ⟨⟨⟩, j₃, h₃, hok⟩ := exec_bind_eq_ok hok
    obtain ⟨r₃, rfl, at₃⟩ := expectEscapeByte_sound (by decide) at₂ h₃
    obtain ⟨m, j₄, h₄, hok⟩ := exec_bind_eq_ok hok
    obtain ⟨d', rest, rfl, hd', at₄⟩ := hex4_sound at₃ h₄
    split at hok
    · simp at hok
    · rename_i hm
      rw [exec_pure, Prod.mk.injEq, Except.ok.injEq] at hok
      obtain ⟨rfl, rfl⟩ := hok
      have e₁ : asciiChar 92 = '\\' := by decide
      have e₂ : asciiChar 117 = 'u' := by decide
      refine ⟨d ++ '\\' :: 'u' :: d', _, rest, by simp [e₁, e₂],
        Escape.pair hd hhigh.1 hhigh.2 hd' (by omega) (by omega), rfl, at₄⟩
  · cases hok
    exact ⟨d, _, r₁, rfl, Escape.unicode hd (fun hs => by unfold IsSurrogate at hs; omega), rfl, at₁⟩

theorem unicodeEscape_complete {u : List Char} {c : Char} (he : Escape ('u' :: u) c)
    (h : At b i (u ++ rest)) :
    ∃ j, (unicodeEscape acc).exec b i = (.ok (acc ++ (String.utf8EncodeChar c).toArray), j) ∧ At b j rest := by
  generalize hx : 'u' :: u = x at he
  cases he with
  | short hs => cases hx; cases hs
  | unicode hd hns =>
    rename_i d n
    cases hx
    obtain ⟨h₁, at₁⟩ := hex4_complete hd h
    refine ⟨i + 4, ?_, at₁⟩
    unfold IsSurrogate at hns
    rw [unicodeEscape, exec_bind_of_ok h₁, if_neg (by omega), if_neg (by omega)]
    rfl
  | pair hd hhi₁ hhi₂ hd' hlo₁ hlo₂ =>
    rename_i d d' hi lo
    cases hx
    simp only [List.append_eq, List.append_assoc, List.cons_append] at h
    obtain ⟨h₁, at₁⟩ := hex4_complete hd h
    have h₂ := expectEscapeByte_complete (v := 92) (by decide) at₁
    have at₂ : At b (i + 4 + 1) ('u' :: (d' ++ rest)) := at₁.next (by decide)
    have h₃ := expectEscapeByte_complete (v := 117) (by decide) at₂
    have at₃ : At b (i + 4 + 1 + 1) (d' ++ rest) := at₂.next (by decide)
    obtain ⟨h₄, at₄⟩ := hex4_complete hd' at₃
    refine ⟨_, ?_, at₄⟩
    rw [unicodeEscape, exec_bind_of_ok h₁, if_neg (by omega), if_pos ⟨hhi₁, hhi₂⟩,
      exec_bind_of_ok h₂, exec_bind_of_ok h₃, exec_bind_of_ok h₄, if_neg (by omega)]
    rfl

theorem escape_check_sound (h : At b i cs) (hok : (escape false acc).exec b i = (.ok r, j)) :
    ∃ e rest, cs = e ++ rest ∧ EscapeText e ∧ At b j rest := by
  rcases escape_sound h hok with ⟨e, c, rest, rfl, hec, -, hat⟩ | ⟨rest, rfl, hat, hu⟩
  · exact ⟨[e], rest, rfl, EscapeText.short (by rw [hec]; rfl), hat⟩
  · obtain ⟨n, j₁, hn, hok⟩ := exec_bind_eq_ok hu
    cases hok
    obtain ⟨d, rest', rfl, hd, hat'⟩ := hex4_sound hat hn
    exact ⟨'u' :: d, rest', rfl, EscapeText.unicode hd, hat'⟩

theorem escape_check_complete (acc : Array UInt8) {e : List Char} (he : EscapeText e) (h : At b i (e ++ rest)) :
    ∃ r j, (escape false acc).exec b i = (.ok r, j) ∧ At b j rest := by
  cases he with
  | short hs =>
    rename_i e
    obtain ⟨c, hc⟩ := Option.isSome_iff_exists.1 hs
    exact ⟨_, _, escape_short hc h, h.next (shortEscape_ascii hc).1⟩
  | unicode hd =>
    have at₁ : At b (i + 1) _ := h.next (by decide)
    obtain ⟨h₁, at₂⟩ := hex4_complete hd at₁
    refine ⟨acc, i + 1 + 4, ?_, at₂⟩
    rw [escape, exec_bind_of_ok h.next?_exec]
    exact exec_bind_of_ok h₁

theorem escape_decode_sound (h : At b i cs) (hok : (escape true acc).exec b i = (.ok r, j)) :
    ∃ e c rest, cs = e ++ rest ∧ Escape e c ∧ r = acc ++ (String.utf8EncodeChar c).toArray ∧
      At b j rest := by
  rcases escape_sound h hok with ⟨e, c, rest, rfl, hec, rfl, hat⟩ | ⟨rest, rfl, hat, hu⟩
  · refine ⟨[e], c, rest, rfl, Escape.short hec, ?_, hat⟩
    rw [utf8EncodeChar_of_lt (shortEscape_ascii hec).2]
    simp
  · obtain ⟨u, c, rest', rfl, hesc, hr, hat'⟩ := unicodeEscape_sound hat hu
    exact ⟨'u' :: u, c, rest', rfl, hesc, hr, hat'⟩

theorem escape_decode_complete (acc : Array UInt8) {e : List Char} (he : Escape e c) (h : At b i (e ++ rest)) :
    ∃ j, (escape true acc).exec b i = (.ok (acc ++ (String.utf8EncodeChar c).toArray), j) ∧
      At b j rest := by
  cases e with
  | nil => cases he
  | cons x u =>
    by_cases hx : x = 'u'
    · subst hx
      have at₁ : At b (i + 1) (u ++ rest) := h.next (by decide)
      obtain ⟨j, hj, hat⟩ := unicodeEscape_complete he at₁
      refine ⟨j, ?_, hat⟩
      rw [escape, exec_bind_of_ok h.next?_exec]
      exact hj
    · cases he with
      | short hs =>
        refine ⟨i + 1, ?_, h.next (shortEscape_ascii hs).1⟩
        rw [escape_short hs h, utf8EncodeChar_of_lt (shortEscape_ascii hs).2]
        simp
      | unicode => exact absurd rfl hx
      | pair => exact absurd rfl hx

/-! ## The body of a string -/

theorem char_cases (c : Char) : c = '"' ∨ c = '\\' ∨ c.toNat < 0x20 ∨ Unescaped c := by
  by_cases h₁ : c = '"'
  · exact .inl h₁
  by_cases h₂ : c = '\\'
  · exact .inr (.inl h₂)
  by_cases h₃ : c.toNat < 0x20
  · exact .inr (.inr (.inl h₃))
  exact .inr (.inr (.inr ⟨by omega, h₁, h₂⟩))

theorem stringBody_quote (h : At b i ('"' :: cs)) (n : Nat) (acc : Array UInt8) :
    (stringBody keep (n + 1) acc).exec b i = (.ok acc, i + 1) := by
  rw [stringBody, exec_bind_of_ok exec_peek, h.peek_cons]
  rfl

theorem stringBody_backslash (h : At b i ('\\' :: cs)) (n : Nat) (acc : Array UInt8) :
    (stringBody keep (n + 1) acc).exec b i = (escape keep acc >>= stringBody keep n).exec b (i + 1) := by
  rw [stringBody, exec_bind_of_ok exec_peek, h.peek_cons]
  rfl

theorem stringBody_control (hc : c.toNat < 0x20) (h : At b i (c :: cs)) (n : Nat) (acc : Array UInt8) :
    ∃ e k, (stringBody keep (n + 1) acc).exec b i = (.error e, k) := by
  have hv : (leadByte c).toNat = c.toNat := toNat_leadByte_of_lt (by omega)
  have h₁ : (leadByte c == 34) = false := by
    rw [beq_eq_false_iff_ne]; intro he; rw [he] at hv; simp at hv; omega
  have h₂ : (leadByte c == 92) = false := by
    rw [beq_eq_false_iff_ne]; intro he; rw [he] at hv; simp at hv; omega
  have h₃ : leadByte c < 0x20 := by rw [UInt8.lt_iff_toNat_lt, hv]; simpa using hc
  rw [stringBody, exec_bind_of_ok exec_peek, h.peek_cons]
  simp only [h₁, h₂, h₃, Bool.false_eq_true, if_false, if_true]
  cases keep <;> exact ⟨_, _, rfl⟩

theorem stringBody_high {bs : List UInt8} {tail : List UInt8} (hbs : ∀ x ∈ bs, 128 ≤ x.toNat)
    (hd : b.data.toList.drop i = bs ++ tail) (n : Nat) (acc : Array UInt8) :
    (stringBody keep (n + bs.length) acc).exec b i =
      (stringBody keep n (acc ++ bs.toArray)).exec b (i + bs.length) := by
  induction bs generalizing i acc with
  | nil => simp
  | cons x bs ih =>
    have hx := hbs x List.mem_cons_self
    have hpeek : b[i]? = some x := by rw [getElem?_eq_head?_drop, hd]; rfl
    have hd' : b.data.toList.drop (i + 1) = bs ++ tail := by
      rw [← List.drop_drop, hd]
      rfl
    have h₁ : (x == 34) = false := by
      rw [beq_eq_false_iff_ne]; intro he; rw [he] at hx; simp at hx
    have h₂ : (x == 92) = false := by
      rw [beq_eq_false_iff_ne]; intro he; rw [he] at hx; simp at hx
    have h₃ : ¬x < 0x20 := by rw [UInt8.lt_iff_toNat_lt]; simp; omega
    rw [List.length_cons, ← Nat.add_assoc, stringBody, exec_bind_of_ok exec_peek, hpeek]
    simp only [h₁, h₂, h₃, Bool.false_eq_true, if_false]
    rw [exec_bind_of_ok exec_eat, ih (fun y hy => hbs y (List.mem_cons_of_mem _ hy)) hd']
    simp [Nat.add_assoc, Nat.add_comm 1]

theorem stringBody_plain (hc : Unescaped c) (h : At b i (c :: cs)) (n : Nat) (acc : Array UInt8) :
    (stringBody keep (n + (String.utf8EncodeChar c).length) acc).exec b i =
      (stringBody keep n (acc ++ (String.utf8EncodeChar c).toArray)).exec b
        (i + (String.utf8EncodeChar c).length) := by
  by_cases hlt : c.toNat < 128
  · obtain ⟨hctl, hq, hb⟩ := hc
    have hv : (leadByte c).toNat = c.toNat := toNat_leadByte_of_lt hlt
    have h₁ : (leadByte c == 34) = false := by
      rw [beq_eq_false_iff_ne, ne_eq, leadByte_eq_iff (by decide)]
      exact fun he => hq (Char.toNat_inj.1 he)
    have h₂ : (leadByte c == 92) = false := by
      rw [beq_eq_false_iff_ne, ne_eq, leadByte_eq_iff (by decide)]
      exact fun he => hb (Char.toNat_inj.1 he)
    have h₃ : ¬leadByte c < 0x20 := by rw [UInt8.lt_iff_toNat_lt, hv]; simp; omega
    rw [utf8EncodeChar_of_lt hlt, List.length_singleton, stringBody, exec_bind_of_ok exec_peek,
      h.peek_cons]
    simp only [h₁, h₂, h₃, Bool.false_eq_true, if_false]
    rw [exec_bind_of_ok exec_eat, leadByte_of_lt hlt]
    simp
  · have hd : b.data.toList.drop i = String.utf8EncodeChar c ++ utf8 cs := by
      rw [h.drop_eq, utf8_cons]
    exact stringBody_high (le_of_mem_utf8EncodeChar (by omega)) hd n acc

theorem length_utf8EncodeChar_pos (c : Char) : 0 < (String.utf8EncodeChar c).length :=
  List.length_pos_iff.2 String.utf8EncodeChar_ne_nil

theorem length_utf8_cons (c : Char) (cs : List Char) :
    (utf8 (c :: cs)).length = (String.utf8EncodeChar c).length + (utf8 cs).length := by
  rw [utf8_cons, List.length_append]

theorem stringBody_check_sound : ∀ (n : Nat) {i : Nat} {cs : List Char} {acc r : Array UInt8} {j : Nat},
    At b i cs → (utf8 cs).length < n → (stringBody false n acc).exec b i = (.ok r, j) →
    ∃ body rest, cs = body ++ '"' :: rest ∧ StringBody body ∧ At b j rest := by
  intro n
  induction n using Nat.strongRecOn with
  | ind n ih =>
  intro i cs acc r j h hn hok
  cases cs with
  | nil =>
    obtain ⟨m, rfl⟩ : ∃ m, n = m + 1 := ⟨n - 1, by simp at hn; omega⟩
    rw [stringBody, exec_bind_of_ok exec_peek, h.peek_nil] at hok
    simp at hok
  | cons c cs =>
    have hlen := length_utf8_cons c cs
    rcases char_cases c with rfl | rfl | hc | hc
    · obtain ⟨m, rfl⟩ : ∃ m, n = m + 1 := ⟨n - 1, by omega⟩
      rw [stringBody_quote h] at hok
      cases hok
      exact ⟨[], cs, rfl, .nil, h.next (by decide)⟩
    · obtain ⟨m, rfl⟩ : ∃ m, n = m + 1 := ⟨n - 1, by omega⟩
      rw [stringBody_backslash h] at hok
      obtain ⟨r', j', he, hrest⟩ := exec_bind_eq_ok hok
      obtain ⟨e, cs', rfl, hesc, hat⟩ := escape_check_sound (h.next (by decide)) he
      have hfuel : (utf8 cs').length < m := by
        rw [utf8_append, List.length_append] at hlen
        have : (String.utf8EncodeChar '\\').length = 1 := rfl
        omega
      obtain ⟨body, rest, rfl, hbody, hat'⟩ := ih m (by omega) hat hfuel hrest
      exact ⟨'\\' :: e ++ body, rest, by simp, .escape hesc hbody, hat'⟩
    · obtain ⟨m, rfl⟩ : ∃ m, n = m + 1 := ⟨n - 1, by omega⟩
      obtain ⟨e, k, he⟩ := stringBody_control hc h m acc
      rw [he] at hok
      cases hok
    · have hpos := length_utf8EncodeChar_pos c
      obtain ⟨m, rfl⟩ : ∃ m, n = m + (String.utf8EncodeChar c).length :=
        ⟨n - (String.utf8EncodeChar c).length, by omega⟩
      rw [stringBody_plain hc h] at hok
      obtain ⟨body, rest, rfl, hbody, hat⟩ := ih m (by omega) h.tail (by omega) hok
      exact ⟨c :: body, rest, rfl, .plain hc hbody, hat⟩

theorem stringBody_check_complete {body : List Char} (hb : StringBody body) :
    ∀ (acc : Array UInt8) {n i : Nat}, At b i (body ++ '"' :: rest) →
      (utf8 (body ++ '"' :: rest)).length < n →
      ∃ r j, (stringBody false n acc).exec b i = (.ok r, j) ∧ At b j rest := by
  induction hb with
  | nil =>
    intro acc n i h hn
    obtain ⟨m, rfl⟩ : ∃ m, n = m + 1 := ⟨n - 1, by simp [length_utf8_cons] at hn; omega⟩
    exact ⟨acc, i + 1, stringBody_quote h m acc, h.next (by decide)⟩
  | @plain c t hc _ ih =>
    intro acc n i h hn
    have hlen := length_utf8_cons c (t ++ '"' :: rest)
    obtain ⟨m, rfl⟩ : ∃ m, n = m + (String.utf8EncodeChar c).length :=
      ⟨n - (String.utf8EncodeChar c).length, by rw [List.cons_append] at hn; omega⟩
    rw [stringBody_plain hc h]
    exact ih _ h.tail (by rw [List.cons_append] at hn; omega)
  | @escape e t he _ ih =>
    intro acc n i h hn
    simp only [List.cons_append, List.append_assoc] at h hn
    have hlen := length_utf8_cons '\\' (e ++ (t ++ '"' :: rest))
    obtain ⟨m, rfl⟩ : ∃ m, n = m + 1 := ⟨n - 1, by omega⟩
    obtain ⟨r', j', hesc, hat⟩ := escape_check_complete acc he (h.next (by decide))
    rw [stringBody_backslash h, exec_bind_of_ok hesc]
    refine ih _ hat ?_
    rw [utf8_append, List.length_append] at hlen
    have : (String.utf8EncodeChar '\\').length = 1 := rfl
    omega

theorem stringBody_decode_sound : ∀ (n : Nat) {i : Nat} {cs : List Char} {acc r : Array UInt8} {j : Nat},
    At b i cs → (utf8 cs).length < n → (stringBody true n acc).exec b i = (.ok r, j) →
    ∃ body chars rest, cs = body ++ '"' :: rest ∧ Decodes body chars ∧
      r = acc ++ (utf8 chars).toArray ∧ At b j rest := by
  intro n
  induction n using Nat.strongRecOn with
  | ind n ih =>
  intro i cs acc r j h hn hok
  cases cs with
  | nil =>
    obtain ⟨m, rfl⟩ : ∃ m, n = m + 1 := ⟨n - 1, by simp at hn; omega⟩
    rw [stringBody, exec_bind_of_ok exec_peek, h.peek_nil] at hok
    simp at hok
  | cons c cs =>
    have hlen := length_utf8_cons c cs
    rcases char_cases c with rfl | rfl | hc | hc
    · obtain ⟨m, rfl⟩ : ∃ m, n = m + 1 := ⟨n - 1, by omega⟩
      rw [stringBody_quote h] at hok
      cases hok
      exact ⟨[], [], cs, rfl, .nil, by simp, h.next (by decide)⟩
    · obtain ⟨m, rfl⟩ : ∃ m, n = m + 1 := ⟨n - 1, by omega⟩
      rw [stringBody_backslash h] at hok
      obtain ⟨r', j', he, hrest⟩ := exec_bind_eq_ok hok
      obtain ⟨e, d, cs', rfl, hesc, rfl, hat⟩ := escape_decode_sound (h.next (by decide)) he
      have hfuel : (utf8 cs').length < m := by
        rw [utf8_append, List.length_append] at hlen
        have : (String.utf8EncodeChar '\\').length = 1 := rfl
        omega
      obtain ⟨body, chars, rest, rfl, hbody, rfl, hat'⟩ := ih m (by omega) hat hfuel hrest
      exact ⟨'\\' :: e ++ body, d :: chars, rest, by simp, .escape hesc hbody,
        by simp [utf8_cons], hat'⟩
    · obtain ⟨m, rfl⟩ : ∃ m, n = m + 1 := ⟨n - 1, by omega⟩
      obtain ⟨e, k, he⟩ := stringBody_control hc h m acc
      rw [he] at hok
      cases hok
    · have hpos := length_utf8EncodeChar_pos c
      obtain ⟨m, rfl⟩ : ∃ m, n = m + (String.utf8EncodeChar c).length :=
        ⟨n - (String.utf8EncodeChar c).length, by omega⟩
      rw [stringBody_plain hc h] at hok
      obtain ⟨body, chars, rest, rfl, hbody, rfl, hat⟩ := ih m (by omega) h.tail (by omega) hok
      exact ⟨c :: body, c :: chars, rest, rfl, .plain hc hbody, by simp [utf8_cons], hat⟩

theorem stringBody_decode_complete {body chars : List Char} (hb : Decodes body chars) :
    ∀ (acc : Array UInt8) {n i : Nat}, At b i (body ++ '"' :: rest) →
      (utf8 (body ++ '"' :: rest)).length < n →
      ∃ j, (stringBody true n acc).exec b i = (.ok (acc ++ (utf8 chars).toArray), j) ∧ At b j rest := by
  induction hb with
  | nil =>
    intro acc n i h hn
    obtain ⟨m, rfl⟩ : ∃ m, n = m + 1 := ⟨n - 1, by simp [length_utf8_cons] at hn; omega⟩
    exact ⟨i + 1, by rw [stringBody_quote h m acc]; simp, h.next (by decide)⟩
  | @plain c t s hc _ ih =>
    intro acc n i h hn
    have hlen := length_utf8_cons c (t ++ '"' :: rest)
    obtain ⟨m, rfl⟩ : ∃ m, n = m + (String.utf8EncodeChar c).length :=
      ⟨n - (String.utf8EncodeChar c).length, by rw [List.cons_append] at hn; omega⟩
    rw [stringBody_plain hc h]
    have hfuel : (utf8 (t ++ '"' :: rest)).length < m := by rw [List.cons_append] at hn; omega
    obtain ⟨j, hj, hat⟩ := ih _ h.tail hfuel
    exact ⟨j, by rw [hj]; simp [utf8_cons], hat⟩
  | @escape e t s d he _ ih =>
    intro acc n i h hn
    simp only [List.cons_append, List.append_assoc] at h hn
    have hlen := length_utf8_cons '\\' (e ++ (t ++ '"' :: rest))
    obtain ⟨m, rfl⟩ : ∃ m, n = m + 1 := ⟨n - 1, by omega⟩
    obtain ⟨j', hesc, hat⟩ := escape_decode_complete acc he (h.next (by decide))
    rw [stringBody_backslash h, exec_bind_of_ok hesc]
    have hfuel : (utf8 (t ++ '"' :: rest)).length < m := by
      rw [utf8_append, List.length_append] at hlen
      have : (String.utf8EncodeChar '\\').length = 1 := rfl
      omega
    obtain ⟨j, hj, hat'⟩ := ih _ hat hfuel
    exact ⟨j, by rw [hj]; simp [utf8_cons], hat'⟩

/-! ## Whole strings -/

theorem skipString_sound (h : At b i cs) (hok : skipString.exec b i = (.ok (), j)) :
    ∃ body rest, cs = body ++ '"' :: rest ∧ StringBody body ∧ At b j rest := by
  rw [skipString, exec_bind_of_ok exec_budget] at hok
  obtain ⟨r, k, hbody, hk⟩ := exec_bind_eq_ok hok
  cases hk
  exact stringBody_check_sound (b.size + 1 - i) h (by rw [h.budget]; omega) hbody

theorem skipString_complete {body : List Char} (hb : StringBody body) (h : At b i (body ++ '"' :: rest)) :
    ∃ j, skipString.exec b i = (.ok (), j) ∧ At b j rest := by
  obtain ⟨r, j, hj, hat⟩ := stringBody_check_complete hb #[] (n := b.size + 1 - i) h (by rw [h.budget]; omega)
  refine ⟨j, ?_, hat⟩
  rw [skipString, exec_bind_of_ok exec_budget, exec_bind_of_ok hj]
  rfl

theorem readString_sound {s : String} (h : At b i cs) (hok : readString.exec b i = (.ok s, j)) :
    ∃ body chars rest, cs = body ++ '"' :: rest ∧ Decodes body chars ∧ s = String.ofList chars ∧
      At b j rest := by
  rw [readString, exec_bind_of_ok exec_budget] at hok
  obtain ⟨r, k, hbody, hk⟩ := exec_bind_eq_ok hok
  cases hk
  obtain ⟨body, chars, rest, rfl, hd, rfl, hat⟩ :=
    stringBody_decode_sound (b.size + 1 - i) h (by rw [h.budget]; omega) hbody
  refine ⟨body, chars, rest, rfl, hd, ?_, hat⟩
  rw [Array.empty_append, fromUTF8?_utf8]
  rfl

theorem readString_complete {body chars : List Char} (hb : Decodes body chars)
    (h : At b i (body ++ '"' :: rest)) :
    ∃ j, readString.exec b i = (.ok (String.ofList chars), j) ∧ At b j rest := by
  obtain ⟨j, hj, hat⟩ := stringBody_decode_complete hb #[] (n := b.size + 1 - i) h (by rw [h.budget]; omega)
  refine ⟨j, ?_, hat⟩
  rw [readString, exec_bind_of_ok exec_budget, exec_bind_of_ok hj, Array.empty_append,
    fromUTF8?_utf8]
  rfl

theorem Grammar.Decodes.stringBody {body chars : List Char} (h : Decodes body chars) : StringBody body := by
  induction h with
  | nil => exact .nil
  | plain hc _ ih => exact .plain hc ih
  | escape he _ ih =>
    cases he with
    | short hs => exact .escape (.short (by simp [hs])) ih
    | unicode hh _ => exact .escape (.unicode hh) ih
    | pair hh _ _ hh' _ _ => simpa using StringBody.escape (.unicode hh) (.escape (.unicode hh') ih)

theorem Grammar.StringLit.value {k : List Char} {s : String} (h : StringLit k s) : Value k := by
  cases h with
  | mk hd => exact .string (.mk hd.stringBody)

end ScriptBridge.Json
