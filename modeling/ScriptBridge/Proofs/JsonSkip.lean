import ScriptBridge.Proofs.JsonStrings

/-!
# Skipping a value

`skip` passes over one value of any depth without building it. It keeps the containers it is in
as a stack (innermost first, `true` for an array) and runs one loop: at a value's place it takes a
scalar, or an opening bracket and pushes a container; after a value it takes a comma, or closing
brackets while they come (`closeLoop`); in an object, a member name comes before each value.

The grammar writes containers nested. Here they are read item by item: an `Item` is what stands
between two commas, `ItemsRest` what follows an item up to the closing bracket, and `Closes`
what the stack still demands of the text after a value. A container is a `Value` exactly when its
inside is whitespace or an item and the rest (`value_container`, `Value.classify`).

The main statements: what `skip` takes is whitespace and a `Value` (`skip_sound`), and it takes
any value with what may follow one after it (`skip_complete`).
-/

namespace ScriptBridge.Json.Grammar

/-! ## Containers read item by item -/

def opener (frame : Bool) : Char := if frame then '[' else '{'

def closer (frame : Bool) : Char := if frame then ']' else '}'

/-- One item of a container with the whitespace before it: in an array a value, in an object a
name, a colon and a value. -/
inductive Item : Bool → List Char → Prop
  | element {w x : List Char} : Ws w → Value x → Item true (w ++ x)
  | member {w₁ k w₂ w₃ x : List Char} : Ws w₁ → StringText k → Ws w₂ → Ws w₃ → Value x →
      Item false (w₁ ++ k ++ w₂ ++ ':' :: (w₃ ++ x))

/-- What follows an item of a container up to its closing bracket: more items, each after a
comma, then whitespace. -/
inductive ItemsRest (frame : Bool) : List Char → Prop
  | close {w : List Char} : Ws w → ItemsRest frame w
  | more {w x t : List Char} : Ws w → Item frame x → ItemsRest frame t →
      ItemsRest frame (w ++ ',' :: (x ++ t))

def Closes : Open → List Char → List Char → Prop
  | [], t, r => t = r
  | frame :: outer, t, r => ∃ m t', t = m ++ closer frame :: t' ∧ ItemsRest frame m ∧ Closes outer t' r

def ValueThen (s : Open) (cs r : List Char) : Prop :=
  ∃ w v t, cs = w ++ v ++ t ∧ Ws w ∧ Value v ∧ Closes s t r

theorem Ws.append {w w' : List Char} (h : Ws w) (h' : Ws w') : Ws (w ++ w') := by
  intro c hc
  rcases List.mem_append.1 hc with hc | hc
  · exact h c hc
  · exact h' c hc

theorem Ws.nil : Ws [] := fun _ h => nomatch h

theorem Item.append_ws {f : Bool} {w x : List Char} (hw : Ws w) (hx : Item f x) : Item f (w ++ x) := by
  cases hx with
  | element hw' hv => simpa using Item.element (hw.append hw') hv
  | member hw₁ hk hw₂ hw₃ hv => simpa using Item.member (hw.append hw₁) hk hw₂ hw₃ hv

theorem Closes.close {f : Bool} {o : Open} {w t r : List Char} (hw : Ws w) (h : Closes o t r) :
    Closes (f :: o) (w ++ closer f :: t) r :=
  ⟨w, t, rfl, .close hw, h⟩

theorem Closes.comma {f : Bool} {o : Open} {w x t r : List Char} (hw : Ws w) (hx : Item f x)
    (h : Closes (f :: o) t r) : Closes (f :: o) (w ++ ',' :: (x ++ t)) r := by
  obtain ⟨m, t', rfl, hm, ho⟩ := h
  exact ⟨w ++ ',' :: (x ++ m), t', by simp, .more hw hx hm, ho⟩

theorem Value.ne_nil {v : List Char} (h : Value v) : v ≠ [] := by
  cases h with
  | number hn =>
    cases hn with
    | mk _ hi _ _ => cases hi <;> simp
  | string hs => cases hs; simp
  | _ => simp

theorem elements_of_rest {w v m : List Char} (hw : Ws w) (hv : Value v) (hm : ItemsRest true m) :
    Elements (w ++ v ++ m) := by
  induction hm generalizing w v with
  | close hw' => exact Elements.one hw hv hw'
  | more hw' hx _ ih =>
    cases hx with
    | element hw'' hv' => simpa using Elements.cons hw hv hw' (ih hw'' hv')

theorem fields_of_rest {w₁ k w₂ w₃ v m : List Char} (hw₁ : Ws w₁) (hk : StringText k) (hw₂ : Ws w₂)
    (hw₃ : Ws w₃) (hv : Value v) (hm : ItemsRest false m) :
    Fields (w₁ ++ k ++ w₂ ++ ':' :: (w₃ ++ v) ++ m) := by
  induction hm generalizing w₁ k w₂ w₃ v with
  | close hw' => simpa using Fields.one hw₁ hk hw₂ hw₃ hv hw'
  | more hw' hx _ ih =>
    cases hx with
    | member hw₁' hk' hw₂' hw₃' hv' =>
      simpa using Fields.cons hw₁ hk hw₂ hw₃ hv hw' (ih hw₁' hk' hw₂' hw₃' hv')

theorem value_container {f : Bool} {x m : List Char} (hx : Item f x) (hm : ItemsRest f m) :
    Value (opener f :: (x ++ m ++ [closer f])) := by
  cases hx with
  | element hw hv => exact Value.array (elements_of_rest hw hv hm)
  | member hw₁ hk hw₂ hw₃ hv => exact Value.object (fields_of_rest hw₁ hk hw₂ hw₃ hv hm)

theorem value_empty (f : Bool) {w : List Char} (hw : Ws w) : Value (opener f :: (w ++ [closer f])) := by
  cases f
  · exact Value.emptyObject hw
  · exact Value.emptyArray hw

theorem elements_split : {e : List Char} → Elements e → ∃ x m, e = x ++ m ∧ Item true x ∧ ItemsRest true m
  | _, .one hw hv hw' => ⟨_, _, rfl, .element hw hv, .close hw'⟩
  | _, .cons hw hv hw' ht =>
    have ⟨x, m, he, hx, hm⟩ := elements_split ht
    ⟨_, _, by rw [he]; simp, .element hw hv, .more hw' hx hm⟩

theorem fields_split : {e : List Char} → Fields e → ∃ x m, e = x ++ m ∧ Item false x ∧ ItemsRest false m
  | _, .one hw₁ hk hw₂ hw₃ hv hw₄ => ⟨_, _, by simp, .member hw₁ hk hw₂ hw₃ hv, .close hw₄⟩
  | _, .cons hw₁ hk hw₂ hw₃ hv hw₄ ht =>
    have ⟨x, m, he, hx, hm⟩ := fields_split ht
    ⟨_, _, by rw [he]; simp, .member hw₁ hk hw₂ hw₃ hv, .more hw₄ hx hm⟩

/-! ## First characters -/

theorem char_ne_of_toNat {c d : Char} (h : c.toNat ≠ d.toNat) : c ≠ d := fun he => h (he ▸ rfl)

theorem Digit.toNat_mem {d : Char} (hd : Digit d) : 48 ≤ d.toNat ∧ d.toNat ≤ 57 := by
  have h₁ := char_le_iff.1 hd.1
  have h₂ := char_le_iff.1 hd.2
  exact ⟨h₁, h₂⟩

theorem Digit.ne {d c : Char} (hd : Digit d) (hc : c.toNat < 48 ∨ 57 < c.toNat) : d ≠ c := by
  have := hd.toNat_mem
  exact char_ne_of_toNat (by omega)

theorem Digit.not_blank {d : Char} (hd : Digit d) : ¬Blank d := by
  rintro (h | h | h | h) <;> exact hd.ne (by subst h; decide) h

theorem IntPart.head {p : List Char} (hp : IntPart p) : ∃ d p', p = d :: p' ∧ Digit d := by
  cases hp with
  | zero => exact ⟨'0', [], rfl, by decide⟩
  | lead h₁ h₂ _ => exact ⟨_, _, rfl, ⟨Char.le_trans (by decide) h₁, h₂⟩⟩

theorem Number.head {t : List Char} (hn : Number t) : ∃ ch x, t = ch :: x ∧ (ch = '-' ∨ Digit ch) := by
  cases hn with
  | mk hs hi _ _ =>
    obtain ⟨d, p', rfl, hd⟩ := hi.head
    rcases hs with rfl | rfl
    · exact ⟨d, _, rfl, .inr hd⟩
    · exact ⟨'-', _, rfl, .inl rfl⟩

theorem Value.head {v : List Char} (hv : Value v) :
    ∃ ch x, v = ch :: x ∧ ¬Blank ch ∧ ch ≠ ']' ∧ ch ≠ '}' := by
  cases hv with
  | number hn =>
    obtain ⟨ch, x, rfl, hch⟩ := hn.head
    rcases hch with rfl | hd
    · exact ⟨'-', x, rfl, by decide, by decide, by decide⟩
    · exact ⟨ch, x, rfl, hd.not_blank, hd.ne (by decide), hd.ne (by decide)⟩
  | string hs =>
    cases hs
    exact ⟨'"', _, rfl, by decide, by decide, by decide⟩
  | null => exact ⟨'n', _, rfl, by decide, by decide, by decide⟩
  | «true» => exact ⟨'t', _, rfl, by decide, by decide, by decide⟩
  | «false» => exact ⟨'f', _, rfl, by decide, by decide, by decide⟩
  | emptyArray => exact ⟨'[', _, rfl, by decide, by decide, by decide⟩
  | array => exact ⟨'[', _, rfl, by decide, by decide, by decide⟩
  | emptyObject => exact ⟨'{', _, rfl, by decide, by decide, by decide⟩
  | object => exact ⟨'{', _, rfl, by decide, by decide, by decide⟩

theorem Value.classify {v : List Char} (hv : Value v) :
    (∃ f w, v = opener f :: (w ++ [closer f]) ∧ Ws w) ∨
      (∃ f x m, v = opener f :: (x ++ m ++ [closer f]) ∧ Item f x ∧ ItemsRest f m) ∨
      (∀ ch ∈ v.head?, ch ≠ '[' ∧ ch ≠ '{') := by
  cases hv with
  | emptyArray hw => exact .inl ⟨Bool.true, _, rfl, hw⟩
  | emptyObject hw => exact .inl ⟨Bool.false, _, rfl, hw⟩
  | array he =>
    obtain ⟨x, m, rfl, hx, hm⟩ := elements_split he
    exact .inr (.inl ⟨Bool.true, x, m, rfl, hx, hm⟩)
  | object he =>
    obtain ⟨x, m, rfl, hx, hm⟩ := fields_split he
    exact .inr (.inl ⟨Bool.false, x, m, rfl, hx, hm⟩)
  | number hn =>
    obtain ⟨ch, x, rfl, hch⟩ := hn.head
    refine .inr (.inr fun c hc => ?_)
    cases hc
    rcases hch with rfl | hd
    · exact ⟨by decide, by decide⟩
    · exact ⟨hd.ne (by decide), hd.ne (by decide)⟩
  | string hs => cases hs; exact .inr (.inr fun c hc => by cases hc; exact ⟨by decide, by decide⟩)
  | null => exact .inr (.inr fun c hc => by cases hc; exact ⟨by decide, by decide⟩)
  | «true» => exact .inr (.inr fun c hc => by cases hc; exact ⟨by decide, by decide⟩)
  | «false» => exact .inr (.inr fun c hc => by cases hc; exact ⟨by decide, by decide⟩)

theorem Item.strip {f : Bool} {x : List Char} (hx : Item f x) :
    ∃ w ch x', x = w ++ ch :: x' ∧ Ws w ∧ ¬Blank ch ∧ ch ≠ closer f ∧ Item f (ch :: x') := by
  cases hx with
  | element hw hv =>
    obtain ⟨ch, x', rfl, hb, hc, -⟩ := hv.head
    exact ⟨_, ch, x', rfl, hw, hb, hc, by simpa using Item.element Ws.nil hv⟩
  | @member w₁ _ w₂ w₃ x hw₁ hk hw₂ hw₃ hv =>
    cases hk with
    | @mk body hbody =>
      refine ⟨w₁, '"', body ++ '"' :: (w₂ ++ ':' :: (w₃ ++ x)), by simp, hw₁, by decide, by decide, ?_⟩
      simpa using Item.member Ws.nil (StringText.mk hbody) hw₂ hw₃ hv

end ScriptBridge.Json.Grammar

namespace ScriptBridge.Json

open Grammar

variable {b : ByteArray} {i j j₁ : Nat} {cs r : List Char}

/-! ## Tokens between values -/

theorem length_utf8_lt_append {x : List Char} (hx : x ≠ []) (y : List Char) :
    (utf8 y).length < (utf8 (x ++ y)).length := by
  obtain ⟨c, x, rfl⟩ := List.exists_cons_of_ne_nil hx
  have := length_utf8EncodeChar_pos c
  simp only [List.cons_append, length_utf8_cons, utf8_append, List.length_append]
  omega

theorem length_utf8_lt_cons (w : List Char) (c : Char) (y : List Char) :
    (utf8 y).length < (utf8 (w ++ c :: y)).length := by
  simpa using length_utf8_lt_append (x := w ++ [c]) (by simp) y

theorem fuel_after {x u r : List Char} {n : Nat} (hx : x ≠ []) (hn : (utf8 (x ++ (u ++ r))).length < n + 1) :
    (utf8 r).length < n := by
  have := length_utf8_lt_append hx (u ++ r)
  simp only [utf8_append, List.length_append] at this hn ⊢
  omega

theorem skipWs_sound {c? : Option UInt8} (h : At b i cs) (hws : skipWs.exec b i = (.ok c?, j)) :
    ∃ w rest, cs = w ++ rest ∧ Ws w ∧ At b j rest ∧ b[j]? = c? := by
  obtain ⟨j', hj', hat⟩ := skipWs_exec h
  rw [hws, Prod.mk.injEq, Except.ok.injEq] at hj'
  obtain ⟨hhead, rfl⟩ := hj'
  obtain ⟨w, hcs, hw⟩ := trim_spec cs
  exact ⟨w, trim cs, hcs, hw, hat, by rw [hat.getElem?_eq, hhead]⟩

theorem skipWs_byte {v : UInt8} (hv : v.toNat < 128) (h : At b i cs)
    (hws : skipWs.exec b i = (.ok (some v), j)) :
    ∃ w rest, cs = w ++ asciiChar v :: rest ∧ Ws w ∧ At b (j + 1) rest := by
  obtain ⟨w, cs', rfl, hw, hat, hpeek⟩ := skipWs_sound h hws
  obtain ⟨rest, rfl, hat'⟩ := hat.peek_ascii hpeek hv
  exact ⟨w, rest, rfl, hw, hat'⟩

theorem skipWs_char {w : List Char} {ch : Char} (hw : Ws w) (hch : ¬Blank ch) (h : At b i (w ++ ch :: r)) :
    ∃ j, skipWs.exec b i = (.ok (some (leadByte ch)), j) ∧ At b j (ch :: r) := by
  obtain ⟨j, hj, hat⟩ := skipWs_exec h
  rw [trim_append hw (fun c hc => by cases hc; exact hch)] at hj hat
  exact ⟨j, by rw [hj, head?_utf8_cons], hat⟩

theorem memberQuote_sound (h : At b i cs) (hok : memberQuote.exec b i = (.ok (), j)) :
    ∃ w rest, cs = w ++ '"' :: rest ∧ Ws w ∧ At b j rest := by
  rw [memberQuote] at hok
  obtain ⟨c?, j₁, hws, hok⟩ := exec_bind_eq_ok hok
  split at hok
  · cases hok
    simpa [asciiChar] using skipWs_byte (by decide) h hws
  · simp at hok
  · simp at hok

theorem memberColon_sound (h : At b i cs) (hok : memberColon.exec b i = (.ok (), j)) :
    ∃ w rest, cs = w ++ ':' :: rest ∧ Ws w ∧ At b j rest := by
  rw [memberColon] at hok
  obtain ⟨c?, j₁, hws, hok⟩ := exec_bind_eq_ok hok
  split at hok
  · cases hok
    simpa [asciiChar] using skipWs_byte (by decide) h hws
  · simp at hok
  · simp at hok

theorem skipMemberName_sound (h : At b i cs) (hok : skipMemberName.exec b i = (.ok (), j)) :
    ∃ w₁ k w₂ rest, cs = w₁ ++ k ++ w₂ ++ ':' :: rest ∧ Ws w₁ ∧ StringText k ∧ Ws w₂ ∧ At b j rest := by
  rw [skipMemberName] at hok
  obtain ⟨⟨⟩, j₁, h₁, hok⟩ := exec_bind_eq_ok hok
  obtain ⟨⟨⟩, j₂, h₂, h₃⟩ := exec_bind_eq_ok hok
  obtain ⟨w₁, cs₁, rfl, hw₁, at₁⟩ := memberQuote_sound h h₁
  obtain ⟨body, cs₂, rfl, hbody, at₂⟩ := skipString_sound at₁ h₂
  obtain ⟨w₂, rest, rfl, hw₂, at₃⟩ := memberColon_sound at₂ h₃
  exact ⟨w₁, '"' :: (body ++ ['"']), w₂, rest, by simp, hw₁, by simpa using StringText.mk hbody, hw₂, at₃⟩

/-! ## Scalars -/

theorem literal_sound {c : UInt8} {l : List UInt8} (hl : ∀ u ∈ c :: l, u.toNat < 128) (h : At b i cs)
    (hc : b[i]? = some c) (hok : (do eat; expectIdent l).exec b i = (.ok (), j)) :
    ∃ r, cs = (c :: l).map asciiChar ++ r ∧ At b j r := by
  obtain ⟨cs', rfl, hat⟩ := h.peek_ascii hc (hl c List.mem_cons_self)
  rw [exec_bind_of_ok exec_eat] at hok
  obtain ⟨r, rfl, hr⟩ := expectIdent_sound (fun u hu => hl u (List.mem_cons_of_mem _ hu)) hat hok
  exact ⟨r, rfl, hr⟩

theorem literal_complete {c : UInt8} {l : List UInt8} (hl : ∀ u ∈ c :: l, u.toNat < 128)
    (h : At b i ((c :: l).map asciiChar ++ r)) :
    ∃ j, (do eat; expectIdent l).exec b i = (.ok (), j) ∧ At b j r := by
  have hc := hl c List.mem_cons_self
  obtain ⟨j, hj, hat⟩ := expectIdent_complete (fun u hu => hl u (List.mem_cons_of_mem _ hu))
    (h.next (by rw [toNat_asciiChar hc]; exact hc))
  exact ⟨j, by rw [exec_bind_of_ok exec_eat]; exact hj, hat⟩

theorem skipScalar_sound {v : UInt8} (h : At b i cs) (hv : b[i]? = some v)
    (hok : (skipScalar v).exec b i = (.ok (), j)) :
    ∃ x rest, cs = x ++ rest ∧ Grammar.Value x ∧ At b j rest := by
  unfold skipScalar at hok
  split at hok
  · rename_i hc
    cases beq_iff_eq.1 hc
    obtain ⟨r, rfl, hr⟩ := literal_sound (by decide +kernel) h hv hok
    exact ⟨_, r, rfl, .null, hr⟩
  split at hok
  · rename_i hc
    cases beq_iff_eq.1 hc
    obtain ⟨r, rfl, hr⟩ := literal_sound (by decide +kernel) h hv hok
    exact ⟨_, r, rfl, .true, hr⟩
  split at hok
  · rename_i hc
    cases beq_iff_eq.1 hc
    obtain ⟨r, rfl, hr⟩ := literal_sound (by decide +kernel) h hv hok
    exact ⟨_, r, rfl, .false, hr⟩
  split at hok
  · rename_i hc
    cases beq_iff_eq.1 hc
    obtain ⟨cs', rfl, hat⟩ := h.peek_ascii hv (by decide)
    rw [exec_bind_of_ok exec_eat] at hok
    obtain ⟨p, f, e, rest, rfl, hp, hf, he, hrest⟩ := skipNumber_sound hat hok
    exact ⟨'-' :: (p ++ f ++ e), rest, by simp [asciiChar],
      .number (by simpa using Number.mk (s := ['-']) (.inr rfl) hp hf he), hrest⟩
  split at hok
  · obtain ⟨p, f, e, rest, rfl, hp, hf, he, hrest⟩ := skipNumber_sound h hok
    exact ⟨p ++ f ++ e, rest, by simp, .number (by simpa using Number.mk (s := []) (.inl rfl) hp hf he), hrest⟩
  split at hok
  · rename_i hc
    cases beq_iff_eq.1 hc
    obtain ⟨cs', rfl, hat⟩ := h.peek_ascii hv (by decide)
    rw [exec_bind_of_ok exec_eat] at hok
    obtain ⟨body, rest, rfl, hbody, hrest⟩ := skipString_sound hat hok
    exact ⟨'"' :: (body ++ ['"']), rest, by simp [asciiChar], .string (by simpa using StringText.mk hbody), hrest⟩
  · simp at hok

/-! ## Closing containers -/

def Resumed : Option Open → List Char → List Char → Prop
  | none, r, r' => r = r'
  | some [], _, _ => False
  | some (f :: o), r, r' => ∃ x t, r = x ++ t ∧ Item f x ∧ Closes (f :: o) t r'

def ClosedAt (b : ByteArray) (j : Nat) (s : Open) (cs : List Char) (res : Option Open) : Prop :=
  ∃ u r, cs = u ++ r ∧ At b j r ∧ res ≠ some [] ∧ ∀ r', Resumed res r r' → Closes s cs r'

theorem ClosedAt.nil (h : At b j cs) : ClosedAt b j [] cs none :=
  ⟨[], cs, rfl, h, by simp, fun _ h' => h'⟩

theorem ClosedAt.close {f : Bool} {o : Open} {w : List Char} {res : Option Open} (hw : Ws w)
    (h : ClosedAt b j o cs res) : ClosedAt b j (f :: o) (w ++ closer f :: cs) res := by
  obtain ⟨u, r, rfl, hat, hnr, hcl⟩ := h
  exact ⟨w ++ closer f :: u, r, by simp, hat, hnr, fun r' hr' => Closes.close hw (hcl r' hr')⟩

theorem closer_byte {c : UInt8} {f : Bool} (h : (c == 93 && f || c == 125 && !f) = true) :
    c.toNat < 128 ∧ asciiChar c = closer f := by
  have hcf : c = 93 ∧ f = true ∨ c = 125 ∧ f = false := by simpa using h
  rcases hcf with ⟨rfl, rfl⟩ | ⟨rfl, rfl⟩ <;> exact ⟨by decide, rfl⟩

theorem closeLoop_sound : ∀ (n : Nat) {f : Bool} {o : Open} {i j : Nat} {cs : List Char}
    {res : Option Open}, At b i cs → (utf8 cs).length < n →
    (closeLoop n true (f :: o)).exec b i = (.ok res, j) → ClosedAt b j (f :: o) cs res
  | 0, _, _, _, _, _, _, _, hn, _ => absurd hn (Nat.not_lt_zero _)
  | n + 1, f, o, i, j, cs, res, h, hn, hok => by
    rw [closeLoop] at hok
    obtain ⟨c?, j₁, hws, hok⟩ := exec_bind_eq_ok hok
    rcases c? with _ | c
    · simp at hok
    simp only at hok
    by_cases hcomma : c = 44
    · subst hcomma
      simp only [beq_self_eq_true, Bool.and_self, if_true, exec_bind_of_ok exec_eat, exec_pure,
        Prod.mk.injEq, Except.ok.injEq] at hok
      obtain ⟨rfl, rfl⟩ := hok
      obtain ⟨w, rest, rfl, hw, hat⟩ := skipWs_byte (by decide) h hws
      refine ⟨w ++ [','], rest, by simp [asciiChar], hat, by simp, ?_⟩
      rintro r' ⟨x, t, rfl, hx, ht⟩
      simpa [asciiChar] using Closes.comma hw hx ht
    rw [if_neg (by simpa using hcomma)] at hok
    by_cases hclose : (c == 93 && f || c == 125 && !f) = true
    · obtain ⟨hlt, hcf⟩ := closer_byte hclose
      rw [if_pos hclose, exec_bind_of_ok exec_eat] at hok
      obtain ⟨w, rest, rfl, hw, hat⟩ := skipWs_byte hlt h hws
      rw [hcf] at hn ⊢
      apply ClosedAt.close hw
      cases o with
      | nil =>
        simp only [List.isEmpty_nil, if_true, exec_pure, Prod.mk.injEq, Except.ok.injEq] at hok
        obtain ⟨rfl, rfl⟩ := hok
        exact ClosedAt.nil hat
      | cons g o =>
        have hfuel : (utf8 rest).length < n := by
          have := length_utf8_lt_cons w (closer f) rest
          omega
        simp only [List.isEmpty_cons, Bool.false_eq_true, if_false] at hok
        exact closeLoop_sound n hat hfuel hok
    · rw [if_neg hclose] at hok
      simp at hok

theorem closeLoop_open_sound {n : Nat} {f : Bool} {s : Open} {res : Option Open} (h : At b i cs)
    (hn : (utf8 cs).length < n) (hok : (closeLoop n false (f :: s)).exec b i = (.ok res, j)) :
    (∃ w t, cs = w ++ closer f :: t ∧ Ws w ∧ ClosedAt b j s t res) ∨
      (∃ w rest, cs = w ++ rest ∧ Ws w ∧ At b j rest ∧ res = some (f :: s)) := by
  obtain ⟨n, rfl⟩ : ∃ m, n = m + 1 := ⟨n - 1, by omega⟩
  rw [closeLoop] at hok
  obtain ⟨c?, j₁, hws, hok⟩ := exec_bind_eq_ok hok
  rcases c? with _ | c
  · simp at hok
  simp only [Bool.and_false, Bool.false_eq_true, if_false] at hok
  by_cases hclose : (c == 93 && f || c == 125 && !f) = true
  · obtain ⟨hlt, hcf⟩ := closer_byte hclose
    rw [if_pos hclose, exec_bind_of_ok exec_eat] at hok
    obtain ⟨w, t, rfl, hw, hat⟩ := skipWs_byte hlt h hws
    refine .inl ⟨w, t, by rw [hcf], hw, ?_⟩
    cases s with
    | nil =>
      simp only [List.isEmpty_nil, if_true, exec_pure, Prod.mk.injEq, Except.ok.injEq] at hok
      obtain ⟨rfl, rfl⟩ := hok
      exact ClosedAt.nil hat
    | cons g o =>
      have hfuel : (utf8 t).length < n := by
        have := length_utf8_lt_cons w (asciiChar c) t
        omega
      simp only [List.isEmpty_cons, Bool.false_eq_true, if_false] at hok
      exact closeLoop_sound n hat hfuel hok
  · rw [if_neg hclose] at hok
    simp only [exec_pure, Prod.mk.injEq, Except.ok.injEq] at hok
    obtain ⟨rfl, rfl⟩ := hok
    obtain ⟨w, rest, hcs, hw, hat, -⟩ := skipWs_sound h hws
    exact .inr ⟨w, rest, hcs, hw, hat, rfl⟩

/-! ## The loop -/

def firstToken (c : UInt8) (s : Open) : Read (Option Open) :=
  if c == 91 || c == 123 then do
    eat
    closeLoop (← budget) false ((c == 91) :: s)
  else do
    skipScalar c
    if s.isEmpty then pure none else closeLoop (← budget) true s

def resume (n : Nat) : Option Open → Read Unit
  | none => pure ()
  | some s => do
    (if s.head? == some false then skipMemberName else pure ())
    skipLoop n s

theorem skipLoop_succ (n : Nat) (s : Open) :
    skipLoop (n + 1) s = skipWs >>= fun c? => match c? with
      | none => failPeek .eofWhileParsingValue
      | some c => firstToken c s >>= resume n := by
  rw [skipLoop]
  congr 1
  funext c?
  rcases c? with _ | c
  · rfl
  · simp only [firstToken]
    split
    · simp only [bind_assoc]
      rfl
    · simp only [bind_assoc]
      split
      · simp only [pure_bind]
        rfl
      · simp only [bind_assoc]
        rfl

theorem open_sound {c : UInt8} {s : Open} {res : Option Open} (hc : (c == 91 || c == 123) = true)
    (h : At b i cs) (hws : skipWs.exec b i = (.ok (some c), j₁))
    (hok : (do eat; closeLoop (← budget) false ((c == 91) :: s)).exec b j₁ = (.ok res, j)) :
    (∃ w v t, cs = w ++ v ++ t ∧ Ws w ∧ Grammar.Value v ∧ ClosedAt b j s t res) ∨
      (∃ f w w' rest, cs = w ++ opener f :: (w' ++ rest) ∧ Ws w ∧ Ws w' ∧ At b j rest ∧
        res = some (f :: s)) := by
  have hco : c.toNat < 128 ∧ asciiChar c = opener (c == 91) := by
    have : c = 91 ∨ c = 123 := by simpa using hc
    rcases this with rfl | rfl <;> exact ⟨by decide, rfl⟩
  obtain ⟨w, cs', rfl, hw, hat⟩ := skipWs_byte hco.1 h hws
  rw [exec_bind_of_ok exec_eat, exec_bind_of_ok exec_budget, hat.budget] at hok
  rcases closeLoop_open_sound hat (Nat.lt_succ_self _) hok with
    ⟨w', t, rfl, hw', hcl⟩ | ⟨w', rest, rfl, hw', hat', hres⟩
  · exact .inl ⟨w, opener (c == 91) :: (w' ++ [closer (c == 91)]), t, by simp [hco.2], hw,
      value_empty _ hw', hcl⟩
  · exact .inr ⟨c == 91, w, w', rest, by rw [hco.2], hw, hw', hat', hres⟩

theorem scalar_sound {c : UInt8} {s : Open} {res : Option Open} (h : At b i cs)
    (hws : skipWs.exec b i = (.ok (some c), j₁))
    (hok : (do skipScalar c; if s.isEmpty then pure none else closeLoop (← budget) true s).exec b j₁ =
      (.ok res, j)) :
    ∃ w v t, cs = w ++ v ++ t ∧ Ws w ∧ Grammar.Value v ∧ ClosedAt b j s t res := by
  obtain ⟨w, cs', rfl, hw, hat, hpeek⟩ := skipWs_sound h hws
  obtain ⟨⟨⟩, j₂, hscalar, hok⟩ := exec_bind_eq_ok hok
  obtain ⟨v, t, rfl, hv, hat'⟩ := skipScalar_sound hat hpeek hscalar
  refine ⟨w, v, t, by simp, hw, hv, ?_⟩
  cases s with
  | nil =>
    simp only [List.isEmpty_nil, if_true, exec_pure, Prod.mk.injEq, Except.ok.injEq] at hok
    obtain ⟨rfl, rfl⟩ := hok
    exact ClosedAt.nil hat'
  | cons f o =>
    simp only [List.isEmpty_cons, Bool.false_eq_true, if_false] at hok
    rw [exec_bind_of_ok exec_budget, hat'.budget] at hok
    exact closeLoop_sound _ hat' (Nat.lt_succ_self _) hok

theorem resume_sound {n : Nat} {res : Option Open}
    (ih : ∀ {s : Open} {i j : Nat} {cs : List Char}, At b i cs → (utf8 cs).length < n →
      (skipLoop n s).exec b i = (.ok (), j) → ∃ r, At b j r ∧ ValueThen s cs r)
    (h : At b i r) (hn : (utf8 r).length < n) (hnr : res ≠ some [])
    (hok : (resume n res).exec b i = (.ok (), j)) : ∃ r', At b j r' ∧ Resumed res r r' := by
  rcases res with _ | _ | ⟨f, o⟩
  · rw [resume, exec_pure, Prod.mk.injEq] at hok
    obtain ⟨-, rfl⟩ := hok
    exact ⟨r, h, rfl⟩
  · exact absurd rfl hnr
  rw [resume] at hok
  obtain ⟨⟨⟩, j₁, hname, hok⟩ := exec_bind_eq_ok hok
  cases f with
  | true =>
    rw [if_neg (by simp), exec_pure, Prod.mk.injEq] at hname
    obtain ⟨-, rfl⟩ := hname
    obtain ⟨r', hat, w, v, t, rfl, hw, hv, ht⟩ := ih h hn hok
    exact ⟨r', hat, w ++ v, t, rfl, .element hw hv, ht⟩
  | false =>
    simp only [List.head?_cons, beq_self_eq_true, if_true] at hname
    obtain ⟨w₁, k, w₂, rest, rfl, hw₁, hk, hw₂, hat⟩ := skipMemberName_sound h hname
    obtain ⟨r', hat', w, v, t, rfl, hw, hv, ht⟩ := ih hat (Nat.lt_trans (length_utf8_lt_cons _ _ _) hn) hok
    exact ⟨r', hat', w₁ ++ k ++ w₂ ++ ':' :: (w ++ v), t, by simp, .member hw₁ hk hw₂ hw hv, ht⟩

theorem firstToken_sound {c : UInt8} {s : Open} {res : Option Open} (h : At b i cs)
    (hws : skipWs.exec b i = (.ok (some c), j₁)) (hok : (firstToken c s).exec b j₁ = (.ok res, j)) :
    (∃ w v t, cs = w ++ v ++ t ∧ Ws w ∧ Grammar.Value v ∧ ClosedAt b j s t res) ∨
      (∃ f w w' rest, cs = w ++ opener f :: (w' ++ rest) ∧ Ws w ∧ Ws w' ∧ At b j rest ∧
        res = some (f :: s)) := by
  unfold firstToken at hok
  split at hok
  · exact open_sound ‹_› h hws hok
  · exact .inl (scalar_sound h hws hok)

theorem skipLoop_sound : ∀ (n : Nat) {s : Open} {i j : Nat} {cs : List Char}, At b i cs →
    (utf8 cs).length < n → (skipLoop n s).exec b i = (.ok (), j) → ∃ r, At b j r ∧ ValueThen s cs r
  | 0, _, _, _, _, _, hn, _ => absurd hn (Nat.not_lt_zero _)
  | n + 1, s, i, j, cs, h, hn, hok => by
    rw [skipLoop_succ] at hok
    obtain ⟨c?, j₁, hws, hok⟩ := exec_bind_eq_ok hok
    rcases c? with _ | c
    · simp at hok
    obtain ⟨res, j₂, hstep, hok⟩ := exec_bind_eq_ok hok
    rcases firstToken_sound h hws hstep with ⟨w, v, t, rfl, hw, hv, u, r, rfl, hat, hnr, hcl⟩ |
      ⟨f, w, w', rest, rfl, hw, hw', hat, rfl⟩
    · have hfuel := fuel_after (x := w ++ v) (by simp [hv.ne_nil]) hn
      obtain ⟨r', hat', hres⟩ := resume_sound (skipLoop_sound n) hat hfuel hnr hok
      exact ⟨r', hat', w, v, u ++ r, rfl, hw, hv, hcl r' hres⟩
    · have hfuel := fuel_after (x := w ++ [opener f]) (u := w') (by simp) (by simpa using hn)
      obtain ⟨r', hat', x, t, rfl, hx, m, t', rfl, hm, ht'⟩ :=
        resume_sound (skipLoop_sound n) hat hfuel (by simp) hok
      exact ⟨r', hat', w, opener f :: (w' ++ x ++ m ++ [closer f]), t', by simp, hw,
        value_container (hx.append_ws hw') hm, ht'⟩

/-! ## Completeness -/

theorem memberQuote_complete {w : List Char} (hw : Ws w) (h : At b i (w ++ '"' :: r)) :
    ∃ j, memberQuote.exec b i = (.ok (), j) ∧ At b j r := by
  obtain ⟨j, hj, hat⟩ := skipWs_char hw (by decide) h
  exact ⟨j + 1, by rw [memberQuote, exec_bind_of_ok hj]; rfl, hat.next (by decide)⟩

theorem memberColon_complete {w : List Char} (hw : Ws w) (h : At b i (w ++ ':' :: r)) :
    ∃ j, memberColon.exec b i = (.ok (), j) ∧ At b j r := by
  obtain ⟨j, hj, hat⟩ := skipWs_char hw (by decide) h
  exact ⟨j + 1, by rw [memberColon, exec_bind_of_ok hj]; rfl, hat.next (by decide)⟩

theorem skipMemberName_complete {w₁ k w₂ : List Char} (hw₁ : Ws w₁) (hk : StringText k) (hw₂ : Ws w₂)
    (h : At b i (w₁ ++ k ++ w₂ ++ ':' :: r)) : ∃ j, skipMemberName.exec b i = (.ok (), j) ∧ At b j r := by
  cases hk with
  | @mk body hbody =>
    obtain ⟨j₁, h₁, at₁⟩ :=
      memberQuote_complete hw₁ (r := body ++ '"' :: (w₂ ++ ':' :: r)) (by simpa using h)
    obtain ⟨j₂, h₂, at₂⟩ := skipString_complete hbody at₁
    obtain ⟨j₃, h₃, at₃⟩ := memberColon_complete hw₂ at₂
    exact ⟨j₃, by rw [skipMemberName, exec_bind_of_ok h₁, exec_bind_of_ok h₂, h₃], at₃⟩

theorem leadByte_beq_of_ne {ch : Char} {v : UInt8} (hv : v.toNat < 128) (hne : ch.toNat ≠ v.toNat) :
    (leadByte ch == v) = false := by
  rw [beq_eq_false_iff_ne, ne_eq, leadByte_eq_iff hv]
  exact hne

theorem skipScalar_digit {d : Char} (hd : Digit d) : skipScalar (leadByte d) = skipNumber := by
  have hmem := hd.toNat_mem
  have hne : ∀ v : UInt8, v.toNat < 128 → v.toNat < 48 ∨ 57 < v.toNat → (leadByte d == v) = false :=
    fun v hv hout => leadByte_beq_of_ne hv (by omega)
  simp only [skipScalar, hne 110 (by decide) (by decide), hne 116 (by decide) (by decide),
    hne 102 (by decide) (by decide), hne 45 (by decide) (by decide), isDigit_leadByte,
    decide_eq_true hd, Bool.false_eq_true, if_false, if_true]

theorem skipScalar_complete {ch : Char} {x : List Char} (hv : Grammar.Value (ch :: x))
    (hne : ch ≠ '[' ∧ ch ≠ '{') (hr : AfterValue r) (h : At b i (ch :: x ++ r)) :
    ∃ j, (skipScalar (leadByte ch)).exec b i = (.ok (), j) ∧ At b j r := by
  cases hv with
  | null =>
    obtain ⟨j, hj, hat⟩ := literal_complete (c := 110) (l := [117, 108, 108]) (by decide +kernel) h
    have hprog : skipScalar (leadByte 'n') = (do eat; expectIdent [117, 108, 108]) := rfl
    exact ⟨j, by rw [hprog]; exact hj, hat⟩
  | «true» =>
    obtain ⟨j, hj, hat⟩ := literal_complete (c := 116) (l := [114, 117, 101]) (by decide +kernel) h
    have hprog : skipScalar (leadByte 't') = (do eat; expectIdent [114, 117, 101]) := rfl
    exact ⟨j, by rw [hprog]; exact hj, hat⟩
  | «false» =>
    obtain ⟨j, hj, hat⟩ := literal_complete (c := 102) (l := [97, 108, 115, 101]) (by decide +kernel) h
    have hprog : skipScalar (leadByte 'f') = (do eat; expectIdent [97, 108, 115, 101]) := rfl
    exact ⟨j, by rw [hprog]; exact hj, hat⟩
  | string hs =>
    cases hs with
    | @mk body hbody =>
      have hat₀ : At b (i + 1) (body ++ '"' :: r) := by simpa using h.next (by decide)
      obtain ⟨j, hj, hat⟩ := skipString_complete hbody hat₀
      exact ⟨j, by rw [show skipScalar (leadByte '"') = (do eat; skipString) from rfl,
        exec_bind_of_ok exec_eat]; exact hj, hat⟩
  | number hn =>
    generalize hy : ch :: x = y at hn
    cases hn with
    | @mk s p f e hs hp hf he =>
      rcases hs with rfl | rfl
      · obtain ⟨d, p', rfl, hd⟩ := hp.head
        obtain ⟨rfl, rfl⟩ := List.cons.inj hy
        obtain ⟨j, hj, hat⟩ := skipNumber_complete hp hf he hr (by simpa using h)
        exact ⟨j, by rw [skipScalar_digit hd]; exact hj, hat⟩
      · obtain ⟨rfl, rfl⟩ := List.cons.inj hy
        obtain ⟨j, hj, hat⟩ := skipNumber_complete hp hf he hr (by simpa using h.next (by decide))
        exact ⟨j, by rw [show skipScalar (leadByte '-') = (do eat; skipNumber) from rfl,
          exec_bind_of_ok exec_eat]; exact hj, hat⟩
  | emptyArray => exact absurd rfl hne.1
  | array => exact absurd rfl hne.1
  | emptyObject => exact absurd rfl hne.2
  | object => exact absurd rfl hne.2

theorem AfterValue.ws_then {w l : List Char} {c : Char} (hw : Ws w) (hc : c = ',' ∨ c = ']' ∨ c = '}') :
    AfterValue (w ++ c :: l) := by
  intro d hd
  cases w with
  | nil => cases hd; exact .inr hc
  | cons e w =>
    simp only [List.cons_append, List.head?_cons, Option.mem_def, Option.some.injEq] at hd
    subst hd
    exact .inl (hw _ List.mem_cons_self)

theorem Grammar.Closes.afterValue {s : Open} {t : List Char} (hs : Closes s t r) (hr : AfterValue r) :
    AfterValue t := by
  cases s with
  | nil => exact hs ▸ hr
  | cons f o =>
    obtain ⟨m, t', rfl, hm, -⟩ := hs
    have hc : closer f = ',' ∨ closer f = ']' ∨ closer f = '}' := by cases f <;> simp [closer]
    cases hm with
    | close hw => exact AfterValue.ws_then hw hc
    | @more w x t₂ hw _ _ => simpa using AfterValue.ws_then (l := x ++ (t₂ ++ closer f :: t')) hw (.inl rfl)

def Pending (b : ByteArray) (r : List Char) (k : Nat) : Option Open → Nat → Prop
  | none, j => At b j r
  | some s, j => ∃ f o x t, s = f :: o ∧ At b j (x ++ t) ∧ Item f x ∧ Closes (f :: o) t r ∧
      (utf8 (x ++ t)).length < k

theorem Pending.mono {k k' : Nat} {res : Option Open} (h : Pending b r k res j) (hk : k ≤ k') :
    Pending b r k' res j := by
  rcases res with _ | s
  · exact h
  · obtain ⟨f, o, x, t, rfl, hat, hx, ht, hlen⟩ := h
    exact ⟨f, o, x, t, rfl, hat, hx, ht, by omega⟩

theorem closeLoop_comma {n : Nat} {f : Bool} {o : Open} (hws : skipWs.exec b i = (.ok (some 44), j₁)) :
    (closeLoop (n + 1) true (f :: o)).exec b i = (.ok (some (f :: o)), j₁ + 1) := by
  rw [closeLoop, exec_bind_of_ok hws]
  rfl

theorem closeLoop_closer {n : Nat} {a f : Bool} {o : Open}
    (hws : skipWs.exec b i = (.ok (some (leadByte (closer f))), j₁)) :
    (closeLoop (n + 1) a (f :: o)).exec b i =
      (if o.isEmpty then pure none else closeLoop n true o).exec b (j₁ + 1) := by
  rw [closeLoop, exec_bind_of_ok hws]
  cases f <;> cases a <;> rfl

theorem closeLoop_open_other {n : Nat} {f : Bool} {o : Open} {c : UInt8}
    (hws : skipWs.exec b i = (.ok (some c), j₁)) (hc : (c == 93 && f || c == 125 && !f) = false) :
    (closeLoop (n + 1) false (f :: o)).exec b i = (.ok (some (f :: o)), j₁) := by
  rw [closeLoop, exec_bind_of_ok hws]
  simp [hc]

theorem closes_leadByte {ch : Char} {f : Bool} (hc : ch ≠ closer f) :
    (leadByte ch == 93 && f || leadByte ch == 125 && !f) = false := by
  cases f
  · simp [leadByte_beq_of_ne (v := 125) (by decide) fun h => hc (Char.toNat_inj.1 h)]
  · simp [leadByte_beq_of_ne (v := 93) (by decide) fun h => hc (Char.toNat_inj.1 h)]

theorem closeOuter_complete {n : Nat} {o : Open} {t : List Char}
    (ih : ∀ {g : Bool} {o' : Open} {i : Nat} {t : List Char}, Closes (g :: o') t r → At b i t →
      (utf8 t).length < n → ∃ res j, (closeLoop n true (g :: o')).exec b i = (.ok res, j) ∧
        Pending b r (utf8 t).length res j)
    (ho : Closes o t r) (h : At b i t) (hn : (utf8 t).length < n) :
    ∃ res j, (if o.isEmpty then pure none else closeLoop n true o).exec b i = (.ok res, j) ∧
      Pending b r (utf8 t).length res j := by
  cases o with
  | nil => exact ⟨none, i, rfl, ho ▸ h⟩
  | cons g o => exact ih ho h hn

theorem closeLoop_complete : ∀ (n : Nat) {f : Bool} {o : Open} {i : Nat} {t : List Char},
    Closes (f :: o) t r → At b i t → (utf8 t).length < n →
    ∃ res j, (closeLoop n true (f :: o)).exec b i = (.ok res, j) ∧ Pending b r (utf8 t).length res j
  | 0, _, _, _, _, _, _, hn => absurd hn (Nat.not_lt_zero _)
  | n + 1, f, o, i, _, ⟨m, t', rfl, hm, ho⟩, h, hn => by
    cases hm with
    | close hw =>
      obtain ⟨j₁, hws, hat⟩ := skipWs_char hw (by cases f <;> decide) h
      have hfuel : (utf8 t').length < n := by
        have := length_utf8_lt_cons m (closer f) t'
        omega
      obtain ⟨res, j, hrun, hres⟩ := closeOuter_complete (closeLoop_complete n) ho
        (hat.next (by cases f <;> decide)) hfuel
      exact ⟨res, j, by rw [closeLoop_closer hws]; exact hrun,
        hres.mono (Nat.le_of_lt (length_utf8_lt_cons _ _ _))⟩
    | @more w x t₂ hw hx hrest =>
      have hat₀ : At b i (w ++ ',' :: (x ++ (t₂ ++ closer f :: t'))) := by simpa using h
      obtain ⟨j₁, hws, hat⟩ := skipWs_char hw (by decide) hat₀
      refine ⟨some (f :: o), j₁ + 1, closeLoop_comma hws, f, o, x, t₂ ++ closer f :: t', rfl,
        hat.next (by decide), hx, ⟨t₂, t', rfl, hrest, ho⟩, ?_⟩
      simpa using length_utf8_lt_cons w ',' (x ++ (t₂ ++ closer f :: t'))

theorem closeLoop_open_empty {n : Nat} {f : Bool} {s : Open} {w t : List Char} (hw : Ws w)
    (hs : Closes s t r) (h : At b i (w ++ closer f :: t)) (hn : (utf8 (w ++ closer f :: t)).length < n) :
    ∃ res j, (closeLoop n false (f :: s)).exec b i = (.ok res, j) ∧ Pending b r (utf8 t).length res j := by
  obtain ⟨n, rfl⟩ : ∃ m, n = m + 1 := ⟨n - 1, by omega⟩
  obtain ⟨j₁, hws, hat⟩ := skipWs_char hw (by cases f <;> decide) h
  have hfuel : (utf8 t).length < n := by
    have := length_utf8_lt_cons w (closer f) t
    omega
  obtain ⟨res, j, hrun, hres⟩ := closeOuter_complete (closeLoop_complete n) hs
    (hat.next (by cases f <;> decide)) hfuel
  exact ⟨res, j, by rw [closeLoop_closer hws]; exact hrun, hres⟩

theorem closeLoop_open_item {n : Nat} {f : Bool} {s : Open} {x t : List Char} (hx : Item f x)
    (ht : Closes (f :: s) t r) (h : At b i (x ++ t)) (hn : (utf8 (x ++ t)).length < n) :
    ∃ j, (closeLoop n false (f :: s)).exec b i = (.ok (some (f :: s)), j) ∧
      Pending b r ((utf8 (x ++ t)).length + 1) (some (f :: s)) j := by
  obtain ⟨n, rfl⟩ : ∃ m, n = m + 1 := ⟨n - 1, by omega⟩
  obtain ⟨w, ch, x', rfl, hw, hb, hc, hx'⟩ := hx.strip
  obtain ⟨j, hws, hat⟩ := skipWs_char hw hb (by simpa using h)
  refine ⟨j, closeLoop_open_other hws (closes_leadByte hc), f, s, ch :: x', t, rfl, by simpa using hat,
    hx', ht, ?_⟩
  have : (utf8 (ch :: x' ++ t)).length ≤ (utf8 (w ++ ch :: x' ++ t)).length := by
    simp only [utf8_append, List.length_append]
    omega
  omega

theorem length_utf8_le_append (x y : List Char) : (utf8 y).length ≤ (utf8 (x ++ y)).length := by
  simp only [utf8_append, List.length_append]
  omega

theorem firstToken_opener (f : Bool) (s : Open) :
    firstToken (leadByte (opener f)) s = (do eat; closeLoop (← budget) false (f :: s)) := by
  cases f <;> rfl

theorem firstToken_scalar {ch : Char} {s : Open} (hne : ch ≠ '[' ∧ ch ≠ '{') :
    firstToken (leadByte ch) s =
      (do skipScalar (leadByte ch); if s.isEmpty then pure none else closeLoop (← budget) true s) := by
  rw [firstToken, if_neg]
  simp [leadByte_beq_of_ne (v := 91) (by decide) fun h => hne.1 (Char.toNat_inj.1 h),
    leadByte_beq_of_ne (v := 123) (by decide) fun h => hne.2 (Char.toNat_inj.1 h)]

theorem firstToken_complete {s : Open} {ch : Char} {x t : List Char} (hv : Grammar.Value (ch :: x))
    (hs : Closes s t r) (hr : AfterValue r) (h : At b i (ch :: x ++ t)) :
    ∃ res j, (firstToken (leadByte ch) s).exec b i = (.ok res, j) ∧
      Pending b r (utf8 (ch :: x ++ t)).length res j := by
  rcases hv.classify with ⟨f, w, hvf, hw⟩ | ⟨f, y, m, hvf, hy, hm⟩ | hscalar
  · obtain ⟨rfl, rfl⟩ := List.cons.inj hvf
    have hat : At b (i + 1) (w ++ closer f :: t) := by simpa using h.next (by cases f <;> decide)
    obtain ⟨res, j, hrun, hres⟩ := closeLoop_open_empty hw hs hat (Nat.lt_succ_self _)
    refine ⟨res, j, ?_, hres.mono (length_utf8_le_append _ _)⟩
    rw [firstToken_opener, exec_bind_of_ok exec_eat, exec_bind_of_ok exec_budget, hat.budget]
    exact hrun
  · obtain ⟨rfl, rfl⟩ := List.cons.inj hvf
    have hat : At b (i + 1) (y ++ (m ++ closer f :: t)) := by simpa using h.next (by cases f <;> decide)
    obtain ⟨j, hrun, hres⟩ := closeLoop_open_item hy ⟨m, t, rfl, hm, hs⟩ hat (Nat.lt_succ_self _)
    refine ⟨some (f :: s), j, ?_, hres.mono ?_⟩
    · rw [firstToken_opener, exec_bind_of_ok exec_eat, exec_bind_of_ok exec_budget, hat.budget]
      exact hrun
    · have h1 : (String.utf8EncodeChar (opener f)).length = 1 := by cases f <;> rfl
      simp only [List.cons_append, length_utf8_cons, h1, utf8_append, List.length_append,
        List.append_assoc]
      omega
  · have hne := hscalar ch rfl
    obtain ⟨j₁, hsc, hat⟩ := skipScalar_complete hv hne (hs.afterValue hr) h
    rw [firstToken_scalar hne]
    cases s with
    | nil => exact ⟨none, j₁, by rw [exec_bind_of_ok hsc]; rfl, hs ▸ hat⟩
    | cons g o =>
      obtain ⟨res, j, hrun, hres⟩ := closeLoop_complete _ hs hat (Nat.lt_succ_self _)
      refine ⟨res, j, ?_, hres.mono (length_utf8_le_append _ _)⟩
      rw [exec_bind_of_ok hsc]
      simp only [List.isEmpty_cons, Bool.false_eq_true, if_false]
      rw [exec_bind_of_ok exec_budget, hat.budget]
      exact hrun

theorem resume_complete {n k : Nat} {res : Option Open}
    (ih : ∀ {s : Open} {i : Nat} {cs : List Char}, ValueThen s cs r → At b i cs → (utf8 cs).length < n →
      ∃ j, (skipLoop n s).exec b i = (.ok (), j) ∧ At b j r)
    (h : Pending b r k res j) (hk : k ≤ n) : ∃ j', (resume n res).exec b j = (.ok (), j') ∧ At b j' r := by
  rcases res with _ | s
  · exact ⟨j, rfl, h⟩
  obtain ⟨f, o, x, t, rfl, hat, hx, ht, hlen⟩ := h
  cases hx with
  | @element w v hw hv =>
    obtain ⟨j', hj', hat'⟩ := ih ⟨w, v, t, rfl, hw, hv, ht⟩ hat (by omega)
    exact ⟨j', by rw [resume, if_neg (by simp), exec_bind_of_ok (exec_pure ())]; exact hj', hat'⟩
  | @member w₁ name w₂ w₃ v hw₁ hname hw₂ hw₃ hv =>
    have hat₀ : At b j (w₁ ++ name ++ w₂ ++ ':' :: (w₃ ++ v ++ t)) := by simpa using hat
    obtain ⟨j₁, hrun, hat₁⟩ := skipMemberName_complete hw₁ hname hw₂ hat₀
    have hfuel : (utf8 (w₃ ++ v ++ t)).length < n := by
      have := length_utf8_lt_cons (w₁ ++ name ++ w₂) ':' (w₃ ++ v ++ t)
      simp only [utf8_append, List.length_append, length_utf8_cons] at hlen this ⊢
      omega
    obtain ⟨j', hj', hat'⟩ := ih ⟨w₃, v, t, rfl, hw₃, hv, ht⟩ hat₁ hfuel
    exact ⟨j', by rw [resume, if_pos (by simp), exec_bind_of_ok hrun]; exact hj', hat'⟩

theorem skipLoop_complete (hr : AfterValue r) : ∀ (n : Nat) {s : Open} {i : Nat} {cs : List Char},
    ValueThen s cs r → At b i cs → (utf8 cs).length < n →
    ∃ j, (skipLoop n s).exec b i = (.ok (), j) ∧ At b j r
  | 0, _, _, _, _, _, hn => absurd hn (Nat.not_lt_zero _)
  | n + 1, s, i, _, ⟨w, v, t, rfl, hw, hv, hs⟩, h, hn => by
    obtain ⟨ch, x, rfl, hb, -⟩ := hv.head
    have hat₀ : At b i (w ++ ch :: (x ++ t)) := by simpa using h
    obtain ⟨j₁, hws, hat⟩ := skipWs_char hw hb hat₀
    obtain ⟨res, j₂, hstep, hres⟩ := firstToken_complete hv hs hr hat
    have hk : (utf8 (ch :: x ++ t)).length ≤ n := by
      have := length_utf8_le_append w (ch :: x ++ t)
      simp only [List.append_assoc] at this hn
      omega
    obtain ⟨j, hrun, hat'⟩ := resume_complete (skipLoop_complete hr n) hres hk
    refine ⟨j, ?_, hat'⟩
    rw [skipLoop_succ, exec_bind_of_ok hws]
    exact (exec_bind_of_ok hstep).trans hrun

theorem skip_sound (h : At b i cs) (hok : skip.exec b i = (.ok (), j)) :
    ∃ w v rest, cs = w ++ v ++ rest ∧ Ws w ∧ Grammar.Value v ∧ At b j rest := by
  rw [skip, exec_bind_of_ok exec_budget, h.budget] at hok
  obtain ⟨r, hat, w, v, t, rfl, hw, hv, rfl⟩ := skipLoop_sound _ h (Nat.lt_succ_self _) hok
  exact ⟨w, v, t, rfl, hw, hv, hat⟩

theorem skip_complete {w v : List Char} (hw : Ws w) (hv : Grammar.Value v) (hr : AfterValue r)
    (h : At b i (w ++ v ++ r)) : ∃ j, skip.exec b i = (.ok (), j) ∧ At b j r := by
  obtain ⟨j, hj, hat⟩ := skipLoop_complete hr _ (s := []) ⟨w, v, r, rfl, hw, hv, rfl⟩ h (Nat.lt_succ_self _)
  exact ⟨j, by rw [skip, exec_bind_of_ok exec_budget, h.budget]; exact hj, hat⟩

end ScriptBridge.Json
