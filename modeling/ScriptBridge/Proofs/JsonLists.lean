import ScriptBridge.Proofs.JsonSkip

/-!
# Reading lists and objects item by item

Readers that build something from a list or an object take it one item at a time: `nextItem`
takes the separator before a list item and then the item, `memberName` the separator before a
member and its name, and `endList` and `endObject` the closing bracket. Their texts are described
here in the order they are read: `ListRest` is the rest of a list or an object from just after
its opening bracket or just after an item, each item behind its separator (`Sep`). Read from the
front it is the grammar's `Bracketed` (`ListRest.bracketed`, `Bracketed.listRest`).

An item reader is described by `Reads`: it takes exactly whitespace and a text of its grammar,
returns what that text stands for, and needs nothing of what follows beyond what may follow a
value. The lemmas on `nextItem` and `listItems` hold for any such reader.
-/

namespace ScriptBridge.Json

open Grammar

variable {b : ByteArray} {i j : Nat} {cs r : List Char} {α : Type}

/-! ## Lists in reading order -/

def Sep : Bool → List Char → Prop
  | true, u => Ws u
  | false, u => ∃ w w', u = w ++ ',' :: w' ∧ Ws w ∧ Ws w'

theorem Sep.first {u : List Char} (h : Ws u) : Sep true u := h

theorem Sep.comma {w w' : List Char} (hw : Ws w) (hw' : Ws w') : Sep false (w ++ ',' :: w') :=
  ⟨w, w', rfl, hw, hw'⟩

/-- The rest of a list closed by `c` as it is read, from just after its opening bracket (`first`)
or just after an item: the items `as`, each after its separator, then whitespace and the closing
bracket, and `r` after it. -/
inductive ListRest (c : Char) (P : List Char → α → Prop) : Bool → List Char → List α → List Char → Prop
  | close {first : Bool} {w r : List Char} : Ws w → ListRest c P first (w ++ c :: r) [] r
  | item {first : Bool} {u x t r : List Char} {a : α} {as : List α} : Sep first u → P x a →
      ListRest c P false t as r → ListRest c P first (u ++ x ++ t) (a :: as) r

section Conversions

variable {c : Char} {P : List Char → α → Prop} {as : List α}

theorem ListRest.items {t : List Char} (h : ListRest c P false t as r) {u x : List Char} {a : α}
    (hu : Ws u) (hx : P x a) : ∃ m, t = m ++ c :: r ∧ Items P (u ++ x ++ m) (a :: as) := by
  generalize hf : false = first at h
  induction h generalizing u x a with
  | close hw => exact ⟨_, rfl, Items.one hu hx hw⟩
  | @item first' u' x' t' r' a' as' hsep hx' _ ih =>
    subst hf
    obtain ⟨w, w', rfl, hw, hw'⟩ := hsep
    obtain ⟨m, rfl, hm⟩ := ih hw' hx' rfl
    exact ⟨w ++ ',' :: (w' ++ x' ++ m), by simp, by simpa using Items.cons hu hx hw hm⟩

theorem ListRest.bracketed {o : Char} (h : ListRest c P true cs as r) :
    ∃ t, cs = t ++ r ∧ Bracketed o c P (o :: t) as := by
  cases h with
  | @close _ w _ hw => exact ⟨w ++ [c], by simp, by simpa using Bracketed.empty (o := o) (c := c) (P := P) hw⟩
  | @item _ u x _ _ _ _ hu hx hrest =>
    obtain ⟨m, rfl, hm⟩ := hrest.items hu hx
    exact ⟨u ++ x ++ m ++ [c], by simp, by simpa using Bracketed.items (o := o) (c := c) hm⟩

theorem Grammar.Items.listRest {t : List Char} (h : Items P t as) {first : Bool} {p : List Char}
    (hp : ∀ w, Ws w → Sep first (p ++ w)) : ListRest c P first (p ++ t ++ c :: r) as r := by
  induction h generalizing first p with
  | @one w₁ x w₂ a hw₁ hx hw₂ =>
    simpa using ListRest.item (hp w₁ hw₁) hx (ListRest.close hw₂ : ListRest c P false (w₂ ++ c :: r) [] r)
  | @cons w₁ x w₂ t a as hw₁ hx hw₂ _ ih =>
    have hrest := ih (p := w₂ ++ [',']) fun w hw => by
      rw [List.append_assoc]
      exact Sep.comma hw₂ hw
    simpa using ListRest.item (hp w₁ hw₁) hx hrest

theorem Grammar.Bracketed.listRest {o : Char} {v : List Char} (h : Bracketed o c P v as) :
    ∃ t, v = o :: t ∧ ∀ r, ListRest c P true (t ++ r) as r := by
  cases h with
  | @empty w hw =>
    exact ⟨w ++ [c], rfl, fun r => by simpa using (ListRest.close hw : ListRest c P true (w ++ c :: r) [] r)⟩
  | @items t _ hi =>
    refine ⟨t ++ [c], rfl, fun r => ?_⟩
    simpa using hi.listRest (c := c) (r := r) (p := []) fun _ hw => Sep.first hw

theorem ListRest.afterValue {t : List Char} (h : ListRest c P false t as r) (hc : c = ']' ∨ c = '}') :
    AfterValue t := by
  cases h with
  | close hw => exact AfterValue.ws_then hw (.inr hc)
  | @item _ u x t' _ _ _ hsep _ _ =>
    obtain ⟨w, w', rfl, hw, -⟩ := hsep
    simpa using AfterValue.ws_then (l := w' ++ x ++ t') hw (.inl rfl)

end Conversions

/-! ## Item readers -/

/-- A reader that takes exactly whitespace and a text of `P` and returns what the text stands
for. Every text of `P` is a JSON value, and the reader needs nothing of what follows it beyond
what may follow a value. -/
structure Reads (item : Read α) (P : List Char → α → Prop) : Prop where
  value : ∀ {x : List Char} {a : α}, P x a → Grammar.Value x
  sound : ∀ {b : ByteArray} {i j : Nat} {cs : List Char} {a : α}, At b i cs →
    item.exec b i = (.ok a, j) → ∃ w x r, cs = w ++ x ++ r ∧ Ws w ∧ P x a ∧ At b j r
  complete : ∀ {b : ByteArray} {i : Nat} {w x r : List Char} {a : α}, Ws w → P x a → AfterValue r →
    At b i (w ++ x ++ r) → ∃ j, item.exec b i = (.ok a, j) ∧ At b j r

theorem Reads.congr {item : Read α} {P Q : List Char → α → Prop} (h : Reads item P)
    (hPQ : ∀ x a, P x a ↔ Q x a) : Reads item Q where
  value hq := h.value ((hPQ _ _).2 hq)
  sound hat hok := by
    obtain ⟨w, x, r, hcs, hw, hx, hr⟩ := h.sound hat hok
    exact ⟨w, x, r, hcs, hw, (hPQ x _).1 hx, hr⟩
  complete hw hq hr hat := h.complete hw ((hPQ _ _).2 hq) hr hat

/-! ## List items -/

section NextItem

variable {item : Read α} {P : List Char → α → Prop} {first : Bool}

theorem nextItem_sound {o : Option α} (hr : Reads item P) (h : At b i cs)
    (hok : (nextItem item first).exec b i = (.ok o, j)) :
    (o = none ∧ ∃ w r, cs = w ++ ']' :: r ∧ Ws w ∧ At b j (']' :: r)) ∨
      ∃ a u x r, o = some a ∧ cs = u ++ x ++ r ∧ Sep first u ∧ P x a ∧ At b j r := by
  rw [nextItem] at hok
  replace hok := exec_bind_eq_ok hok
  obtain ⟨c?, j₁, hws, hok⟩ := hok
  obtain ⟨w, rest, rfl, hw, hat, hpeek⟩ := skipWs_sound h hws
  split at hok
  · simp only [exec_pure, Prod.mk.injEq, Except.ok.injEq] at hok
    obtain ⟨rfl, rfl⟩ := hok
    obtain ⟨r, rfl, -⟩ := hat.peek_ascii hpeek (by decide)
    exact .inl ⟨rfl, w, r, rfl, hw, hat⟩
  · rename_i c hne
    simp only at hok
    split at hok
    · rename_i hcomma
      obtain ⟨rfl, rfl⟩ : c = 44 ∧ first = false := by simpa using hcomma
      obtain ⟨rest₁, rfl, hat₁⟩ := hat.peek_ascii hpeek (by decide)
      rw [exec_bind_of_ok exec_eat] at hok
      replace hok := exec_bind_eq_ok hok
      obtain ⟨c₂?, j₂, hws₂, hok⟩ := hok
      obtain ⟨w', rest₂, rfl, hw', hat₂, -⟩ := skipWs_sound hat₁ hws₂
      split at hok
      · simp at hok
      · obtain ⟨a, hitem, rfl⟩ := exec_map_eq_ok hok
        obtain ⟨w'', x, r, rfl, hw'', hx, hat'⟩ := hr.sound hat₂ hitem
        exact .inr ⟨a, w ++ ',' :: (w' ++ w''), x, r, rfl, by simp [asciiChar],
          Sep.comma hw (hw'.append hw''), hx, hat'⟩
      · simp at hok
    · split at hok
      · rename_i hfirst
        subst hfirst
        rw [exec_bind_of_ok (exec_pure _)] at hok
        split at hok
        · rename_i heq
          exact absurd (Option.some.inj heq) hne
        · obtain ⟨a, hitem, rfl⟩ := exec_map_eq_ok hok
          obtain ⟨w'', x, r, rfl, hw'', hx, hat'⟩ := hr.sound hat hitem
          exact .inr ⟨a, w ++ w'', x, r, rfl, by simp, Sep.first (hw.append hw''), hx, hat'⟩
        · simp at hok
      · obtain ⟨_, _, hfail, -⟩ := exec_bind_eq_ok hok
        simp at hfail
  · simp at hok

theorem nextItem_close {w : List Char} (hw : Ws w) (h : At b i (w ++ ']' :: r)) :
    ∃ j, (nextItem item first).exec b i = (.ok none, j) ∧ At b j (']' :: r) := by
  obtain ⟨j, hws, hat⟩ := skipWs_char hw (by decide) h
  exact ⟨j, by rw [nextItem, exec_bind_of_ok hws]; rfl, hat⟩

theorem nextItem_closed (h : At b i (']' :: r)) : (nextItem item first).exec b i = (.ok none, i) := by
  obtain ⟨j, hj, hat⟩ : ∃ j, (nextItem item first).exec b i = (.ok none, j) ∧ At b j (']' :: r) :=
    nextItem_close Ws.nil h
  rw [hj, hat.unique h]

theorem nextItem_first {c : UInt8} (hws : skipWs.exec b i = (.ok (some c), j)) (hc : c ≠ 93) :
    (nextItem item true).exec b i = (some <$> item).exec b j := by
  rw [nextItem, exec_bind_of_ok hws]
  split
  · rename_i heq
    exact absurd (Option.some.inj heq) hc
  · rename_i heq
    cases Option.some.inj heq
    simp only [Bool.not_true, Bool.and_false, Bool.false_eq_true, if_false, if_true, pure_bind]
  · contradiction

theorem nextItem_comma {c : UInt8} (hws : skipWs.exec b i = (.ok (some 44), j₁))
    (hws₂ : skipWs.exec b (j₁ + 1) = (.ok (some c), j)) (hc : c ≠ 93) :
    (nextItem item false).exec b i = (some <$> item).exec b j := by
  rw [nextItem, exec_bind_of_ok hws]
  split
  · rename_i heq
    simp at heq
  · rename_i heq
    cases Option.some.inj heq
    simp only [Bool.not_false, Bool.and_true, beq_self_eq_true, if_true, exec_bind_of_ok exec_eat,
      exec_bind_of_ok hws₂]
  · contradiction

theorem nextItem_item {u x : List Char} {a : α} (hr : Reads item P) (hu : Sep first u) (hx : P x a)
    (hafter : AfterValue r) (h : At b i (u ++ x ++ r)) :
    ∃ j, (nextItem item first).exec b i = (.ok (some a), j) ∧ At b j r := by
  obtain ⟨ch, x', rfl, hb, hc, -⟩ := (hr.value hx).head
  have hc' : leadByte ch ≠ 93 := fun he => hc (Char.toNat_inj.1 ((leadByte_eq_iff (by decide)).1 he))
  cases first with
  | true =>
    obtain ⟨j₁, hws, hat⟩ := skipWs_char hu hb (by simpa using h)
    obtain ⟨j, hj, hat'⟩ := hr.complete Ws.nil hx hafter (by simpa using hat)
    exact ⟨j, by rw [nextItem_first hws hc']; exact exec_map_of_ok hj, hat'⟩
  | false =>
    obtain ⟨w, w', rfl, hw, hw'⟩ := hu
    have hat₀ : At b i (w ++ ',' :: (w' ++ ch :: (x' ++ r))) := by simpa using h
    obtain ⟨j₁, hws, hat₁⟩ := skipWs_char hw (by decide) hat₀
    obtain ⟨j₂, hws₂, hat₂⟩ := skipWs_char hw' hb (hat₁.next (by decide))
    obtain ⟨j, hj, hat'⟩ := hr.complete Ws.nil hx hafter (by simpa using hat₂)
    exact ⟨j, by rw [nextItem_comma hws hws₂ hc']; exact exec_map_of_ok hj, hat'⟩

end NextItem

section ListItems

variable {item : Read α} {P : List Char → α → Prop}

theorem listItems_sound (hr : Reads item P) : ∀ (n : Nat) {first : Bool} {acc res : Array α}
    {i j : Nat} {cs : List Char}, At b i cs → (listItems item n first acc).exec b i = (.ok res, j) →
    ∃ as u rest, res = acc ++ as.toArray ∧ cs = u ++ rest ∧ At b j rest ∧
      ∀ w r, Ws w → ListRest ']' P first (u ++ (w ++ ']' :: r)) as r
  | 0, _, acc, res, i, j, cs, h, hok => by
    rw [listItems, exec_pure, Prod.mk.injEq, Except.ok.injEq] at hok
    obtain ⟨rfl, rfl⟩ := hok
    exact ⟨[], [], cs, by simp, rfl, h, fun w r hw => .close hw⟩
  | n + 1, first, acc, res, i, j, cs, h, hok => by
    rw [listItems] at hok
    replace hok := exec_bind_eq_ok hok
    obtain ⟨o, j₁, hnext, hok⟩ := hok
    rcases nextItem_sound hr h hnext with ⟨rfl, w, r, rfl, hw, hat⟩ |
      ⟨a, u, x, r, rfl, rfl, hu, hx, hat⟩
    · simp only [exec_pure, Prod.mk.injEq, Except.ok.injEq] at hok
      obtain ⟨rfl, rfl⟩ := hok
      exact ⟨[], w, ']' :: r, by simp, rfl, hat, fun w' r' hw' => by simpa using ListRest.close (hw.append hw')⟩
    · simp only at hok
      obtain ⟨as, u', rest, rfl, rfl, hat', hcont⟩ := listItems_sound hr n hat hok
      exact ⟨a :: as, u ++ x ++ u', rest, by simp, by simp, hat',
        fun w r' hw => by simpa using ListRest.item hu hx (hcont w r' hw)⟩

theorem listItems_complete (hr : Reads item P) : ∀ (n : Nat) (acc : Array α) {first : Bool} {i : Nat}
    {cs : List Char} {as : List α}, ListRest ']' P first cs as r → At b i cs → (utf8 cs).length < n →
    ∃ j, (listItems item n first acc).exec b i = (.ok (acc ++ as.toArray), j) ∧ At b j (']' :: r)
  | 0, _, _, _, _, _, _, _, hn => absurd hn (Nat.not_lt_zero _)
  | n + 1, acc, first, i, _, _, hrest, h, hn => by
    cases hrest with
    | close hw =>
      obtain ⟨j, hj, hat⟩ := nextItem_close hw h
      exact ⟨j, by rw [listItems, exec_bind_of_ok hj]; simp, hat⟩
    | @item _ u x t _ a as hu hx hrest =>
      obtain ⟨j₁, hj₁, hat₁⟩ := nextItem_item hr hu hx (hrest.afterValue (.inl rfl)) h
      have hfuel := fuel_after (u := []) (by simp [(hr.value hx).ne_nil]) hn
      obtain ⟨j, hj, hat⟩ := listItems_complete hr n (acc.push a) hrest hat₁ hfuel
      exact ⟨j, by rw [listItems, exec_bind_of_ok hj₁]; simpa using hj, hat⟩

end ListItems

theorem endList_sound (h : At b i cs) (hok : endList.exec b i = (.ok (), j)) :
    ∃ w r, cs = w ++ ']' :: r ∧ Ws w ∧ At b j r := by
  rw [endList] at hok
  replace hok := exec_bind_eq_ok hok
  obtain ⟨c?, j₁, hws, hok⟩ := hok
  split at hok
  · cases hok
    simpa [asciiChar] using skipWs_byte (by decide) h hws
  · obtain ⟨_, _, _, hok⟩ := exec_bind_eq_ok hok
    obtain ⟨_, _, _, hok⟩ := exec_bind_eq_ok hok
    split at hok <;> simp at hok
  · simp at hok
  · simp at hok

theorem endList_complete {w : List Char} (hw : Ws w) (h : At b i (w ++ ']' :: r)) :
    ∃ j, endList.exec b i = (.ok (), j) ∧ At b j r := by
  obtain ⟨j, hj, hat⟩ := skipWs_char hw (by decide) h
  exact ⟨j + 1, by rw [endList, exec_bind_of_ok hj]; rfl, hat.next (by decide)⟩

/-! ## Object members -/

theorem key_sound {o : Option String} (h : At b i cs) (hpeek : b[i]? = some 34)
    (hok : (do eat; pure (some (← readString))).exec b i = (.ok o, j)) :
    ∃ name k r, o = some name ∧ cs = k ++ r ∧ StringLit k name ∧ At b j r := by
  obtain ⟨cs', rfl, hat⟩ := h.peek_ascii hpeek (by decide)
  rw [exec_bind_of_ok exec_eat] at hok
  replace hok := exec_bind_eq_ok hok
  obtain ⟨name, j₁, hread, hok⟩ := hok
  simp only [exec_pure, Prod.mk.injEq, Except.ok.injEq] at hok
  obtain ⟨rfl, rfl⟩ := hok
  obtain ⟨body, chars, r, rfl, hbody, rfl, hat'⟩ := readString_sound hat hread
  exact ⟨_, '"' :: body ++ ['"'], r, rfl, by simp [asciiChar], StringLit.mk hbody, hat'⟩

theorem memberName_sound {first : Bool} {o : Option String} (h : At b i cs)
    (hok : (memberName first).exec b i = (.ok o, j)) :
    (o = none ∧ ∃ w r, cs = w ++ '}' :: r ∧ Ws w ∧ At b j ('}' :: r)) ∨
      ∃ name u k r, o = some name ∧ cs = u ++ k ++ r ∧ Sep first u ∧ StringLit k name ∧ At b j r := by
  rw [memberName] at hok
  replace hok := exec_bind_eq_ok hok
  obtain ⟨c?, j₁, hws, hok⟩ := hok
  obtain ⟨w, rest, rfl, hw, hat, hpeek⟩ := skipWs_sound h hws
  split at hok
  · simp only [exec_pure, Prod.mk.injEq, Except.ok.injEq] at hok
    obtain ⟨rfl, rfl⟩ := hok
    obtain ⟨r, rfl, -⟩ := hat.peek_ascii hpeek (by decide)
    exact .inl ⟨rfl, w, r, rfl, hw, hat⟩
  · rename_i c hne
    simp only at hok
    split at hok
    · rename_i hcomma
      obtain ⟨rfl, rfl⟩ : c = 44 ∧ first = false := by simpa using hcomma
      obtain ⟨rest₁, rfl, hat₁⟩ := hat.peek_ascii hpeek (by decide)
      rw [exec_bind_of_ok exec_eat] at hok
      replace hok := exec_bind_eq_ok hok
      obtain ⟨c₂?, j₂, hws₂, hok⟩ := hok
      obtain ⟨w', rest₂, rfl, hw', hat₂, hpeek₂⟩ := skipWs_sound hat₁ hws₂
      split at hok
      · obtain ⟨name, k, r, rfl, rfl, hk, hat'⟩ := key_sound hat₂ hpeek₂ hok
        exact .inr ⟨name, w ++ ',' :: w', k, r, rfl, by simp [asciiChar], Sep.comma hw hw', hk, hat'⟩
      all_goals simp at hok
    · split at hok
      · rename_i hfirst
        subst hfirst
        rw [exec_bind_of_ok (exec_pure _)] at hok
        split at hok
        · rename_i heq
          cases Option.some.inj heq
          obtain ⟨name, k, r, rfl, rfl, hk, hat'⟩ := key_sound hat hpeek hok
          exact .inr ⟨name, w, k, r, rfl, by simp, Sep.first hw, hk, hat'⟩
        all_goals simp at hok
      · obtain ⟨_, _, hfail, -⟩ := exec_bind_eq_ok hok
        simp at hfail
  · simp at hok

theorem memberName_close {first : Bool} {w : List Char} (hw : Ws w) (h : At b i (w ++ '}' :: r)) :
    ∃ j, (memberName first).exec b i = (.ok none, j) ∧ At b j ('}' :: r) := by
  obtain ⟨j, hws, hat⟩ := skipWs_char hw (by decide) h
  exact ⟨j, by rw [memberName, exec_bind_of_ok hws]; rfl, hat⟩

theorem key_complete {k : List Char} {name : String} (hk : StringLit k name) (h : At b i (k ++ r)) :
    ∃ j, (do eat; pure (some (← readString))).exec b i = (.ok (some name), j) ∧ At b j r := by
  cases hk with
  | @mk body chars hbody =>
    have hat : At b (i + 1) (body ++ '"' :: r) := by simpa using h.next (by decide)
    obtain ⟨j, hj, hat'⟩ := readString_complete hbody hat
    exact ⟨j, by rw [exec_bind_of_ok exec_eat, exec_bind_of_ok hj]; rfl, hat'⟩

theorem memberName_first (hws : skipWs.exec b i = (.ok (some 34), j)) :
    (memberName true).exec b i = (do eat; pure (some (← readString))).exec b j := by
  rw [memberName, exec_bind_of_ok hws]
  rfl

theorem memberName_comma (hws : skipWs.exec b i = (.ok (some 44), j₁))
    (hws₂ : skipWs.exec b (j₁ + 1) = (.ok (some 34), j)) :
    (memberName false).exec b i = (do eat; pure (some (← readString))).exec b j := by
  rw [memberName, exec_bind_of_ok hws]
  split
  · rename_i heq
    simp at heq
  · rename_i heq
    cases Option.some.inj heq
    simp only [Bool.not_false, Bool.and_true, beq_self_eq_true, if_true, exec_bind_of_ok exec_eat,
      exec_bind_of_ok hws₂]
  · contradiction

theorem memberName_key {first : Bool} {u k : List Char} {name : String} (hu : Sep first u)
    (hk : StringLit k name) (h : At b i (u ++ k ++ r)) :
    ∃ j, (memberName first).exec b i = (.ok (some name), j) ∧ At b j r := by
  have hq : ∃ k', k = '"' :: k' := by cases hk; exact ⟨_, rfl⟩
  obtain ⟨k', rfl⟩ := hq
  cases first with
  | true =>
    have hat₀ : At b i (u ++ '"' :: (k' ++ r)) := by simpa using h
    obtain ⟨j₁, hws, hat⟩ := skipWs_char hu (by decide) hat₀
    obtain ⟨j, hj, hat'⟩ := key_complete hk hat
    exact ⟨j, by rw [memberName_first hws]; exact hj, hat'⟩
  | false =>
    obtain ⟨w, w', rfl, hw, hw'⟩ := hu
    have hat₀ : At b i (w ++ ',' :: (w' ++ '"' :: (k' ++ r))) := by simpa using h
    obtain ⟨j₁, hws, hat₁⟩ := skipWs_char hw (by decide) hat₀
    obtain ⟨j₂, hws₂, hat₂⟩ := skipWs_char hw' (by decide) (hat₁.next (by decide))
    obtain ⟨j, hj, hat'⟩ := key_complete hk hat₂
    exact ⟨j, by rw [memberName_comma hws hws₂]; exact hj, hat'⟩

theorem endObject_sound (h : At b i cs) (hok : endObject.exec b i = (.ok (), j)) :
    ∃ w r, cs = w ++ '}' :: r ∧ Ws w ∧ At b j r := by
  rw [endObject] at hok
  replace hok := exec_bind_eq_ok hok
  obtain ⟨c?, j₁, hws, hok⟩ := hok
  split at hok
  · cases hok
    simpa [asciiChar] using skipWs_byte (by decide) h hws
  all_goals simp at hok

theorem endObject_complete {w : List Char} (hw : Ws w) (h : At b i (w ++ '}' :: r)) :
    ∃ j, endObject.exec b i = (.ok (), j) ∧ At b j r := by
  obtain ⟨j, hj, hat⟩ := skipWs_char hw (by decide) h
  exact ⟨j + 1, by rw [endObject, exec_bind_of_ok hj]; rfl, hat.next (by decide)⟩

end ScriptBridge.Json
