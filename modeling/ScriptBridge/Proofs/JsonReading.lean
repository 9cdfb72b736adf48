import ScriptBridge.Proofs.JsonGrammar

/-!
# Reading JSON text byte by byte

The reader takes the UTF-8 bytes of a text one at a time, while the grammar is written over the
text's characters. The two are tied by `At b i cs`: the bytes of `b` from index `i` on are the
encoding of the characters `cs`. Every byte the reader compares against is an ASCII byte, which
is one character on its own; every byte of a wider character is at least `128`, so the reader
passes over such a character whole, byte after byte, wherever it takes one.

Here stand the run of a reader (`Read.exec`) and its laws, the encoding and `At`, and the leaves
of the grammar that need no more: whitespace, the literals and the end of the text.
-/

namespace ScriptBridge.Json

open Grammar

def Read.exec {α : Type} (x : Read α) (b : ByteArray) (i : Nat) : Except Error α × Nat :=
  ((ReaderT.run x b).run).run i

theorem Read.run_eq_exec {α : Type} (x : Read α) (t : String) : x.run t = (x.exec t.toUTF8 0).1 := rfl

section Exec

variable {α β : Type} {b : ByteArray} {i j k : Nat}

@[simp] theorem exec_pure (a : α) : (pure a : Read α).exec b i = (.ok a, i) := rfl

theorem exec_bind_of_ok {x : Read α} {f : α → Read β} {a : α} (h : x.exec b i = (.ok a, j)) :
    (x >>= f).exec b i = (f a).exec b j := by
  unfold Read.exec at *
  simp only [ReaderT.run_bind, ExceptT.run_bind, StateT.run_bind]
  rw [h]
  rfl

theorem exec_bind_of_error {x : Read α} {f : α → Read β} {e : Error} (h : x.exec b i = (.error e, j)) :
    (x >>= f).exec b i = (.error e, j) := by
  unfold Read.exec at *
  simp only [ReaderT.run_bind, ExceptT.run_bind, StateT.run_bind]
  rw [h]
  rfl

theorem exec_bind_eq_ok {x : Read α} {f : α → Read β} {v : β} (h : (x >>= f).exec b i = (.ok v, k)) :
    ∃ a j, x.exec b i = (.ok a, j) ∧ (f a).exec b j = (.ok v, k) := by
  rcases hx : x.exec b i with ⟨_ | a, j⟩
  · rw [exec_bind_of_error hx] at h
    cases h
  · exact ⟨a, j, rfl, by rwa [exec_bind_of_ok hx] at h⟩

theorem exec_map_eq_ok {x : Read α} {f : α → β} {v : β} (h : (f <$> x).exec b i = (.ok v, k)) :
    ∃ a, x.exec b i = (.ok a, k) ∧ v = f a := by
  rcases hx : x.exec b i with ⟨_ | a, j⟩
  · have : (f <$> x).exec b i = (.error ‹_›, j) := by
      rw [← bind_pure_comp]
      exact exec_bind_of_error hx
    rw [this] at h
    cases h
  · have : (f <$> x).exec b i = (.ok (f a), j) := by
      rw [← bind_pure_comp]
      exact exec_bind_of_ok hx
    rw [this] at h
    cases h
    exact ⟨a, rfl, rfl⟩

theorem exec_map_of_ok {x : Read α} {f : α → β} {a : α} (h : x.exec b i = (.ok a, j)) :
    (f <$> x).exec b i = (.ok (f a), j) := by
  rw [← bind_pure_comp]
  exact exec_bind_of_ok h

@[simp] theorem exec_peek : peek?.exec b i = (.ok b[i]?, i) := rfl

@[simp] theorem exec_eat : eat.exec b i = (.ok (), i + 1) := rfl

@[simp] theorem exec_budget : budget.exec b i = (.ok (b.size + 1 - i), i) := rfl

@[simp] theorem exec_throw (e : Error) : (throw e : Read α).exec b i = (.error e, i) := rfl

@[simp] theorem exec_failAt (p : Nat) (c : Code) :
    (failAt p c : Read α).exec b i = (.error ⟨.code c, some (placeOf b p)⟩, i) := rfl

@[simp] theorem exec_fail (c : Code) :
    (fail c : Read α).exec b i = (.error ⟨.code c, some (placeOf b i)⟩, i) := rfl

@[simp] theorem exec_failPeek (c : Code) :
    (failPeek c : Read α).exec b i = (.error ⟨.code c, some (placeOf b (min b.size (i + 1)))⟩, i) := rfl

@[simp] theorem exec_problem (p : Problem) : (problem p : Read α).exec b i = (.error ⟨p, none⟩, i) := rfl

theorem exec_tryCatch (x : Read α) (f : Error → Read α) :
    (tryCatch x f).exec b i = Except.casesOn (motive := fun _ => Except Error α × Nat) (x.exec b i).1
      (fun e => (f e).exec b (x.exec b i).2) (fun a => (.ok a, (x.exec b i).2)) := by
  unfold Read.exec
  simp only [tryCatch, MonadExcept.tryCatch, MonadExceptOf.tryCatch, tryCatchThe, ReaderT.run]
  simp only [ExceptT.tryCatch, ExceptT.run, ExceptT.mk, StateT.run, bind, StateT.bind]
  rcases x b i with ⟨_ | a, j⟩ <;> rfl

theorem exec_tryCatch_of_ok {x : Read α} {f : Error → Read α} {a : α} (h : x.exec b i = (.ok a, j)) :
    (tryCatch x f).exec b i = (.ok a, j) := by
  rw [exec_tryCatch, h]

theorem exec_tryCatch_of_error {x : Read α} {f : Error → Read α} {e : Error}
    (h : x.exec b i = (.error e, j)) : (tryCatch x f).exec b i = (f e).exec b j := by
  rw [exec_tryCatch, h]

theorem exec_placed_of_ok {x : Read α} {a : α} (h : x.exec b i = (.ok a, j)) :
    (placed x).exec b i = (.ok a, j) :=
  exec_tryCatch_of_ok h

theorem exec_placed_eq_ok {x : Read α} {a : α} (h : (placed x).exec b i = (.ok a, j)) :
    x.exec b i = (.ok a, j) := by
  rcases hx : x.exec b i with ⟨_ | a', j'⟩
  · rw [placed, exec_tryCatch_of_error hx] at h
    rename_i e
    rcases e with ⟨p, _ | pl⟩ <;> cases h
  · rw [exec_placed_of_ok hx] at h
    exact h

end Exec

/-! ## Characters as bytes -/

def utf8 (cs : List Char) : List UInt8 := cs.flatMap String.utf8EncodeChar

@[simp] theorem utf8_nil : utf8 [] = [] := rfl

theorem utf8_cons (c : Char) (cs : List Char) : utf8 (c :: cs) = String.utf8EncodeChar c ++ utf8 cs :=
  List.flatMap_cons

@[simp] theorem utf8_append (cs cs' : List Char) : utf8 (cs ++ cs') = utf8 cs ++ utf8 cs' :=
  List.flatMap_append

theorem utf8EncodeChar_of_lt {c : Char} (h : c.toNat < 128) :
    String.utf8EncodeChar c = [c.toNat.toUInt8] := by
  have hc : c.val.toNat ≤ 127 := by change c.toNat ≤ 127; omega
  simp only [String.utf8EncodeChar, if_pos hc]
  rfl

theorem le_of_mem_utf8EncodeChar {c : Char} (h : 128 ≤ c.toNat) :
    ∀ x ∈ String.utf8EncodeChar c, 128 ≤ x.toNat := by
  have hc : 128 ≤ c.val.toNat := h
  simp only [String.utf8EncodeChar, if_neg (show ¬c.val.toNat ≤ 127 by omega)]
  intro x hx
  repeat' split at hx
  all_goals
    simp only [List.mem_cons, List.not_mem_nil, or_false] at hx
    rcases hx with rfl | rfl | rfl | rfl <;> simp only [UInt8.toNat_ofNat'] <;> omega

theorem utf8_cons_of_lt {c : Char} (h : c.toNat < 128) (cs : List Char) :
    utf8 (c :: cs) = c.toNat.toUInt8 :: utf8 cs := by
  rw [utf8_cons, utf8EncodeChar_of_lt h]
  rfl

def leadByte (c : Char) : UInt8 := (String.utf8EncodeChar c).headD 0

theorem head?_utf8_cons (c : Char) (cs : List Char) : (utf8 (c :: cs)).head? = some (leadByte c) := by
  rw [utf8_cons, leadByte]
  cases h : String.utf8EncodeChar c with
  | nil => exact absurd h String.utf8EncodeChar_ne_nil
  | cons x xs => rfl

theorem leadByte_of_lt {c : Char} (h : c.toNat < 128) : leadByte c = c.toNat.toUInt8 := by
  rw [leadByte, utf8EncodeChar_of_lt h]
  rfl

theorem le_leadByte {c : Char} (h : 128 ≤ c.toNat) : 128 ≤ (leadByte c).toNat := by
  rw [leadByte]
  cases hc : String.utf8EncodeChar c with
  | nil => exact absurd hc String.utf8EncodeChar_ne_nil
  | cons x xs => exact le_of_mem_utf8EncodeChar h x (by rw [hc]; exact List.mem_cons_self)

theorem leadByte_eq_iff {c : Char} {v : UInt8} (hv : v.toNat < 128) : leadByte c = v ↔ c.toNat = v.toNat := by
  constructor
  · intro h
    by_cases hc : c.toNat < 128
    · rw [leadByte_of_lt hc] at h
      rw [← h, Nat.toUInt8, UInt8.toNat_ofNat']
      omega
    · have := le_leadByte (c := c) (by omega)
      rw [h] at this
      omega
  · intro h
    rw [leadByte_of_lt (by omega), h]
    exact UInt8.toNat_inj.1 (by rw [Nat.toUInt8, UInt8.toNat_ofNat']; omega)

/-! ## Where reading stands -/

/-- Reading stands at index `i` of `b`, and the bytes from there on encode the characters `cs`. -/
structure At (b : ByteArray) (i : Nat) (cs : List Char) : Prop where
  drop_eq : b.data.toList.drop i = utf8 cs
  le_size : i ≤ b.size

variable {b : ByteArray} {i j : Nat} {cs cs' : List Char} {c : Char}

theorem At.start (t : String) : At t.toUTF8 0 t.toList := by
  refine ⟨?_, Nat.zero_le _⟩
  rw [List.drop_zero, utf8, String.toUTF8_eq_toByteArray, ← String.utf8Encode_toList]
  exact List.toList_data_toByteArray

theorem At.getElem?_eq (h : At b i cs) : b[i]? = (utf8 cs).head? := by
  rw [← h.drop_eq, List.head?_drop]
  simp only [getElem?_def]
  rfl

theorem At.size_sub (h : At b i cs) : b.size - i = (utf8 cs).length := by
  rw [← h.drop_eq, List.length_drop, Array.length_toList]
  rfl

theorem At.budget (h : At b i cs) : b.size + 1 - i = (utf8 cs).length + 1 := by
  have := h.size_sub
  have := h.le_size
  omega

theorem At.unique (h : At b i cs) (h' : At b j cs) : i = j := by
  have := h.size_sub
  have := h'.size_sub
  have := h.le_size
  have := h'.le_size
  omega

theorem At.drop (h : At b i (cs ++ cs')) : At b (i + (utf8 cs).length) cs' := by
  have hd := h.drop_eq
  refine ⟨?_, ?_⟩
  · rw [← List.drop_drop, hd, utf8_append, List.drop_left]
  · have hs := h.size_sub
    have hle := h.le_size
    rw [utf8_append, List.length_append] at hs
    omega

theorem At.next (h : At b i (c :: cs)) (hc : c.toNat < 128) : At b (i + 1) cs := by
  have h' : At b i ([c] ++ cs) := h
  have := h'.drop
  rwa [utf8_cons_of_lt hc] at this

theorem At.peek_cons (h : At b i (c :: cs)) : b[i]? = some (leadByte c) := by
  rw [h.getElem?_eq, head?_utf8_cons]

theorem At.peek_nil (h : At b i []) : b[i]? = none := by
  rw [h.getElem?_eq]
  rfl

theorem At.of_peek (h : At b i cs) {v : UInt8} (hv : b[i]? = some v) (hlt : v.toNat < 128) :
    ∃ c cs', cs = c :: cs' ∧ c.toNat = v.toNat ∧ At b (i + 1) cs' := by
  cases cs with
  | nil => rw [h.peek_nil] at hv; cases hv
  | cons c cs' =>
    rw [h.peek_cons, Option.some.injEq] at hv
    have hc : c.toNat = v.toNat := (leadByte_eq_iff hlt).1 hv
    exact ⟨c, cs', rfl, hc, h.next (by omega)⟩

/-! ## Whitespace -/

def trim (cs : List Char) : List Char := cs.dropWhile fun c => decide (Blank c)

theorem Blank.toNat_lt (h : Blank c) : c.toNat < 128 := by
  rcases h with rfl | rfl | rfl | rfl <;> decide

theorem byteTest_leadByte {p : UInt8 → Bool} {P : Char → Prop} [DecidablePred P]
    (hlow : ∀ n, n < 128 → p n.toUInt8 = decide (P (Char.ofNat n)))
    (hhigh : ∀ n, n < 256 → 128 ≤ n → p n.toUInt8 = false) (hP : ∀ c, P c → c.toNat < 128)
    (c : Char) : p (leadByte c) = decide (P c) := by
  by_cases hc : c.toNat < 128
  · rw [leadByte_of_lt hc, hlow _ hc, Char.ofNat_toNat]
  · have h₁ := le_leadByte (c := c) (by omega)
    have h₂ : ¬P c := fun hp => hc (hP c hp)
    rw [decide_eq_false h₂, ← UInt8.ofNat_toNat (x := leadByte c)]
    exact hhigh _ (UInt8.toNat_lt _) h₁

theorem isBlank_leadByte (c : Char) : isBlank (leadByte c) = decide (Blank c) :=
  byteTest_leadByte (by decide +kernel) (by decide +kernel) (fun _ h => Blank.toNat_lt h) c

theorem skipBlanks_exec (n : Nat) (h : At b i cs) (hn : (utf8 cs).length < n) :
    ∃ j, (skipBlanks n).exec b i = (.ok (utf8 (trim cs)).head?, j) ∧ At b j (trim cs) := by
  induction cs generalizing n i with
  | nil =>
    obtain ⟨n, rfl⟩ : ∃ m, n = m + 1 := ⟨n - 1, by simp at hn; omega⟩
    refine ⟨i, ?_, h⟩
    rw [skipBlanks, exec_bind_of_ok (exec_peek), h.peek_nil]
    rfl
  | cons c cs ih =>
    obtain ⟨n, rfl⟩ : ∃ m, n = m + 1 := ⟨n - 1, by rw [utf8_cons] at hn; simp at hn; omega⟩
    rw [skipBlanks, exec_bind_of_ok (exec_peek), h.peek_cons]
    by_cases hb : Blank c
    · have hlt := Blank.toNat_lt hb
      have hn' : (utf8 cs).length < n := by rw [utf8_cons_of_lt hlt] at hn; simp at hn; omega
      obtain ⟨j, hj, hat⟩ := ih n (h.next hlt) hn'
      have htrim : trim (c :: cs) = trim cs := by simp [trim, hb]
      refine ⟨j, ?_, htrim ▸ hat⟩
      simp only [isBlank_leadByte, hb, decide_true, if_true]
      rw [exec_bind_of_ok exec_eat, hj, htrim]
    · have htrim : trim (c :: cs) = c :: cs := by simp [trim, hb]
      refine ⟨i, ?_, by rw [htrim]; exact h⟩
      simp only [isBlank_leadByte, hb, decide_false, Bool.false_eq_true, if_false, htrim,
        head?_utf8_cons]
      rfl

theorem skipWs_exec (h : At b i cs) :
    ∃ j, skipWs.exec b i = (.ok (utf8 (trim cs)).head?, j) ∧ At b j (trim cs) := by
  rw [skipWs, exec_bind_of_ok exec_budget, h.budget]
  exact skipBlanks_exec _ h (Nat.lt_succ_self _)

theorem of_mem_takeWhile {P : Char → Prop} [DecidablePred P] {l : List Char} :
    ∀ x ∈ l.takeWhile (fun c => decide (P c)), P x := by
  intro c hc
  simpa using List.all_eq_true.1 List.all_takeWhile c hc

theorem trim_spec (cs : List Char) : ∃ w, cs = w ++ trim cs ∧ Ws w :=
  ⟨_, List.takeWhile_append_dropWhile.symm, of_mem_takeWhile⟩

theorem trim_append {w r : List Char} (hw : Ws w) (hr : ∀ c ∈ r.head?, ¬Blank c) : trim (w ++ r) = r := by
  induction w with
  | nil =>
    cases r with
    | nil => rfl
    | cons c r => simp [trim, hr c rfl]
  | cons c w ih =>
    have hc : Blank c := hw c List.mem_cons_self
    simp only [trim, List.cons_append, List.dropWhile_cons, hc, decide_true]
    exact ih fun c hc => hw c (List.mem_cons_of_mem _ hc)

/-! ## Literals and the end -/

theorem At.next?_exec (h : At b i (c :: cs)) : next?.exec b i = (.ok (some (leadByte c)), i + 1) := by
  rw [next?, exec_bind_of_ok exec_peek, h.peek_cons]
  exact exec_bind_of_ok exec_eat

theorem At.next?_nil (h : At b i []) : next?.exec b i = (.ok none, i) := by
  rw [next?, exec_bind_of_ok exec_peek, h.peek_nil]
  rfl

theorem toNat_ofNat_of_isValidChar {n : Nat} (hn : n.isValidChar) : (Char.ofNat n).toNat = n := by
  rw [Char.ofNat, dif_pos hn]
  rfl

def asciiChar (v : UInt8) : Char := Char.ofNat v.toNat

theorem toNat_asciiChar {v : UInt8} (hv : v.toNat < 128) : (asciiChar v).toNat = v.toNat :=
  toNat_ofNat_of_isValidChar (Or.inl (by omega))

theorem leadByte_asciiChar {v : UInt8} (hv : v.toNat < 128) : leadByte (asciiChar v) = v := by
  exact (leadByte_eq_iff hv).2 (toNat_asciiChar hv)

theorem At.of_next? (h : At b i cs) {v : UInt8} (hv : next?.exec b i = (.ok (some v), j)) (hlt : v.toNat < 128) :
    ∃ cs', cs = asciiChar v :: cs' ∧ j = i + 1 ∧ At b j cs' := by
  cases cs with
  | nil => rw [h.next?_nil] at hv; cases hv
  | cons c cs' =>
    rw [h.next?_exec] at hv
    cases hv
    have hc : c.toNat = (leadByte c).toNat := (leadByte_eq_iff hlt).1 rfl
    have hcv : c = asciiChar (leadByte c) := by
      rw [← Char.toNat_inj, hc, toNat_asciiChar (by omega)]
    exact ⟨cs', by rw [← hcv], rfl, h.next (by omega)⟩

theorem expectIdent_complete {l : List UInt8} (hl : ∀ v ∈ l, v.toNat < 128) {r : List Char}
    (h : At b i (l.map asciiChar ++ r)) : ∃ j, (expectIdent l).exec b i = (.ok (), j) ∧ At b j r := by
  induction l generalizing i with
  | nil => exact ⟨i, rfl, h⟩
  | cons v l ih =>
    have hv := hl v List.mem_cons_self
    have hnext : next?.exec b i = (.ok (some v), i + 1) := by
      rw [List.map_cons, List.cons_append] at h
      rw [h.next?_exec, leadByte_asciiChar hv]
    have h' : At b (i + 1) (l.map asciiChar ++ r) := by
      rw [List.map_cons, List.cons_append] at h
      exact h.next (by rw [toNat_asciiChar hv]; exact hv)
    obtain ⟨j, hj, hat⟩ := ih (fun v hv => hl v (List.mem_cons_of_mem _ hv)) h'
    refine ⟨j, ?_, hat⟩
    rw [expectIdent, exec_bind_of_ok hnext]
    simpa using hj

theorem expectIdent_sound {l : List UInt8} (hl : ∀ v ∈ l, v.toNat < 128) (h : At b i cs)
    (hx : (expectIdent l).exec b i = (.ok (), j)) : ∃ r, cs = l.map asciiChar ++ r ∧ At b j r := by
  induction l generalizing i cs with
  | nil =>
    cases hx
    exact ⟨cs, rfl, h⟩
  | cons v l ih =>
    rw [expectIdent] at hx
    obtain ⟨d, k, hd, hx⟩ := exec_bind_eq_ok hx
    cases d with
    | none => simp at hx
    | some d =>
      by_cases hdv : d = v
      · subst hdv
        obtain ⟨cs', rfl, rfl, hat⟩ := h.of_next? hd (hl d List.mem_cons_self)
        simp only [beq_self_eq_true, if_true] at hx
        obtain ⟨r, rfl, hr⟩ := ih (fun v hv => hl v (List.mem_cons_of_mem _ hv)) hat hx
        exact ⟨r, rfl, hr⟩
      · simp [hdv] at hx

theorem finish_exec_ok_iff (h : At b i cs) : (∃ j, finish.exec b i = (.ok (), j)) ↔ Ws cs := by
  obtain ⟨j, hj, hat⟩ := skipWs_exec h
  obtain ⟨w, hcs, hw⟩ := trim_spec cs
  rw [finish]
  constructor
  · rintro ⟨k, hk⟩
    rw [exec_bind_of_ok hj] at hk
    cases ht : trim cs with
    | nil => rw [hcs, ht, List.append_nil]; exact hw
    | cons c r => rw [ht, head?_utf8_cons] at hk; simp at hk
  · intro hws
    have ht : trim cs = [] := by
      have := trim_append (r := []) hws (by simp)
      rwa [List.append_nil] at this
    exact ⟨j, by rw [exec_bind_of_ok hj, ht]; rfl⟩

end ScriptBridge.Json
