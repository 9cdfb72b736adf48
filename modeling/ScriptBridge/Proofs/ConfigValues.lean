import ScriptBridge.Proofs.JsonLists
import ScriptBridge.Proofs.ConfigGrammar
import ScriptBridge.Config.Decode

/-!
# The values of a configuration's settings

Each setting's value is read by its own reader: a limit by `decodeOption (decodeLimit _)`, a
flag by `decodeFlag`, the scripts by `decodePaths`. Each is a `Reads` of the grammar of that
value in `ConfigGrammar`: it takes exactly whitespace and a text of that grammar and returns what
the text says. A value of another kind is read only to name it in an error (`foundInstead`),
which never succeeds.

Both shapes of a configuration read a field with the same reader; `Field.slot` gives it, with the
setting it makes, and `Field.slot_reads` says what it takes.
-/

namespace ScriptBridge.Config

open ScriptBridge.Json ScriptBridge.Json.Grammar

variable {b : ByteArray} {i j : Nat} {cs r : List Char} {α : Type}

/-! ## The start of a value -/

theorem valueStart_sound {c : UInt8} (h : At b i cs) (hok : valueStart.exec b i = (.ok c, j)) :
    ∃ w rest, cs = w ++ rest ∧ Ws w ∧ At b j rest ∧ b[j]? = some c := by
  rw [valueStart] at hok
  replace hok := exec_bind_eq_ok hok
  obtain ⟨c?, j₁, hws, hok⟩ := hok
  rcases c? with _ | c'
  · simp at hok
  · simp only [exec_pure, Prod.mk.injEq, Except.ok.injEq] at hok
    obtain ⟨rfl, rfl⟩ := hok
    exact skipWs_sound h hws

theorem valueStart_char {w : List Char} {ch : Char} (hw : Ws w) (hch : ¬Blank ch)
    (h : At b i (w ++ ch :: r)) : ∃ j, valueStart.exec b i = (.ok (leadByte ch), j) ∧ At b j (ch :: r) := by
  obtain ⟨j, hws, hat⟩ := skipWs_char hw hch h
  exact ⟨j, by rw [valueStart, exec_bind_of_ok hws]; rfl, hat⟩

def NeverOk (x : Read α) : Prop := ∀ (b : ByteArray) (i : Nat) (a : α) (j : Nat), x.exec b i ≠ (.ok a, j)

theorem NeverOk.problem (p : Problem) : NeverOk (problem p : Read α) := by
  intro b i a j h
  rw [exec_problem] at h
  cases h

theorem NeverOk.failPeek (c : Code) : NeverOk (failPeek c : Read α) := by
  intro b i a j h
  rw [exec_failPeek] at h
  cases h

theorem NeverOk.bind {β : Type} {x : Read β} {f : β → Read α} (hf : ∀ v, NeverOk (f v)) :
    NeverOk (x >>= f) := by
  intro b i a j h
  obtain ⟨v, k, -, h⟩ := exec_bind_eq_ok h
  exact hf v b k a j h

theorem foundInstead_ne_ok {expected : String} {a : α} :
    (foundInstead expected : Read α).exec b i ≠ (.ok a, j) := by
  suffices h : NeverOk (foundInstead expected : Read α) from h b i a j
  unfold foundInstead
  refine .bind fun c? => ?_
  split
  · split
    · exact .bind fun _ => .bind fun _ => .problem _
    split
    · exact .bind fun _ => .bind fun _ => .problem _
    split
    · exact .bind fun _ => .bind fun _ => .problem _
    split
    · exact .bind fun _ => .bind fun v => by rcases v with ⟨n, _⟩; exact .problem _
    split
    · exact .bind fun _ => .bind fun _ => .problem _
    split
    · exact .problem _
    split
    · exact .problem _
    · exact .failPeek _
  · exact .failPeek _

/-! ## Limits -/

def Natural (x : List Char) (n : UInt64) : Prop :=
  IntPart x ∧ digitsValue x < 2 ^ 64 ∧ n = (digitsValue x).toUInt64

theorem decodeLimit_sound {expected : String} {n : UInt64} (h : At b i cs)
    (hok : (decodeLimit expected).exec b i = (.ok n, j)) :
    ∃ w x r, cs = w ++ x ++ r ∧ Ws w ∧ Natural x n ∧ At b j r := by
  rw [decodeLimit] at hok
  replace hok := exec_bind_eq_ok hok
  obtain ⟨c, j₁, hstart, hok⟩ := hok
  obtain ⟨w, rest, rfl, hw, hat, hpeek⟩ := valueStart_sound h hstart
  replace hok := exec_placed_eq_ok hok
  split at hok
  · replace hok := exec_bind_eq_ok hok
    obtain ⟨⟨⟩, j₂, hsign, hok⟩ := hok
    replace hok := exec_bind_eq_ok hok
    obtain ⟨⟨num, y⟩, j₃, hnum, hok⟩ := hok
    cases num with
    | unsigned k =>
      simp only [exec_pure, Prod.mk.injEq, Except.ok.injEq] at hok
      obtain ⟨rfl, rfl⟩ := hok
      by_cases hc : c = 45
      · subst hc
        obtain ⟨rest', rfl, hat'⟩ := hat.peek_ascii hpeek (by decide)
        simp only [beq_self_eq_true, if_true, exec_eat, Prod.mk.injEq] at hsign
        obtain ⟨-, rfl⟩ := hsign
        exact absurd (readNumber_unsigned hat' hnum).1 (by decide)
      · simp only [hc, beq_iff_eq, if_false, exec_pure, Prod.mk.injEq] at hsign
        obtain ⟨-, rfl⟩ := hsign
        obtain ⟨-, p, r, rfl, hp, rfl, hk, hat'⟩ := readNumber_unsigned hat hnum
        exact ⟨w, p, r, by simp, hw, ⟨hp, by unfold wordMax at hk; omega, rfl⟩, hat'⟩
    | signed k => simp at hok
    | float x => simp at hok
  · exact absurd hok foundInstead_ne_ok

theorem decodeLimit_complete {expected : String} {w x : List Char} {n : UInt64} (hw : Ws w)
    (hx : Natural x n) (hr : AfterValue r) (h : At b i (w ++ x ++ r)) :
    ∃ j, (decodeLimit expected).exec b i = (.ok n, j) ∧ At b j r := by
  obtain ⟨hp, hlt, rfl⟩ := hx
  obtain ⟨d, x', rfl, hd⟩ := hp.head
  have hat₀ : At b i (w ++ d :: (x' ++ r)) := by simpa using h
  obtain ⟨j₁, hstart, hat⟩ := valueStart_char hw hd.not_blank hat₀
  obtain ⟨j, y, hnum, hat'⟩ := readNumber_natural hp (by unfold wordMax; omega) hr hat
  have hminus : (leadByte d == 45) = false :=
    leadByte_beq_of_ne (by decide) (by have := hd.toNat_mem; show d.toNat ≠ 45; omega)
  have hdigit : isDigit (leadByte d) = true := by rw [isDigit_leadByte]; exact decide_eq_true hd
  refine ⟨j, ?_, hat'⟩
  rw [decodeLimit, exec_bind_of_ok hstart]
  apply exec_placed_of_ok
  simp only [hminus, hdigit, Bool.false_or, if_true, Bool.false_eq_true, if_false, bne, Bool.not_false,
    exec_bind_of_ok (exec_pure ()), exec_bind_of_ok hnum]
  rfl

theorem decodeLimit_reads (expected : String) : Reads (decodeLimit expected) Natural where
  value hx := .number (by simpa using Number.mk (s := []) (.inl rfl) hx.1 .none .none)
  sound := decodeLimit_sound
  complete := decodeLimit_complete

/-! ## `null` or a value -/

theorem literalAs_sound {c : UInt8} {l : List UInt8} {a a' : α} (hl : ∀ u ∈ c :: l, u.toNat < 128)
    (h : At b i cs) (hpeek : b[i]? = some c)
    (hok : (do eat; expectIdent l; pure a : Read α).exec b i = (.ok a', j)) :
    a' = a ∧ ∃ r, cs = (c :: l).map asciiChar ++ r ∧ At b j r := by
  rw [← bind_assoc] at hok
  replace hok := exec_bind_eq_ok hok
  obtain ⟨⟨⟩, j₁, hlit, hok⟩ := hok
  simp only [exec_pure, Prod.mk.injEq, Except.ok.injEq] at hok
  obtain ⟨rfl, rfl⟩ := hok
  exact ⟨rfl, literal_sound hl h hpeek hlit⟩

theorem literalAs_complete {c : UInt8} {l : List UInt8} {a : α} (hl : ∀ u ∈ c :: l, u.toNat < 128)
    (h : At b i ((c :: l).map asciiChar ++ r)) :
    ∃ j, (do eat; expectIdent l; pure a : Read α).exec b i = (.ok a, j) ∧ At b j r := by
  obtain ⟨j, hj, hat⟩ := literal_complete hl h
  exact ⟨j, by rw [← bind_assoc, exec_bind_of_ok hj]; rfl, hat⟩

def OrNull (P : List Char → α → Prop) (x : List Char) : Option α → Prop
  | none => x = ['n', 'u', 'l', 'l']
  | some a => P x a

section DecodeOption

variable {inner : Read α} {P : List Char → α → Prop}

theorem decodeOption_sound {o : Option α} (hr : Reads inner P) (h : At b i cs)
    (hok : (decodeOption inner).exec b i = (.ok o, j)) :
    ∃ w x r, cs = w ++ x ++ r ∧ Ws w ∧ OrNull P x o ∧ At b j r := by
  rw [decodeOption] at hok
  replace hok := exec_bind_eq_ok hok
  obtain ⟨c?, j₁, hws, hok⟩ := hok
  obtain ⟨w, rest, rfl, hw, hat, hpeek⟩ := skipWs_sound h hws
  split at hok
  · rename_i hc
    rw [beq_iff_eq] at hc
    subst hc
    obtain ⟨rfl, r, rfl, hr'⟩ := literalAs_sound (by decide +kernel) hat hpeek hok
    exact ⟨w, ['n', 'u', 'l', 'l'], r, by simp [asciiChar], hw, rfl, hr'⟩
  · obtain ⟨a, hinner, rfl⟩ := exec_map_eq_ok hok
    obtain ⟨w', x, r, rfl, hw', hx, hat'⟩ := hr.sound hat hinner
    exact ⟨w ++ w', x, r, by simp, hw.append hw', hx, hat'⟩

theorem decodeOption_complete (hr : Reads inner P) (hn : ∀ {x a}, P x a → x.head? ≠ some 'n')
    {w x : List Char} {o : Option α} (hw : Ws w) (hx : OrNull P x o) (hafter : AfterValue r)
    (h : At b i (w ++ x ++ r)) : ∃ j, (decodeOption inner).exec b i = (.ok o, j) ∧ At b j r := by
  cases o with
  | none =>
    have hx : x = ['n', 'u', 'l', 'l'] := hx
    subst hx
    have hat₀ : At b i (w ++ 'n' :: (['u', 'l', 'l'] ++ r)) := by simpa using h
    obtain ⟨j₁, hws, hat⟩ := skipWs_char hw (by decide) hat₀
    obtain ⟨j, hj, hat'⟩ := literalAs_complete (c := 110) (l := [117, 108, 108]) (a := (none : Option α))
      (by decide +kernel) hat
    exact ⟨j, by rw [decodeOption, exec_bind_of_ok hws]; exact hj, hat'⟩
  | some a =>
    have hx : P x a := hx
    obtain ⟨ch, x', rfl, hb, -⟩ := (hr.value hx).head
    have hat₀ : At b i (w ++ ch :: (x' ++ r)) := by simpa using h
    obtain ⟨j₁, hws, hat⟩ := skipWs_char hw hb hat₀
    obtain ⟨j, hj, hat'⟩ := hr.complete Ws.nil hx hafter (by simpa using hat)
    have hch : leadByte ch ≠ 110 := fun he => by
      have hcn : ch.toNat = 'n'.toNat := (leadByte_eq_iff (by decide)).1 he
      exact hn hx (by rw [Char.toNat_inj.1 hcn]; rfl)
    refine ⟨j, ?_, hat'⟩
    rw [decodeOption, exec_bind_of_ok hws]
    simp only [Option.some_beq_some, beq_iff_eq, hch, if_false]
    exact exec_map_of_ok hj

theorem decodeOption_reads (hr : Reads inner P) (hn : ∀ {x a}, P x a → x.head? ≠ some 'n') :
    Reads (decodeOption inner) (OrNull P) where
  value {x o} hx := by
    cases o with
    | none =>
      have hx : x = ['n', 'u', 'l', 'l'] := hx
      exact hx ▸ .null
    | some a => exact hr.value hx
  sound := decodeOption_sound hr
  complete := decodeOption_complete hr hn

end DecodeOption

theorem orNull_natural_iff (x : List Char) (v : Option UInt64) : OrNull Natural x v ↔ LimitText x v := by
  constructor
  · cases v with
    | none =>
      intro hx
      have hx : x = ['n', 'u', 'l', 'l'] := hx
      exact hx ▸ .null
    | some n =>
      rintro ⟨hp, hlt, rfl⟩
      exact .natural hp hlt
  · intro h
    cases h with
    | null => rfl
    | natural hp hlt => exact ⟨hp, hlt, rfl⟩

theorem limit_reads (expected : String) : Reads (decodeOption (decodeLimit expected)) LimitText :=
  (decodeOption_reads (decodeLimit_reads expected) fun hx => by
    obtain ⟨d, x', rfl, hd⟩ := hx.1.head
    simpa using hd.ne (by decide)).congr orNull_natural_iff

/-! ## Flags and paths -/

theorem decodeFlag_sound {v : Bool} (h : At b i cs) (hok : decodeFlag.exec b i = (.ok v, j)) :
    ∃ w x r, cs = w ++ x ++ r ∧ Ws w ∧ FlagText x v ∧ At b j r := by
  rw [decodeFlag] at hok
  replace hok := exec_bind_eq_ok hok
  obtain ⟨c, j₁, hstart, hok⟩ := hok
  obtain ⟨w, rest, rfl, hw, hat, hpeek⟩ := valueStart_sound h hstart
  replace hok := exec_placed_eq_ok hok
  split at hok
  · rename_i hc
    cases beq_iff_eq.1 hc
    obtain ⟨rfl, r, rfl, hr⟩ := literalAs_sound (by decide +kernel) hat hpeek hok
    exact ⟨w, _, r, by simp [asciiChar], hw, .true, hr⟩
  split at hok
  · rename_i hc
    cases beq_iff_eq.1 hc
    obtain ⟨rfl, r, rfl, hr⟩ := literalAs_sound (by decide +kernel) hat hpeek hok
    exact ⟨w, _, r, by simp [asciiChar], hw, .false, hr⟩
  · exact absurd hok foundInstead_ne_ok

theorem decodeFlag_complete {w x : List Char} {v : Bool} (hw : Ws w) (hx : FlagText x v)
    (h : At b i (w ++ x ++ r)) : ∃ j, decodeFlag.exec b i = (.ok v, j) ∧ At b j r := by
  cases hx with
  | «true» =>
    have hat₀ : At b i (w ++ 't' :: (['r', 'u', 'e'] ++ r)) := by simpa using h
    obtain ⟨j₁, hstart, hat⟩ := valueStart_char hw (by decide) hat₀
    obtain ⟨j, hj, hat'⟩ := literalAs_complete (c := 116) (l := [114, 117, 101]) (a := true) (by decide +kernel)
      (by simpa [asciiChar] using hat)
    exact ⟨j, by rw [decodeFlag, exec_bind_of_ok hstart]; exact exec_placed_of_ok hj, hat'⟩
  | «false» =>
    have hat₀ : At b i (w ++ 'f' :: (['a', 'l', 's', 'e'] ++ r)) := by simpa using h
    obtain ⟨j₁, hstart, hat⟩ := valueStart_char hw (by decide) hat₀
    obtain ⟨j, hj, hat'⟩ := literalAs_complete (c := 102) (l := [97, 108, 115, 101]) (a := false)
      (by decide +kernel) (by simpa [asciiChar] using hat)
    exact ⟨j, by rw [decodeFlag, exec_bind_of_ok hstart]; exact exec_placed_of_ok hj, hat'⟩

theorem decodeFlag_reads : Reads decodeFlag FlagText where
  value hx := by cases hx with
    | «true» => exact .true
    | «false» => exact .false
  sound := decodeFlag_sound
  complete hw hx _ h := decodeFlag_complete hw hx h

theorem decodePath_sound {s : String} (h : At b i cs) (hok : decodePath.exec b i = (.ok s, j)) :
    ∃ w x r, cs = w ++ x ++ r ∧ Ws w ∧ StringLit x s ∧ At b j r := by
  rw [decodePath] at hok
  replace hok := exec_bind_eq_ok hok
  obtain ⟨c, j₁, hstart, hok⟩ := hok
  obtain ⟨w, rest, rfl, hw, hat, hpeek⟩ := valueStart_sound h hstart
  replace hok := exec_placed_eq_ok hok
  split at hok
  · rename_i hc
    cases beq_iff_eq.1 hc
    obtain ⟨rest', rfl, hat'⟩ := hat.peek_ascii hpeek (by decide)
    rw [exec_bind_of_ok exec_eat] at hok
    obtain ⟨body, chars, r, rfl, hbody, rfl, hr⟩ := readString_sound hat' hok
    exact ⟨w, '"' :: body ++ ['"'], r, by simp [asciiChar], hw, .mk hbody, hr⟩
  · exact absurd hok foundInstead_ne_ok

theorem decodePath_complete {w x : List Char} {s : String} (hw : Ws w) (hx : StringLit x s)
    (h : At b i (w ++ x ++ r)) : ∃ j, decodePath.exec b i = (.ok s, j) ∧ At b j r := by
  cases hx with
  | @mk body chars hbody =>
    have hat₀ : At b i (w ++ '"' :: (body ++ '"' :: r)) := by simpa using h
    obtain ⟨j₁, hstart, hat⟩ := valueStart_char hw (by decide) hat₀
    obtain ⟨j, hj, hat'⟩ := readString_complete hbody (hat.next (by decide))
    have hread : (do eat; readString).exec b j₁ = (.ok (String.ofList chars), j) := by
      rw [exec_bind_of_ok exec_eat]
      exact hj
    exact ⟨j, by rw [decodePath, exec_bind_of_ok hstart]; exact exec_placed_of_ok hread, hat'⟩

theorem decodePath_reads : Reads decodePath StringLit where
  value := StringLit.value
  sound := decodePath_sound
  complete hw hx _ h := decodePath_complete hw hx h

theorem paths_value {x : List Char} {ps : List String} (h : Bracketed '[' ']' StringLit x ps) : Value x := by
  cases h with
  | empty hw => exact .emptyArray hw
  | items hi =>
    refine .array ?_
    induction hi with
    | one hw hx hw' => exact .one hw hx.value hw'
    | cons hw hx hw' _ ih => exact .cons hw hx.value hw' ih

theorem decodePaths_sound {ps : List String} (h : At b i cs) (hok : decodePaths.exec b i = (.ok ps, j)) :
    ∃ w x r, cs = w ++ x ++ r ∧ Ws w ∧ Bracketed '[' ']' StringLit x ps ∧ At b j r := by
  rw [decodePaths] at hok
  replace hok := exec_bind_eq_ok hok
  obtain ⟨c, j₁, hstart, hok⟩ := hok
  obtain ⟨w, rest, rfl, hw, hat, hpeek⟩ := valueStart_sound h hstart
  replace hok := exec_placed_eq_ok hok
  split at hok
  · rename_i hc
    cases beq_iff_eq.1 hc
    obtain ⟨rest', rfl, hat'⟩ := hat.peek_ascii hpeek (by decide)
    rw [exec_bind_of_ok exec_eat, exec_bind_of_ok exec_budget] at hok
    replace hok := exec_bind_eq_ok hok
    obtain ⟨items, j₂, hitems, hok⟩ := hok
    replace hok := exec_bind_eq_ok hok
    obtain ⟨⟨⟩, j₃, hend, hok⟩ := hok
    simp only [exec_pure, Prod.mk.injEq, Except.ok.injEq] at hok
    obtain ⟨rfl, rfl⟩ := hok
    obtain ⟨as, u, rest₂, rfl, rfl, hat₂, hcont⟩ := listItems_sound decodePath_reads _ hat' hitems
    obtain ⟨w', r, rfl, hw', hat₃⟩ := endList_sound hat₂ hend
    obtain ⟨t, ht, hbr⟩ := (hcont w' r hw').bracketed (o := '[')
    exact ⟨w, '[' :: t, r, by rw [ht]; simp [asciiChar], hw, by simpa using hbr, hat₃⟩
  · exact absurd hok foundInstead_ne_ok

theorem decodePaths_complete {w x : List Char} {ps : List String} (hw : Ws w)
    (hx : Bracketed '[' ']' StringLit x ps) (h : At b i (w ++ x ++ r)) :
    ∃ j, decodePaths.exec b i = (.ok ps, j) ∧ At b j r := by
  obtain ⟨t, rfl, hrest⟩ := hx.listRest
  have hat₀ : At b i (w ++ '[' :: (t ++ r)) := by simpa using h
  obtain ⟨j₁, hstart, hat⟩ := valueStart_char hw (by decide) hat₀
  have hat₁ := hat.next (by decide)
  obtain ⟨j₂, hitems, hat₂⟩ := listItems_complete decodePath_reads (b.size + 1 - (j₁ + 1)) #[]
    (hrest r) hat₁ (by rw [hat₁.budget]; omega)
  obtain ⟨j, hend, hat'⟩ := endList_complete Ws.nil hat₂
  have hlist : (do eat; let items ← listItems decodePath (← budget) true #[]; endList; pure items.toList :
      Read (List String)).exec b j₁ = (.ok ps, j) := by
    rw [exec_bind_of_ok exec_eat, exec_bind_of_ok exec_budget, exec_bind_of_ok hitems,
      exec_bind_of_ok hend]
    simp
  exact ⟨j, by rw [decodePaths, exec_bind_of_ok hstart]; exact exec_placed_of_ok hlist, hat'⟩

theorem decodePaths_reads : Reads decodePaths (Bracketed '[' ']' StringLit) where
  value := paths_value
  sound := decodePaths_sound
  complete hw hx _ h := decodePaths_complete hw hx h

/-! ## The reader of each field -/

/-- A field's reader, as both shapes of a configuration use it, and the setting it makes of what
it reads. -/
structure Slot where
  {α : Type}
  item : Read α
  set : α → Setting

def Field.slot : Field → Slot
  | .loop => ⟨decodeOption (decodeLimit "u64"), .loop⟩
  | .recursion => ⟨decodeOption (decodeLimit "usize"), .recursion⟩
  | .preload => ⟨decodeFlag, .preload⟩
  | .cache => ⟨decodeFlag, .cache⟩
  | .scripts => ⟨decodePaths, .scripts⟩

theorem Field.slot_reads (f : Field) : Reads f.slot.item fun x a => SettingText x (f.slot.set a) := by
  cases f with
  | loop => exact (limit_reads "u64").congr fun _ _ => ⟨.loop, fun h => by cases h; assumption⟩
  | recursion => exact (limit_reads "usize").congr fun _ _ => ⟨.recursion, fun h => by cases h; assumption⟩
  | preload => exact decodeFlag_reads.congr fun _ _ => ⟨.preload, fun h => by cases h; assumption⟩
  | cache => exact decodeFlag_reads.congr fun _ _ => ⟨.cache, fun h => by cases h; assumption⟩
  | scripts => exact decodePaths_reads.congr fun _ _ => ⟨.scripts, fun h => by cases h; assumption⟩

@[simp] theorem Field.slot_field (f : Field) (a : f.slot.α) : (f.slot.set a).field = f := by
  cases f <;> rfl

theorem Setting.of_slot (s : Setting) : ∃ a, s.field.slot.set a = s := by
  cases s <;> exact ⟨_, rfl⟩

end ScriptBridge.Config
