import ScriptBridge.Proofs.ConfigValues

/-!
# Decoding a configuration

`HostConfig.ofJson` accepts exactly the written configurations (`ofJson_ok_iff_written`), and
gives each the configuration it writes.

The array shape is read by `positional`, five `nextItem` calls in a row. It is the loop
`readSlots` over the fields' readers (`positional_eq`), which reads fields in order until the
list closes; after that every field finds the list closed and is left out.

The object shape is read by `namedMembers`, which keeps the settings named so far in a `Named`.
A `Named` that holds the settings `ss` is `Named.ofSettings ss`; when their fields are distinct
its configuration is `configOf ss` (`Named.config_ofSettings`), in whatever order they came. One
turn of its loop reads a member (`member_sound`, `member_complete`); the loop's lemmas are the
induction over those turns, with the fuel bounded by the text left.
-/

namespace ScriptBridge.Config

open ScriptBridge.Json ScriptBridge.Json.Grammar

variable {b : ByteArray} {i j : Nat} {cs r : List Char}

/-! ## The array shape -/

def readSlots : List Slot → Bool → Read (List (Option Setting))
  | [], _ => pure []
  | sl :: rest, first => do
    let o ← nextItem sl.item first
    let os ← readSlots rest (first && o.isNone)
    pure (o.map sl.set :: os)

theorem configOf_options (a b : Option (Option UInt64)) (c d : Option Bool) (e : Option (List String)) :
    configOf ([a.map Setting.loop, b.map .recursion, c.map .preload, d.map .cache,
      e.map .scripts].filterMap id) =
      { loopIterationLimit := a.getD none, recursionLimit := b.getD none,
        preloadSampleClasses := c.getD true, cacheWrappers := d.getD true, scripts := e.getD [] } := by
  rcases a with _ | a <;> rcases b with _ | b <;> rcases c with _ | c <;> rcases d with _ | d <;>
    rcases e with _ | e <;> rfl

theorem positional_eq :
    positional = (fun os => configOf (os.filterMap id)) <$> readSlots (Field.all.map Field.slot) true := by
  simp only [positional, readSlots, Field.all, Field.slot, List.map_cons, List.map_nil, map_bind,
    bind_assoc, pure_bind, Bool.true_and, map_pure, configOf_options]

theorem readSlots_closed (h : At b i (']' :: r)) :
    ∀ (sls : List Slot) (first : Bool), (readSlots sls first).exec b i = (.ok (sls.map fun _ => none), i)
  | [], _ => rfl
  | sl :: sls, first => by
    rw [readSlots, exec_bind_of_ok (nextItem_closed h), exec_bind_of_ok (readSlots_closed h sls _)]
    rfl

theorem readSlots_sound : ∀ (fs : List Field) {first : Bool} {i j : Nat} {cs : List Char}
    {os : List (Option Setting)}, At b i cs → (readSlots (fs.map Field.slot) first).exec b i = (.ok os, j) →
    ∃ ss u rest, os.filterMap id = ss ∧ ss.map Setting.field = fs.take ss.length ∧ cs = u ++ rest ∧
      At b j rest ∧ ∀ w r, Ws w → ListRest ']' SettingText first (u ++ (w ++ ']' :: r)) ss r
  | [], _, i, j, cs, os, h, hok => by
    rw [List.map_nil, readSlots, exec_pure, Prod.mk.injEq, Except.ok.injEq] at hok
    obtain ⟨rfl, rfl⟩ := hok
    exact ⟨[], [], cs, rfl, rfl, rfl, h, fun w r hw => .close hw⟩
  | f :: fs, first, i, j, cs, os, h, hok => by
    rw [List.map_cons, readSlots] at hok
    replace hok := exec_bind_eq_ok hok
    obtain ⟨o, j₁, hnext, hok⟩ := hok
    replace hok := exec_bind_eq_ok hok
    obtain ⟨os', j₂, hrest, hok⟩ := hok
    simp only [exec_pure, Prod.mk.injEq, Except.ok.injEq] at hok
    obtain ⟨rfl, rfl⟩ := hok
    rcases nextItem_sound f.slot_reads h hnext with ⟨rfl, w, r, rfl, hw, hat⟩ |
      ⟨a, u, x, r, rfl, rfl, hu, hx, hat⟩
    · rw [readSlots_closed hat, Prod.mk.injEq, Except.ok.injEq] at hrest
      obtain ⟨rfl, rfl⟩ := hrest
      exact ⟨[], w, ']' :: r, by simp, rfl, rfl, hat,
        fun w' r' hw' => by simpa using ListRest.close (hw.append hw')⟩
    · simp only [Option.isNone_some, Bool.and_false] at hrest
      obtain ⟨ss, u', rest, rfl, hfs, rfl, hat', hcont⟩ := readSlots_sound fs hat hrest
      exact ⟨f.slot.set a :: os'.filterMap id, u ++ x ++ u', rest, by simp,
        by simp only [List.map_cons, Field.slot_field, List.length_cons, List.take_succ_cons, hfs], by simp, hat',
        fun w r' hw => by simpa using ListRest.item hu hx (hcont w r' hw)⟩

theorem readSlots_complete : ∀ (fs : List Field) {first : Bool} {i : Nat} {cs : List Char}
    {ss : List Setting}, ListRest ']' SettingText first cs ss r → ss.map Setting.field = fs.take ss.length →
    ss.length ≤ fs.length → At b i cs →
    ∃ j os w, (readSlots (fs.map Field.slot) first).exec b i = (.ok os, j) ∧ os.filterMap id = ss ∧
      Ws w ∧ At b j (w ++ ']' :: r)
  | [], _, i, _, _, hrest, _, hlen, h => by
    cases hrest with
    | @close _ w _ hw => exact ⟨i, [], w, rfl, rfl, hw, h⟩
    | item => simp at hlen
  | f :: fs, first, i, _, _, hrest, hfs, hlen, h => by
    cases hrest with
    | @close _ w _ hw =>
      obtain ⟨j, hj, hat⟩ : ∃ j, (nextItem f.slot.item first).exec b i = (.ok none, j) ∧ At b j (']' :: r) :=
        nextItem_close hw h
      exact ⟨j, none :: (fs.map Field.slot).map fun _ => none, [],
        by rw [List.map_cons, readSlots, exec_bind_of_ok hj, exec_bind_of_ok (readSlots_closed hat _ _)]; rfl,
        by simp, Ws.nil, hat⟩
    | @item _ u x t _ s ss hu hx hrest =>
      obtain ⟨hf, hnext⟩ : s.field = f ∧ ss.map Setting.field = fs.take ss.length := by simpa using hfs
      subst hf
      obtain ⟨a, ha⟩ := s.of_slot
      rw [← ha] at hx
      obtain ⟨j₁, hj₁, hat₁⟩ := nextItem_item s.field.slot_reads hu hx (hrest.afterValue (.inl rfl)) h
      obtain ⟨j, os, w, hj, hos, hw, hat⟩ := readSlots_complete fs hrest hnext (by simpa using hlen) hat₁
      refine ⟨j, some (s.field.slot.set a) :: os, w, ?_,
        by rw [List.filterMap_cons_some (f := id) rfl, hos, ha], hw, hat⟩
      rw [List.map_cons, readSlots, exec_bind_of_ok hj₁]
      simp only [Option.isNone_some, Bool.and_false]
      rw [exec_bind_of_ok hj]
      rfl

/-! ## The object shape -/

theorem HostConfig.set_comm (c : HostConfig) {s s' : Setting} (h : s.field ≠ s'.field) :
    (c.set s).set s' = (c.set s').set s := by
  cases s <;> cases s' <;> simp only [Setting.field, ne_eq, not_true_eq_false] at h <;> rfl

theorem foldr_set_of_not_mem {s : Setting} :
    ∀ {ss : List Setting} (c : HostConfig), s.field ∉ ss.map Setting.field →
      ss.foldr (fun s c => c.set s) (c.set s) = (ss.foldr (fun s c => c.set s) c).set s
  | [], _, _ => rfl
  | s' :: ss, c, h => by
    simp only [List.map_cons, List.mem_cons, not_or] at h
    rw [List.foldr_cons, foldr_set_of_not_mem c h.2, List.foldr_cons, HostConfig.set_comm _ h.1]

namespace Named

def has (n : Named) : Field → Bool
  | .loop => n.loop.isSome
  | .recursion => n.recursion.isSome
  | .preload => n.preload.isSome
  | .cache => n.cache.isSome
  | .scripts => n.scripts.isSome

def put (n : Named) : Setting → Named
  | .loop v => { n with loop := some v }
  | .recursion v => { n with recursion := some v }
  | .preload v => { n with preload := some v }
  | .cache v => { n with cache := some v }
  | .scripts v => { n with scripts := some v }

def ofSettings (ss : List Setting) : Named := ss.foldl put {}

def readField (n : Named) (f : Field) : Read Named := do
  (if n.has f then problem (.duplicateField f.name) else pure ())
  memberColon
  let a ← f.slot.item
  pure (n.put (f.slot.set a))

@[simp] theorem has_put (n : Named) (s : Setting) (f : Field) : (n.put s).has f = (n.has f || s.field == f) := by
  cases s <;> cases f <;> simp [has, put, Setting.field]

theorem has_foldl (ss : List Setting) (n : Named) (f : Field) :
    (ss.foldl put n).has f = true ↔ n.has f = true ∨ f ∈ ss.map Setting.field := by
  induction ss generalizing n with
  | nil => simp
  | cons s ss ih =>
    rw [List.foldl_cons, ih, has_put]
    simp only [Bool.or_eq_true, beq_iff_eq, List.map_cons, List.mem_cons, or_assoc, @eq_comm _ s.field]

theorem has_ofSettings (ss : List Setting) (f : Field) :
    (ofSettings ss).has f = true ↔ f ∈ ss.map Setting.field := by
  have hnone : ({} : Named).has f = false := by cases f <;> rfl
  rw [ofSettings, has_foldl, hnone]
  simp

theorem ofSettings_concat (ss : List Setting) (s : Setting) : ofSettings (ss ++ [s]) = (ofSettings ss).put s := by
  simp [ofSettings]

@[simp] theorem config_put (n : Named) (s : Setting) : (n.put s).config = n.config.set s := by
  cases s <;> rfl

theorem config_foldl : ∀ {ss : List Setting} (n : Named), (ss.map Setting.field).Nodup →
    (ss.foldl put n).config = ss.foldr (fun s c => c.set s) n.config
  | [], _, _ => rfl
  | s :: ss, n, h => by
    rw [List.map_cons, List.nodup_cons] at h
    rw [List.foldl_cons, config_foldl _ h.2, config_put, foldr_set_of_not_mem _ h.1, List.foldr_cons]

theorem config_ofSettings {ss : List Setting} (h : (ss.map Setting.field).Nodup) :
    (ofSettings ss).config = configOf ss :=
  config_foldl {} h

theorem read_field (n : Named) (f : Field) : n.read f.name = n.readField f := by
  cases f <;> simp [Named.read, readField, Field.name, Field.slot, has, put] <;> rfl

theorem read_other (n : Named) {name : String} (h : ∀ f : Field, f.name ≠ name) :
    n.read name = (do memberColon; skip; pure n) := by
  have h₁ := h .loop
  have h₂ := h .recursion
  have h₃ := h .preload
  have h₄ := h .cache
  have h₅ := h .scripts
  simp only [Field.name] at h₁ h₂ h₃ h₄ h₅
  simp [Named.read, Ne.symm h₁, Ne.symm h₂, Ne.symm h₃, Ne.symm h₄, Ne.symm h₅]

theorem readField_sound {n n' : Named} {f : Field} (h : At b i cs)
    (hok : (n.readField f).exec b i = (.ok n', j)) :
    n.has f = false ∧ ∃ s w₁ w₂ v r, s.field = f ∧ n' = n.put s ∧ cs = w₁ ++ ':' :: (w₂ ++ v ++ r) ∧
      Ws w₁ ∧ Ws w₂ ∧ SettingText v s ∧ At b j r := by
  rw [readField] at hok
  replace hok := exec_bind_eq_ok hok
  obtain ⟨_, j₁, hdup, hok⟩ := hok
  cases hhas : n.has f
  case true => simp [hhas] at hdup
  simp only [hhas, Bool.false_eq_true, if_false, exec_pure, Prod.mk.injEq] at hdup
  obtain ⟨-, rfl⟩ := hdup
  replace hok := exec_bind_eq_ok hok
  obtain ⟨_, j₂, hcolon, hok⟩ := hok
  obtain ⟨w₁, rest, rfl, hw₁, hat⟩ := memberColon_sound h hcolon
  replace hok := exec_bind_eq_ok hok
  obtain ⟨a, j₃, hitem, hok⟩ := hok
  obtain ⟨w₂, v, r, rfl, hw₂, hv, hat'⟩ := f.slot_reads.sound hat hitem
  simp only [exec_pure, Prod.mk.injEq, Except.ok.injEq] at hok
  obtain ⟨rfl, rfl⟩ := hok
  exact ⟨rfl, f.slot.set a, w₁, w₂, v, r, by simp, rfl, rfl, hw₁, hw₂, hv, hat'⟩

theorem readField_complete {n : Named} {s : Setting} {w₁ w₂ v : List Char} (hn : n.has s.field = false)
    (hw₁ : Ws w₁) (hw₂ : Ws w₂) (hv : SettingText v s) (hr : AfterValue r)
    (h : At b i (w₁ ++ ':' :: (w₂ ++ v ++ r))) :
    ∃ j, (n.readField s.field).exec b i = (.ok (n.put s), j) ∧ At b j r := by
  obtain ⟨a, ha⟩ := s.of_slot
  rw [← ha] at hv
  obtain ⟨j₁, hj₁, hat₁⟩ := memberColon_complete hw₁ h
  obtain ⟨j, hj, hat⟩ := s.field.slot_reads.complete hw₂ hv hr hat₁
  refine ⟨j, ?_, hat⟩
  rw [readField, hn]
  simp only [Bool.false_eq_true, if_false, exec_bind_of_ok (exec_pure _), exec_bind_of_ok hj₁,
    exec_bind_of_ok hj, exec_pure, ha]

end Named

theorem Member.ne_nil {t : List Char} {m : Option Setting} (h : Member t m) : t ≠ [] := by
  cases h with
  | setting hk => simp [hk.value.ne_nil]
  | other hk => simp [hk.value.ne_nil]

theorem fuel_behind {u x t : List Char} {n : Nat} (hx : x ≠ []) (hn : (utf8 (u ++ x ++ t)).length < n + 1) :
    (utf8 t).length < n := by
  have h₁ := length_utf8_lt_append hx t
  have h₂ := length_utf8_le_append u (x ++ t)
  rw [List.append_assoc] at hn
  omega

theorem member_sound {first : Bool} {ss : List Setting} {name : String} {n : Named} {j₁ : Nat}
    (hnd : (ss.map Setting.field).Nodup) (h : At b i cs)
    (hname : (memberName first).exec b i = (.ok (some name), j₁))
    (hread : ((Named.ofSettings ss).read name).exec b j₁ = (.ok n, j)) :
    ∃ m u t rest, cs = u ++ t ++ rest ∧ Sep first u ∧ Member t m ∧ n = Named.ofSettings (ss ++ m.toList) ∧
      ((ss ++ m.toList).map Setting.field).Nodup ∧ At b j rest := by
  rcases memberName_sound h hname with ⟨hnone, -⟩ | ⟨name', u, key, r, hsome, rfl, hu, hk, hat⟩
  · cases hnone
  cases Option.some.inj hsome
  by_cases hknown : ∃ f : Field, f.name = name
  · obtain ⟨f, rfl⟩ := hknown
    rw [Named.read_field] at hread
    obtain ⟨hhas, s, w₁, w₂, v, r', rfl, rfl, rfl, hw₁, hw₂, hv, hat'⟩ := Named.readField_sound hat hread
    have hnew : s.field ∉ ss.map Setting.field := by
      rw [← Named.has_ofSettings, hhas]
      decide
    refine ⟨some s, u, key ++ w₁ ++ ':' :: w₂ ++ v, r', by simp, hu, .setting hk hw₁ hw₂ hv,
      (Named.ofSettings_concat ss s).symm, ?_, hat'⟩
    simpa [List.nodup_append] using ⟨hnd, fun t ht h => hnew (h ▸ List.mem_map_of_mem ht)⟩
  · have hother : ∀ f : Field, f.name ≠ name := fun f hf => hknown ⟨f, hf⟩
    rw [Named.read_other _ hother] at hread
    replace hread := exec_bind_eq_ok hread
    obtain ⟨_, j₃, hcolon, hread⟩ := hread
    obtain ⟨w₁, rest₁, rfl, hw₁, hat₁⟩ := memberColon_sound hat hcolon
    replace hread := exec_bind_eq_ok hread
    obtain ⟨_, j₄, hskip, hread⟩ := hread
    obtain ⟨w₂, v, r', rfl, hw₂, hv, hat'⟩ := skip_sound hat₁ hskip
    simp only [exec_pure, Prod.mk.injEq, Except.ok.injEq] at hread
    obtain ⟨rfl, rfl⟩ := hread
    exact ⟨none, u, key ++ w₁ ++ ':' :: w₂ ++ v, r', by simp, hu, .other hk hother hw₁ hw₂ hv, by simp,
      by simpa using hnd, hat'⟩

theorem member_complete {first : Bool} {ss : List Setting} {u t : List Char} {m : Option Setting}
    (hu : Sep first u) (hm : Member t m) (hnew : ∀ s ∈ m, s.field ∉ ss.map Setting.field)
    (hr : AfterValue r) (h : At b i (u ++ t ++ r)) :
    ∃ name j₁ j, (memberName first).exec b i = (.ok (some name), j₁) ∧
      ((Named.ofSettings ss).read name).exec b j₁ = (.ok (Named.ofSettings (ss ++ m.toList)), j) ∧
      At b j r := by
  cases hm with
  | @setting key w₁ w₂ v s hkey hw₁ hw₂ hv =>
    have hhas : (Named.ofSettings ss).has s.field = false := by
      rw [← Bool.not_eq_true, Named.has_ofSettings]
      exact hnew s rfl
    have hat₀ : At b i (u ++ key ++ (w₁ ++ ':' :: (w₂ ++ v ++ r))) := by simpa using h
    obtain ⟨j₁, hj₁, hat₁⟩ := memberName_key hu hkey hat₀
    obtain ⟨j, hj, hat⟩ := Named.readField_complete hhas hw₁ hw₂ hv hr hat₁
    refine ⟨s.field.name, j₁, j, hj₁, ?_, hat⟩
    rw [Named.read_field, hj, ← Named.ofSettings_concat]
    rfl
  | @other key w₁ w₂ v name hkey hother hw₁ hw₂ hv =>
    have hat₀ : At b i (u ++ key ++ (w₁ ++ ':' :: (w₂ ++ v ++ r))) := by simpa using h
    obtain ⟨j₁, hj₁, hat₁⟩ := memberName_key hu hkey hat₀
    obtain ⟨j₂, hj₂, hat₂⟩ := memberColon_complete hw₁ hat₁
    obtain ⟨j, hj, hat⟩ := skip_complete hw₂ hv hr (by simpa using hat₂)
    refine ⟨name, j₁, j, hj₁, ?_, hat⟩
    rw [Named.read_other _ hother, exec_bind_of_ok hj₂, exec_bind_of_ok hj]
    simp

theorem namedMembers_sound : ∀ (k : Nat) (ss : List Setting) {first : Bool} {i j : Nat} {cs : List Char}
    {n : Named}, (ss.map Setting.field).Nodup → At b i cs →
    (namedMembers k first (Named.ofSettings ss)).exec b i = (.ok n, j) →
    ∃ ms u rest, n = Named.ofSettings (ss ++ ms.filterMap id) ∧
      ((ss ++ ms.filterMap id).map Setting.field).Nodup ∧
      cs = u ++ rest ∧ At b j rest ∧ ∀ w r, Ws w → ListRest '}' Member first (u ++ (w ++ '}' :: r)) ms r
  | 0, ss, _, i, j, cs, n, hnd, h, hok => by
    rw [namedMembers, exec_pure, Prod.mk.injEq, Except.ok.injEq] at hok
    obtain ⟨rfl, rfl⟩ := hok
    exact ⟨[], [], cs, by simp, by simpa using hnd, rfl, h, fun w r hw => .close hw⟩
  | k + 1, ss, first, i, j, cs, n, hnd, h, hok => by
    rw [namedMembers] at hok
    replace hok := exec_bind_eq_ok hok
    obtain ⟨o, j₁, hname, hok⟩ := hok
    cases o with
    | none =>
      obtain ⟨w, r, rfl, hw, hat⟩ : ∃ w r, cs = w ++ '}' :: r ∧ Ws w ∧ At b j₁ ('}' :: r) := by
        rcases memberName_sound h hname with ⟨-, hclose⟩ | ⟨_, _, _, _, hsome, -⟩
        · exact hclose
        · cases hsome
      simp only [exec_pure, Prod.mk.injEq, Except.ok.injEq] at hok
      obtain ⟨rfl, rfl⟩ := hok
      exact ⟨[], w, '}' :: r, by simp, by simpa using hnd, rfl, hat,
        fun w' r' hw' => by simpa using ListRest.close (hw.append hw')⟩
    | some name =>
      simp only at hok
      replace hok := exec_bind_eq_ok hok
      obtain ⟨n₁, j₂, hread, hok⟩ := hok
      obtain ⟨m, u, t, r, rfl, hu, hm, rfl, hnd', hat⟩ := member_sound hnd h hname hread
      obtain ⟨ms, u', rest, rfl, hnd'', rfl, hatj, hcont⟩ := namedMembers_sound k (ss ++ m.toList) hnd' hat hok
      refine ⟨m :: ms, u ++ t ++ u', rest, ?_, ?_, by simp, hatj, fun w r hw => ?_⟩
      · cases m <;> simp
      · cases m <;> simpa using hnd''
      · simpa using ListRest.item hu hm (hcont w r hw)

theorem namedMembers_complete : ∀ (k : Nat) (ss : List Setting) {first : Bool} {i : Nat} {cs : List Char}
    {ms : List (Option Setting)}, ListRest '}' Member first cs ms r →
    ((ss ++ ms.filterMap id).map Setting.field).Nodup → At b i cs → (utf8 cs).length < k →
    ∃ j, (namedMembers k first (Named.ofSettings ss)).exec b i =
      (.ok (Named.ofSettings (ss ++ ms.filterMap id)), j) ∧ At b j ('}' :: r)
  | 0, _, _, _, _, _, _, _, _, hk => absurd hk (Nat.not_lt_zero _)
  | k + 1, ss, first, i, _, _, hrest, hnd, h, hk => by
    cases hrest with
    | @close _ w _ hw =>
      obtain ⟨j, hj, hat⟩ : ∃ j, (memberName first).exec b i = (.ok none, j) ∧ At b j ('}' :: r) :=
        memberName_close hw h
      exact ⟨j, by rw [namedMembers, exec_bind_of_ok hj]; simp, hat⟩
    | @item _ u t t' _ m ms hu hm hrest =>
      have hnd' : ((ss ++ m.toList ++ ms.filterMap id).map Setting.field).Nodup := by
        cases m <;> simpa using hnd
      have hnew : ∀ s ∈ m, s.field ∉ ss.map Setting.field := by
        intro s hs hmem
        rw [Option.mem_def] at hs
        subst hs
        rw [List.append_assoc, List.map_append] at hnd'
        exact (List.nodup_append.1 hnd').2.2 _ hmem _ (by simp) rfl
      obtain ⟨name, j₁, j₂, hj₁, hj₂, hat₂⟩ := member_complete hu hm hnew (hrest.afterValue (.inr rfl)) h
      have hfuel : (utf8 t').length < k := fuel_behind hm.ne_nil hk
      obtain ⟨j, hj, hat⟩ := namedMembers_complete k (ss ++ m.toList) hrest hnd' hat₂ hfuel
      refine ⟨j, ?_, hat⟩
      rw [namedMembers, exec_bind_of_ok hj₁]
      simp only
      rw [exec_bind_of_ok hj₂, hj]
      cases m <;> simp

/-! ## Either shape -/

theorem exec_tryCatch_outcome {α : Type} (x : Read α) :
    (tryCatch (Except.ok <$> x) fun e => pure (Except.error e)).exec b i = (.ok (x.exec b i).1, (x.exec b i).2) := by
  rcases hx : x.exec b i with ⟨_ | a, j⟩
  · rename_i e
    have hmap : (Except.ok <$> x : Read (Except Json.Error α)).exec b i = (.error e, j) := by
      rw [← bind_pure_comp]
      exact exec_bind_of_error hx
    rw [exec_tryCatch_of_error hmap]
    rfl
  · exact exec_tryCatch_of_ok (exec_map_of_ok hx)

theorem array_sound {c : HostConfig} {j₁ : Nat} (h : At b i cs) (hpos : positional.exec b i = (.ok c, j₁))
    (hend : endList.exec b j₁ = (.ok (), j)) : ∃ t r, cs = t ++ r ∧ Shape ('[' :: t) c ∧ At b j r := by
  rw [positional_eq] at hpos
  obtain ⟨os, hslots, rfl⟩ := exec_map_eq_ok hpos
  obtain ⟨ss, u, rest, rfl, hfs, rfl, hat, hcont⟩ := readSlots_sound Field.all h hslots
  obtain ⟨w, r, rfl, hw, hatj⟩ := endList_sound hat hend
  obtain ⟨t, ht, hb⟩ := (hcont w r hw).bracketed (o := '[')
  exact ⟨t, r, ht, .array hb hfs, hatj⟩

theorem array_complete {t : List Char} {ss : List Setting} (hrest : ListRest ']' SettingText true (t ++ r) ss r)
    (hfs : ss.map Setting.field = Field.all.take ss.length) (h : At b i (t ++ r)) :
    ∃ j₁ j, positional.exec b i = (.ok (configOf ss), j₁) ∧ endList.exec b j₁ = (.ok (), j) ∧ At b j r := by
  have hlen : ss.length ≤ Field.all.length := by
    have := congrArg List.length hfs
    simp only [List.length_map, List.length_take] at this
    omega
  obtain ⟨j₁, os, w, hj₁, hos, hw, hat₁⟩ := readSlots_complete Field.all hrest hfs hlen h
  obtain ⟨j, hj, hat⟩ := endList_complete hw hat₁
  refine ⟨j₁, j, ?_, hj, hat⟩
  rw [positional_eq, exec_map_of_ok hj₁, hos]

theorem object_sound {k j₁ : Nat} {n : Named} (h : At b i cs)
    (hn : (namedMembers k true {}).exec b i = (.ok n, j₁)) (hend : endObject.exec b j₁ = (.ok (), j)) :
    ∃ t r, cs = t ++ r ∧ Shape ('{' :: t) n.config ∧ At b j r := by
  obtain ⟨ms, u, rest, rfl, hnd, rfl, hat, hcont⟩ := namedMembers_sound k [] List.nodup_nil h hn
  obtain ⟨w, r, rfl, hw, hatj⟩ := endObject_sound hat hend
  obtain ⟨t, ht, hb⟩ := (hcont w r hw).bracketed (o := '{')
  rw [List.nil_append] at hnd ⊢
  rw [Named.config_ofSettings hnd]
  exact ⟨t, r, ht, .object hb hnd, hatj⟩

theorem object_complete {t : List Char} {ms : List (Option Setting)} {k : Nat}
    (hrest : ListRest '}' Member true (t ++ r) ms r) (hnd : ((ms.filterMap id).map Setting.field).Nodup)
    (h : At b i (t ++ r)) (hk : (utf8 (t ++ r)).length < k) :
    ∃ j₁ j, (namedMembers k true {}).exec b i = (.ok (Named.ofSettings (ms.filterMap id)), j₁) ∧
      endObject.exec b j₁ = (.ok (), j) ∧ At b j r := by
  obtain ⟨j₁, hj₁, hat₁⟩ := namedMembers_complete k [] hrest (by simpa using hnd) h hk
  obtain ⟨j, hj, hat⟩ := endObject_complete Ws.nil (by simpa using hat₁)
  rw [List.nil_append] at hj₁
  exact ⟨j₁, j, hj₁, hj, hat⟩

theorem decodeConfig_sound {c : HostConfig} (h : At b i cs) (hok : decodeConfig.exec b i = (.ok c, j)) :
    ∃ w t rest, cs = w ++ t ++ rest ∧ Ws w ∧ Shape t c ∧ At b j rest := by
  rw [decodeConfig] at hok
  replace hok := exec_bind_eq_ok hok
  obtain ⟨c₀, j₁, hstart, hok⟩ := hok
  obtain ⟨w, rest, rfl, hw, hat, hpeek⟩ := valueStart_sound h hstart
  replace hok := exec_placed_eq_ok hok
  split at hok
  · rename_i hc
    obtain rfl : c₀ = 91 := by simpa using hc
    obtain ⟨rest, rfl, hat₁⟩ := hat.peek_ascii hpeek (by decide)
    rw [exec_bind_of_ok exec_eat] at hok
    replace hok := exec_bind_eq_ok hok
    obtain ⟨c', j₂, hpos, hok⟩ := hok
    replace hok := exec_bind_eq_ok hok
    obtain ⟨_, j₃, hend, hok⟩ := hok
    simp only [exec_pure, Prod.mk.injEq, Except.ok.injEq] at hok
    obtain ⟨rfl, rfl⟩ := hok
    obtain ⟨t, r, rfl, hs, hatj⟩ := array_sound hat₁ hpos hend
    exact ⟨w, '[' :: t, r, by simp [asciiChar], hw, hs, hatj⟩
  split at hok
  · rename_i hc
    obtain rfl : c₀ = 123 := by simpa using hc
    obtain ⟨rest, rfl, hat₁⟩ := hat.peek_ascii hpeek (by decide)
    rw [exec_bind_of_ok exec_eat, exec_bind_of_ok exec_budget] at hok
    replace hok := exec_bind_eq_ok hok
    obtain ⟨o, j₂, htry, hok⟩ := hok
    rw [exec_tryCatch_outcome, Prod.mk.injEq, Except.ok.injEq] at htry
    obtain ⟨rfl, rfl⟩ := htry
    rcases hn : (namedMembers (b.size + 1 - (j₁ + 1)) true {}).exec b (j₁ + 1) with ⟨e | n, j₂⟩
    · rw [hn] at hok
      replace hok := exec_bind_eq_ok hok
      obtain ⟨_, _, -, hok⟩ := hok
      replace hok := exec_bind_eq_ok hok
      obtain ⟨_, _, -, hok⟩ := hok
      simp at hok
    rw [hn] at hok
    replace hok := exec_bind_eq_ok hok
    obtain ⟨_, j₃, hend, hok⟩ := hok
    simp only [exec_pure, Prod.mk.injEq, Except.ok.injEq] at hok
    obtain ⟨rfl, rfl⟩ := hok
    obtain ⟨t, r, rfl, hs, hatj⟩ := object_sound hat₁ hn hend
    exact ⟨w, '{' :: t, r, by simp [asciiChar], hw, hs, hatj⟩
  · exact absurd hok foundInstead_ne_ok

theorem decodeConfig_complete {w t : List Char} {c : HostConfig} (hw : Ws w) (ht : Shape t c)
    (h : At b i (w ++ t ++ r)) : ∃ j, decodeConfig.exec b i = (.ok c, j) ∧ At b j r := by
  cases ht with
  | @array ss hb hfs =>
    obtain ⟨t, rfl, hrest⟩ := hb.listRest
    have hat₀ : At b i (w ++ '[' :: (t ++ r)) := by simpa using h
    obtain ⟨j₁, hj₁, hat₁⟩ := valueStart_char hw (by decide) hat₀
    obtain ⟨j₂, j, hpos, hend, hat⟩ := array_complete (hrest r) hfs (hat₁.next (by decide))
    have hbody : (do eat; let cfg ← positional; endList; pure cfg).exec b j₁ = (.ok (configOf ss), j) := by
      rw [exec_bind_of_ok exec_eat, exec_bind_of_ok hpos, exec_bind_of_ok hend]
      rfl
    exact ⟨j, by rw [decodeConfig, exec_bind_of_ok hj₁]; exact exec_placed_of_ok hbody, hat⟩
  | @object ms hb hnd =>
    obtain ⟨t, rfl, hrest⟩ := hb.listRest
    have hat₀ : At b i (w ++ '{' :: (t ++ r)) := by simpa using h
    obtain ⟨j₁, hj₁, hat₁⟩ := valueStart_char hw (by decide) hat₀
    have hat₂ := hat₁.next (by decide)
    obtain ⟨j₂, j, hn, hend, hat⟩ := object_complete (k := b.size + 1 - (j₁ + 1)) (hrest r) hnd hat₂
      (by rw [hat₂.budget]; omega)
    refine ⟨j, ?_, hat⟩
    rw [decodeConfig, exec_bind_of_ok hj₁]
    apply exec_placed_of_ok
    simp only [show (leadByte '{' == 91) = false from rfl, show (leadByte '{' == 123) = true from rfl,
      Bool.false_eq_true, if_false, if_true]
    rw [exec_bind_of_ok exec_eat, exec_bind_of_ok exec_budget, exec_bind_of_ok (exec_tryCatch_outcome _), hn]
    refine (exec_bind_of_ok hend).trans ?_
    rw [← Named.config_ofSettings hnd]
    rfl

/-! ## Configuration texts -/

theorem ofJson_eq_ok_iff_exec {t : String} {c : HostConfig} :
    HostConfig.ofJson t = .ok c ↔
      ∃ j, (do let cfg ← decodeConfig; finish; pure cfg).exec t.toUTF8 0 = (.ok c, j) := by
  rw [HostConfig.ofJson, Read.run_eq_exec]
  rcases (do let cfg ← decodeConfig; finish; pure cfg : Read HostConfig).exec t.toUTF8 0 with
    ⟨_ | c', j⟩ <;> simp

theorem ofJson_eq_ok_iff {t : String} {c : HostConfig} : HostConfig.ofJson t = .ok c ↔ Written t.toList c := by
  rw [ofJson_eq_ok_iff_exec]
  constructor
  · rintro ⟨j, hok⟩
    replace hok := exec_bind_eq_ok hok
    obtain ⟨c', j₁, hdec, hok⟩ := hok
    obtain ⟨w₁, s, rest, hcs, hw₁, hs, hat⟩ := decodeConfig_sound (At.start t) hdec
    replace hok := exec_bind_eq_ok hok
    obtain ⟨_, j₂, hfin, hok⟩ := hok
    have hw₂ : Ws rest := (finish_exec_ok_iff hat).1 ⟨j₂, hfin⟩
    simp only [exec_pure, Prod.mk.injEq, Except.ok.injEq] at hok
    obtain ⟨rfl, rfl⟩ := hok
    rw [hcs]
    exact .mk hw₁ hs hw₂
  · intro hwr
    generalize hcs : t.toList = cs at hwr
    obtain ⟨hw₁, hs, hw₂⟩ := hwr
    have hat : At t.toUTF8 0 (_ ++ _ ++ _) := hcs ▸ At.start t
    obtain ⟨j₁, hj₁, hat₁⟩ := decodeConfig_complete hw₁ hs hat
    obtain ⟨j₂, hj₂⟩ := (finish_exec_ok_iff hat₁).2 hw₂
    exact ⟨j₂, by rw [exec_bind_of_ok hj₁, exec_bind_of_ok hj₂]; rfl⟩

theorem ofJson_error_parse {t : String} {e : Error} (h : HostConfig.ofJson t = .error e) : ∃ pe, e = .parse pe := by
  rw [HostConfig.ofJson] at h
  split at h
  · cases h
  · exact ⟨_, (Except.error.inj h).symm⟩

theorem ofFile_eq_ok_iff {fs : Files} {path : String} {c : HostConfig} :
    HostConfig.ofFile fs path = .ok c ↔ ∃ t, fs.readText path = .ok t ∧ Written t.toList c := by
  rw [HostConfig.ofFile]
  cases fs.readText path with
  | ok t => simp [ofJson_eq_ok_iff]
  | error cause => simp

/-- The configuration texts: `HostConfig.ofJson` accepts exactly the written configurations and gives
the configuration written, fails only with a parse error, and `HostConfig.ofFile` decodes a file's
text. -/
theorem ofJson_ok_iff_written :
    (∀ (t : String) (c : HostConfig), HostConfig.ofJson t = .ok c ↔ Written t.toList c) ∧
      (∀ (t : String) (e : Error), HostConfig.ofJson t = .error e → ∃ pe, e = .parse pe) ∧
      ∀ (fs : Files) (path : String) (c : HostConfig),
        HostConfig.ofFile fs path = .ok c ↔ ∃ t, fs.readText path = .ok t ∧ Written t.toList c :=
  ⟨fun _ _ => ofJson_eq_ok_iff, fun _ _ => ofJson_error_parse, fun _ _ _ => ofFile_eq_ok_iff⟩

/-- A limit written with an exponent is refused, although the number it writes is a natural
number in range. -/
theorem ofJson_refuses_exponent_limit :
    (HostConfig.ofJson "\x7b\"loop_iteration_limit\": 1e3\x7d").isOk = false := by
  decide +kernel

end ScriptBridge.Config
