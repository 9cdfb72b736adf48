import ScriptBridge.Proofs.ArrayView

/-!
# The host calls a view makes

A view reaches the script only through calls on the host: reading, writing or calling a property
of a script object, or running a script's own action. `Access.logged` and `Command.logged` run
an operation or a command as `Access.run` and `Command.run` do, making each host call through
`Logged.call`, which records the call before making it. The record lies beneath the failure, so a
failed operation still reports every call it made. Forgetting the record gives back the operation
itself (`Access.logged_runs`, `Command.logged_runs`).
-/

namespace ScriptBridge.Wrapper

open ScriptBridge.Host

inductive Call where
  | getProperty (target : Handle) (name : String)
  | setProperty (target : Handle) (name : String) (v : Foreign)
  | invoke (target : Handle) (method : String) (args : List Foreign)
  | script (act : HostM Unit)

def Call.perform : Call → HostM Foreign
  | .getProperty t name => Host.getProperty t name
  | .setProperty t name v => do
    Host.setProperty t name v
    pure .undefined
  | .invoke t method args => Host.invoke t method args
  | .script act => do
    act
    pure .undefined

/-- Operations that record the host calls they make; a failure keeps the record. -/
abbrev Logged := ExceptT HostError (StateT (List Call) (StateM World))

namespace Logged

variable {α β : Type}

def exec (x : Logged α) (w : World) (l : List Call) : (Except HostError α × List Call) × World :=
  ((x.run).run l).run w

def op (x : Op α) : Logged α := ExceptT.mk (StateT.lift x.run)

def log (c : Call) : Logged Unit := ExceptT.lift (modifyThe (List Call) (· ++ [c]))

def call (c : Call) : Logged Foreign := do
  log c
  op (Op.host c.perform)

def effect (c : Call) : Logged Unit := do
  let _ ← call c

def checked {T : Type} (c : Call) (f : Foreign → Except HostError T) : Logged T := do
  op (Op.lift (f (← call c)))

@[simp] theorem exec_pure (a : α) (w : World) (l : List Call) :
    (pure a : Logged α).exec w l = ((.ok a, l), w) := rfl

theorem exec_bind (x : Logged α) (f : α → Logged β) (w : World) (l : List Call) :
    (x >>= f).exec w l = match x.exec w l with
      | ((.ok a, l'), w') => (f a).exec w' l'
      | ((.error e, l'), w') => ((.error e, l'), w') := by
  simp only [exec, ExceptT.run_bind, StateT.run_bind]
  rcases ((x.run).run l).run w with ⟨⟨_ | _, l'⟩, w'⟩ <;> rfl

@[simp] theorem exec_op (x : Op α) (w : World) (l : List Call) :
    (op x).exec w l = (((x.exec w).1, l), (x.exec w).2) := rfl

@[simp] theorem exec_log (c : Call) (w : World) (l : List Call) :
    (log c).exec w l = ((.ok (), l ++ [c]), w) := rfl

theorem exec_call (c : Call) (w : World) (l : List Call) :
    (call c).exec w l = (((Host.exec c.perform w.host).1, l ++ [c]),
      { w with host := (Host.exec c.perform w.host).2 }) := by
  simp only [call, exec_bind, exec_log, exec_op, Op.exec_host]

theorem exec_tryCatch (x : Logged α) (h : HostError → Logged α) (w : World) (l : List Call) :
    (tryCatch x h).exec w l = match x.exec w l with
      | ((.ok a, l'), w') => ((.ok a, l'), w')
      | ((.error e, l'), w') => (h e).exec w' l' := by
  simp only [exec]
  show ((ExceptT.tryCatch x h).run.run l).run w = _
  simp only [ExceptT.tryCatch, ExceptT.run, ExceptT.mk, StateT.run_bind]
  rcases StateT.run (StateT.run x l) w with ⟨⟨_ | _, l'⟩, w'⟩ <;> rfl

def Runs (x : Logged α) (y : Op α) : Prop :=
  ∀ w l, ((x.exec w l).1.1, (x.exec w l).2) = y.exec w

namespace Runs

theorem pure (a : α) : Runs (Pure.pure a) (Pure.pure a) := fun _ _ => rfl

theorem bind {x : Logged α} {y : Op α} {f : α → Logged β} {g : α → Op β} (hx : Runs x y)
    (hf : ∀ a, Runs (f a) (g a)) : Runs (x >>= f) (y >>= g) := by
  intro w l
  have h := hx w l
  rw [exec_bind, Op.exec_bind, ← h]
  rcases x.exec w l with ⟨⟨_ | a, l'⟩, w'⟩
  · rfl
  · exact hf a w' l'

theorem op (x : Op α) : Runs (Logged.op x) x := fun _ _ => rfl

theorem call (c : Call) : Runs (Logged.call c) (Op.host c.perform) := by
  intro w l
  rw [exec_call, Op.exec_host]

theorem tryCatch {x : Logged α} {y : Op α} {h : HostError → Logged α} {k : HostError → Op α}
    (hx : Runs x y) (hh : ∀ e, Runs (h e) (k e)) : Runs (tryCatch x h) (tryCatch y k) := by
  intro w l
  have hr := hx w l
  rw [exec_tryCatch, Op.exec_tryCatch, ← hr]
  rcases x.exec w l with ⟨⟨_ | a, l'⟩, w'⟩
  · exact hh _ w' l'
  · rfl

theorem checked {T : Type} (c : Call) (f : Foreign → Except HostError T) :
    Runs (Logged.checked c f) (do Op.lift (f (← Op.host c.perform))) :=
  bind (call c) fun _ => op _

theorem effect_of_perform {z : HostM Unit} {c : Call} (hc : c.perform = (do z; Pure.pure .undefined)) :
    Runs (Logged.effect c) (Op.host z) := by
  intro w l
  simp only [effect, exec_bind, exec_call, exec_pure, hc, Host.exec_bind, Op.exec_host]
  rcases Host.exec z w.host with ⟨_ | _, h⟩ <;> rfl

end Runs

end Logged

namespace WrapperArray

def loggedLength (a : WrapperArray) : Logged Nat :=
  Logged.checked (.getProperty a.source "length") toLength

def loggedGet (a : WrapperArray) (i : Nat) : Logged (Option Wrapper × WrapperArray) := do
  Logged.op (a.wrapSlot (← Logged.call (.getProperty a.source (toString i))))

def loggedPop (a : WrapperArray) : Logged (Option Wrapper × WrapperArray) := do
  Logged.op (a.wrapSlot (← Logged.call (.invoke a.source "pop" [])))

def loggedCollect (a : WrapperArray) : Nat → Nat → List (Option Wrapper) →
    Logged (Except HostError (List (Option Wrapper)) × WrapperArray)
  | 0, _, acc => pure (.ok acc.reverse, a)
  | n + 1, i, acc => do
    let r ← tryCatch (do pure (Except.ok (← a.loggedGet i))) fun e => pure (.error e)
    match r with
    | .ok (w, a') => loggedCollect a' n (i + 1) (w :: acc)
    | .error e => pure (.error e, a)

def loggedToList (a : WrapperArray) :
    Logged (Except HostError (List (Option Wrapper)) × WrapperArray) := do
  let n ← a.loggedLength
  a.loggedCollect n 0 []

def loggedConcat (a other : WrapperArray) : Logged WrapperArray := do
  let joined ← Logged.call (.invoke a.source "concat" [.object other.source])
  let b ← Logged.op (Op.lift (ofForeign joined a.useCache))
  pure (if b.useCache then { b with cache := mergeCaches a.cache other.cache } else b)

theorem loggedGet_runs (a : WrapperArray) (i : Nat) : Logged.Runs (a.loggedGet i) (a.get i) :=
  .bind (.call _) fun _ => .op _

theorem loggedCollect_runs (a : WrapperArray) (n i : Nat) (acc : List (Option Wrapper)) :
    Logged.Runs (a.loggedCollect n i acc) (a.collect n i acc) := by
  induction n generalizing a i acc with
  | zero => exact .pure _
  | succ n ih =>
    apply Logged.Runs.bind
    · exact .tryCatch (.bind (a.loggedGet_runs i) fun _ => .pure _) fun _ => .pure _
    · intro r
      rcases r with e | ⟨g, a'⟩
      · exact .pure _
      · exact ih a' (i + 1) (g :: acc)

theorem loggedToList_runs (a : WrapperArray) : Logged.Runs a.loggedToList a.toList :=
  .bind (.checked _ _) fun n => a.loggedCollect_runs n 0 []

theorem loggedConcat_runs (a b : WrapperArray) : Logged.Runs (a.loggedConcat b) (a.concat b) :=
  .bind (.call _) fun _ => .bind (.op _) fun _ => .pure _

end WrapperArray

namespace Access

def logged (a : WrapperArray) : Access → Logged (Reply × WrapperArray)
  | .length => do pure (.count (← a.loggedLength), a)
  | .get i => do
    let (w, a') ← a.loggedGet i
    pure (.slot w, a')
  | .set i w => do
    Logged.effect (.setProperty a.source (toString i) (WrapperArray.slotValue w))
    pure (.done, a)
  | .push w => do pure (.count (← Logged.checked (.invoke a.source "push" [w.toForeign]) toLength), a)
  | .pop => do
    let (w, a') ← a.loggedPop
    pure (.slot w, a')
  | .indexOf w => do
    pure (.index (← Logged.checked (.invoke a.source "indexOf" [w.toForeign]) toIndex), a)
  | .lastIndexOf w => do
    pure (.index (← Logged.checked (.invoke a.source "lastIndexOf" [w.toForeign]) toIndex), a)
  | .includes w => do
    pure (.flag (← Logged.checked (.invoke a.source "includes" [w.toForeign]) Foreign.asBool), a)
  | .join sep => do
    pure (.text (← Logged.checked (.invoke a.source "join" [.string sep]) Foreign.intoString), a)
  | .fill w => do
    Logged.effect (.invoke a.source "fill" [WrapperArray.slotValue w])
    pure (.done, a)
  | .toList => do
    let (r, a') ← a.loggedToList
    pure (.slots r, a')
  | .setUseCache b => pure (.done, a.setUseCache b)
  | .clearCache => pure (.done, a.clearCache)
  | .useCache => pure (.flag a.useCache, a)
  | .cachedLen => pure (.count a.cachedLen, a)
  | .script act => do
    Logged.effect (.script act)
    pure (.done, a)

theorem logged_runs (a : WrapperArray) (acc : Access) : Logged.Runs (logged a acc) (run a acc) := by
  cases acc with
  | length => exact .bind (.checked _ _) fun _ => .pure _
  | get i => exact .bind (a.loggedGet_runs i) fun _ => .pure _
  | set i w => exact .bind (.effect_of_perform rfl) fun _ => .pure _
  | pop => exact .bind (.bind (.call _) fun _ => .op _) fun _ => .pure _
  | push | indexOf | lastIndexOf | includes | join => exact .bind (.checked _ _) fun _ => .pure _
  | fill w => exact .bind (.bind (.call _) fun _ => .pure _) fun _ => .pure _
  | toList => exact .bind a.loggedToList_runs fun _ => .pure _
  | setUseCache | clearCache | useCache | cachedLen => exact .pure _
  | script act => exact .bind (.effect_of_perform rfl) fun _ => .pure _

end Access

namespace Command

def logged (vs : List WrapperArray) : Command → Logged (Reply × List WrapperArray)
  | .view v useCache => do
    pure (.done, vs ++ [← Logged.op (Op.lift (WrapperArray.ofForeign v useCache))])
  | .on i acc =>
    match vs[i]? with
    | some a => do
      let (r, a') ← Access.logged a acc
      pure (r, vs.set i a')
    | none => pure (.done, vs)
  | .concat i j =>
    match vs[i]?, vs[j]? with
    | some a, some b => do pure (.done, vs ++ [← a.loggedConcat b])
    | _, _ => pure (.done, vs)

theorem logged_runs (vs : List WrapperArray) (c : Command) : Logged.Runs (c.logged vs) (c.run vs) := by
  cases c with
  | view v useCache => exact .bind (.op _) fun _ => .pure _
  | on i acc =>
    rcases h : vs[i]? with _ | a <;> simp only [logged, run, h]
    · exact .pure _
    · exact .bind (Access.logged_runs a acc) fun _ => .pure _
  | concat i j =>
    rcases h : vs[i]? with _ | a <;> rcases k : vs[j]? with _ | b <;> simp only [logged, run, h, k]
    · exact .pure _
    · exact .pure _
    · exact .pure _
    · exact .bind (WrapperArray.loggedConcat_runs a b) fun _ => .pure _

end Command

end ScriptBridge.Wrapper
