import ScriptBridge.Wrapper.Basic

/-!
# Running operations to their outcome

The three layers of the library are state-and-error computations: engine work over a realm,
host operations over a host, and wrapper operations over a world. `M.exec`, `Host.exec` and
`Op.exec` run one of them from a state and give its outcome and the state it leaves. The lemmas
here take each building block apart at that level (a bind, a read or write of the state, a host
call, a new wrapper, a caught failure), so that later proofs follow a run step by step without
opening the monads.
-/

namespace ScriptBridge.Script.M

variable {α β : Type}

def exec (x : M α) (r : Realm) : Except Fault α × Realm := (x.run).run r

@[simp] theorem exec_pure (a : α) (r : Realm) : (pure a : M α).exec r = (.ok a, r) := rfl

theorem exec_bind (x : M α) (f : α → M β) (r : Realm) :
    (x >>= f).exec r = match x.exec r with
      | (.ok a, r') => (f a).exec r'
      | (.error e, r') => (.error e, r') := by
  simp only [exec, ExceptT.run_bind, StateT.run_bind]
  rcases (x.run).run r with ⟨_ | _, r'⟩ <;> rfl

@[simp] theorem exec_get (r : Realm) : (get : M Realm).exec r = (.ok r, r) := rfl

@[simp] theorem exec_obj (o : Nat) (r : Realm) : (M.obj o).exec r = (.ok (r.obj o), r) := rfl

@[simp] theorem exec_modifyObj (o : Nat) (f : Obj → Obj) (r : Realm) :
    (M.modifyObj o f).exec r = (.ok (), r.modifyObj o f) := rfl

end ScriptBridge.Script.M

namespace ScriptBridge.Host

variable {α β : Type}

theorem Handle.sameObject_iff {a b : Handle} : a.sameObject b = true ↔ a = b := by
  cases a; cases b
  simp [Handle.sameObject]

def exec (x : HostM α) (h : Host) : Except HostError α × Host := (x.run).run h

@[simp] theorem exec_pure (a : α) (h : Host) : Host.exec (pure a : HostM α) h = (.ok a, h) := rfl

@[simp] theorem exec_throw (e : HostError) (h : Host) :
    Host.exec (throw e : HostM α) h = (.error e, h) := rfl

@[simp] theorem exec_get (h : Host) : Host.exec (get : HostM Host) h = (.ok h, h) := rfl

@[simp] theorem exec_set (s h : Host) : Host.exec (set s : HostM PUnit) h = (.ok ⟨⟩, s) := rfl

theorem exec_bind (x : HostM α) (f : α → HostM β) (h : Host) :
    Host.exec (x >>= f) h = match Host.exec x h with
      | (.ok a, h') => Host.exec (f a) h'
      | (.error e, h') => (.error e, h') := by
  simp only [exec, ExceptT.run_bind, StateT.run_bind]
  rcases (x.run).run h with ⟨_ | _, h'⟩ <;> rfl

@[simp] theorem exec_lift (r : Except HostError α) (h : Host) : Host.exec (lift r) h = (r, h) := by
  cases r <;> rfl

theorem exec_work (work : Script.Ops → Script.M α) (h : Host) :
    Host.exec (Host.work work) h =
      match h.engine.run work with
      | (.ok a, e) => (.ok a, { h with engine := e })
      | (.error f, e) => (.error (.execution (e.faultText f)), { h with engine := e }) := by
  rcases hr : h.engine.run work with ⟨_ | a, e⟩ <;>
    simp only [Host.work, exec_bind, exec_get, exec_set, hr, exec_pure, exec_throw]

end ScriptBridge.Host

namespace ScriptBridge.Wrapper

open ScriptBridge.Host

variable {α β : Type}

namespace Op

def exec (x : Op α) (w : World) : Except HostError α × World := (x.run).run w

@[simp] theorem exec_pure (a : α) (w : World) : (pure a : Op α).exec w = (.ok a, w) := rfl

@[simp] theorem exec_throw (e : HostError) (w : World) : (throw e : Op α).exec w = (.error e, w) :=
  rfl

theorem exec_bind (x : Op α) (f : α → Op β) (w : World) :
    (x >>= f).exec w = match x.exec w with
      | (.ok a, w') => (f a).exec w'
      | (.error e, w') => (.error e, w') := by
  simp only [exec, ExceptT.run_bind, StateT.run_bind]
  rcases (x.run).run w with ⟨_ | _, w'⟩ <;> rfl

theorem exec_map (f : α → β) (x : Op α) (w : World) :
    (f <$> x).exec w = match x.exec w with
      | (.ok a, w') => (.ok (f a), w')
      | (.error e, w') => (.error e, w') := by
  simp only [exec, ExceptT.run_map, StateT.run_map]
  rcases (x.run).run w with ⟨_ | _, w'⟩ <;> rfl

@[simp] theorem exec_fresh (h : Handle) (w : World) :
    (fresh h).exec w = (.ok ⟨w.made, h⟩, { w with made := w.made + 1 }) := rfl

@[simp] theorem exec_lift (r : Except HostError α) (w : World) : (lift r).exec w = (r, w) := by
  cases r <;> rfl

theorem exec_host (x : HostM α) (w : World) :
    (host x).exec w = ((Host.exec x w.host).1, { w with host := (Host.exec x w.host).2 }) := by
  change (match Host.exec x w.host with
    | (res, h) => (lift res).exec { w with host := h }) = _
  rcases Host.exec x w.host with ⟨_ | _, h⟩ <;> rfl

theorem host_made (x : HostM α) (w : World) : ((host x).exec w).2.made = w.made := by
  rw [exec_host]

@[simp] theorem exec_getThe (w : World) : (getThe World : Op World).exec w = (.ok w, w) := rfl

theorem exec_tryCatch (x : Op α) (h : HostError → Op α) (w : World) :
    (tryCatch x h).exec w = match x.exec w with
      | (.ok a, w') => (.ok a, w')
      | (.error e, w') => (h e).exec w' := by
  simp only [exec]
  show (ExceptT.tryCatch x h).run.run w = _
  simp only [ExceptT.tryCatch, ExceptT.run, ExceptT.mk, StateT.run_bind]
  rcases StateT.run x w with ⟨_ | _, w'⟩ <;> rfl

theorem ext {x y : Op α} (h : ∀ w, x.exec w = y.exec w) : x = y := funext h

end Op

end ScriptBridge.Wrapper
