import Mathlib.Data.List.Forall2
import ScriptBridge.Proofs.Exec

/-!
# Failures at the host boundary

A method call through the host is four steps in a fixed order, and the first failure ends it
where it stands. The property is read once, and an engine failure there is an `execution` error.
A value that is not a function is refused by the method's name, whatever the arguments are.
An argument the engine cannot rebuild is refused next, before the function runs, so the host is
left as the read left it. Only then does the function run, with the object as receiver and the
arguments converted in order.

A write refuses such a value before the engine is touched at all; otherwise it is one strict
assignment, and an assignment the object refuses is a thrown `TypeError`.
-/

namespace ScriptBridge.Host

open ScriptBridge.Script

theorem egress_other (s : String) :
    egress (.other s) = .error (.typeMismatch "value transferable to the script" "other") := rfl

theorem egress_eq_error_iff {v : Foreign} {e : HostError} :
    egress v = .error e ↔
      (∃ s, v = .other s) ∧ e = .typeMismatch "value transferable to the script" "other" := by
  cases v <;> simp [egress, eq_comm]

theorem mapM_egress_cons (a : Foreign) (rest : List Foreign) :
    (a :: rest).mapM egress =
      match egress a with
      | .ok j => (rest.mapM egress).map (j :: ·)
      | .error e => .error e := by
  rw [List.mapM_cons]
  cases egress a with
  | error e => rfl
  | ok j =>
    show (do let bs ← rest.mapM egress; pure (j :: bs)) = _
    cases rest.mapM egress <;> rfl

theorem mapM_egress_eq_ok_iff {args : List Foreign} {argv : List Value} :
    args.mapM egress = .ok argv ↔ List.Forall₂ (fun a j => egress a = .ok j) args argv := by
  induction args generalizing argv with
  | nil => cases argv <;> simp [List.mapM_nil, pure, Except.pure]
  | cons a rest ih =>
    rw [mapM_egress_cons]
    cases ha : egress a with
    | error e => simp [List.forall₂_cons_left_iff, ha]
    | ok j =>
      cases hr : rest.mapM egress with
      | error e =>
        simp only [Except.map, reduceCtorEq, false_iff, List.forall₂_cons_left_iff, ha,
          Except.ok.injEq, not_exists, not_and]
        intro j' _ rest' hrest _
        exact absurd (ih.mpr hrest) (by simp [hr])
      | ok bs =>
        simp only [Except.map, Except.ok.injEq, List.forall₂_cons_left_iff, ha]
        constructor
        · rintro rfl
          exact ⟨j, bs, rfl, ih.mp hr, rfl⟩
        · rintro ⟨j', bs', hj, hrest, rfl⟩
          have hbs : Except.ok bs = Except.ok bs' := hr.symm.trans (ih.mpr hrest)
          simp_all

theorem mapM_egress_eq_error_iff {args : List Foreign} {e : HostError} :
    args.mapM egress = .error e ↔
      (∃ s, Foreign.other s ∈ args) ∧ e = .typeMismatch "value transferable to the script" "other" := by
  induction args generalizing e with
  | nil => simp [List.mapM_nil, pure, Except.pure]
  | cons a rest ih =>
    rw [mapM_egress_cons]
    cases ha : egress a with
    | error e' =>
      obtain ⟨⟨s, rfl⟩, rfl⟩ := egress_eq_error_iff.mp ha
      simp only [Except.error.injEq, List.mem_cons]
      exact ⟨fun h => ⟨⟨s, .inl rfl⟩, h.symm⟩, fun h => h.2.symm⟩
    | ok j =>
      have hnot : ∀ s, a ≠ .other s := fun s hs => by simp [hs, egress_other] at ha
      cases hr : rest.mapM egress with
      | error e' =>
        have hr' := ih.mp hr
        simp only [Except.map, Except.error.injEq, List.mem_cons]
        constructor
        · rintro rfl
          obtain ⟨⟨s, hs⟩, he⟩ := hr'
          exact ⟨⟨s, .inr hs⟩, he⟩
        · rintro ⟨-, rfl⟩
          exact hr'.2
      | ok bs =>
        simp only [Except.map, reduceCtorEq, false_iff, not_and, List.mem_cons]
        rintro ⟨s, hs | hs⟩
        · exact absurd hs.symm (hnot s)
        · have := ih.mpr ⟨⟨s, hs⟩, rfl⟩
          simp [hr] at this

theorem Realm.isCallable_of_not_obj {r : Realm} {f : Value} (hf : ∀ o, f ≠ .obj o) :
    r.isCallable f = false := by
  cases f <;> simp_all [Realm.isCallable, Realm.callableAt]

@[simp] theorem exec_toForeign (v : Value) (h : Host) :
    Host.exec (toForeign v) h = (.ok (ingress h.engine.realm v), h) := rfl

theorem invoke_exec (t : Handle) (m : String) (args : List Foreign) (h : Host) :
    Host.exec (invoke t m args) h =
      match h.engine.run (Engine.getProperty t.ref m) with
      | (.error f, e) => (.error (.execution (e.faultText f)), { h with engine := e })
      | (.ok fv, e) =>
        if e.realm.isCallable fv then
          match args.mapM egress with
          | .error err => (.error err, { h with engine := e })
          | .ok argv =>
            match e.run (Engine.call fv (.obj t.ref) argv) with
            | (.error f, e') => (.error (.execution (e'.faultText f)), { h with engine := e' })
            | (.ok v, e') => (.ok (ingress e'.realm v), { h with engine := e' })
        else (.error (.notCallable m), { h with engine := e }) := by
  simp only [invoke, exec_bind, exec_work]
  rcases hread : h.engine.run (Engine.getProperty t.ref m) with ⟨_ | fv, e⟩
  · rfl
  · simp only [exec_get]
    split
    · rename_i o
      cases hc : e.realm.isCallable (.obj o)
      · rfl
      · simp only [Bool.not_true, Bool.false_eq_true, if_false, if_true]
        cases args.mapM egress with
        | error err => rfl
        | ok argv =>
          simp only [exec_bind, exec_lift, exec_work]
          rcases e.run (Engine.call (.obj o) (.obj t.ref) argv) with ⟨_ | v, e'⟩ <;> rfl
    · rename_i hnot
      rw [Realm.isCallable_of_not_obj hnot]
      rfl

section Call

variable {t : Handle} {m : String} {h : Host} {fv : Value} {e : Engine}

theorem invoke_not_callable (hread : h.engine.run (Engine.getProperty t.ref m) = (.ok fv, e))
    (hc : e.realm.isCallable fv = false) (args : List Foreign) :
    Host.exec (invoke t m args) h = (.error (.notCallable m), { h with engine := e }) := by
  rw [invoke_exec, hread]
  simp [hc]

theorem invoke_refused_argument (hread : h.engine.run (Engine.getProperty t.ref m) = (.ok fv, e))
    (hc : e.realm.isCallable fv = true) {args : List Foreign} (hother : ∃ s, Foreign.other s ∈ args) :
    Host.exec (invoke t m args) h =
      (.error (.typeMismatch "value transferable to the script" "other"), { h with engine := e }) := by
  have hargs := mapM_egress_eq_error_iff.mpr ⟨hother, rfl⟩
  rw [invoke_exec, hread]
  simp [hc, hargs]

theorem invoke_call (hread : h.engine.run (Engine.getProperty t.ref m) = (.ok fv, e))
    (hc : e.realm.isCallable fv = true) {args : List Foreign} {argv : List Value}
    (hargs : List.Forall₂ (fun a j => egress a = .ok j) args argv) :
    Host.exec (invoke t m args) h =
      match e.run (Engine.call fv (.obj t.ref) argv) with
      | (.error f, e') => (.error (.execution (e'.faultText f)), { h with engine := e' })
      | (.ok v, e') => (.ok (ingress e'.realm v), { h with engine := e' }) := by
  rw [invoke_exec, hread]
  simp [hc, mapM_egress_eq_ok_iff.mpr hargs]

end Call

theorem setProperty_exec (t : Handle) (n : String) (v : Foreign) (h : Host) :
    Host.exec (setProperty t n v) h =
      match egress v with
      | .error e => (.error e, h)
      | .ok j =>
        match h.engine.run (Engine.setProperty t.ref n j) with
        | (.error f, e) => (.error (.execution (e.faultText f)), { h with engine := e })
        | (.ok (), e) => (.ok (), { h with engine := e }) := by
  simp only [setProperty, exec_bind, exec_lift]
  cases egress v with
  | error e => rfl
  | ok j =>
    simp only [exec_work]
    cases h.engine.run (Engine.setProperty t.ref n j) with
    | mk res e => cases res <;> rfl

end ScriptBridge.Host

namespace ScriptBridge.Script

theorem M.raise_throws {α : Type} (k : ErrorKind) (msg : String) (r : Realm) :
    ∃ x r', (M.raise k msg : M α).exec r = (.error (.thrown x), r') :=
  ⟨_, _, rfl⟩

theorem Engine.setProperty_refused {ops : Ops} {o : Nat} {n : String} {v : Value} {r r' : Realm}
    (refused : (Objects.setWith ops o (Key.ofString n) v (.obj o)).exec r = (.ok false, r')) :
    ∃ x r'', (Engine.setProperty o n v ops).exec r = (.error (.thrown x), r'') := by
  simp only [Engine.setProperty, Objects.setOrThrow, M.exec_bind, refused]
  exact M.raise_throws _ _ _

end ScriptBridge.Script

namespace ScriptBridge.Host

open ScriptBridge.Script

def workRealm (h : Host) : Realm := { h.engine.realm with depth := 0, loops := 0, site := none }

theorem setProperty_refused {t : Handle} {n : String} {v : Foreign} {j : Value} {h : Host}
    {r' : Realm} (hj : egress v = .ok j)
    (refused : (Objects.setWith (Calls.opsWith (Engine.fuel (workRealm h))) t.ref (Key.ofString n) j
      (.obj t.ref)).exec (workRealm h) = (.ok false, r')) :
    ∃ msg h', Host.exec (setProperty t n v) h = (.error (.execution msg), h') := by
  obtain ⟨x, r'', hx⟩ := Engine.setProperty_refused refused
  have hrun : h.engine.run (Engine.setProperty t.ref n j) = (.error (.thrown x), ⟨r''⟩) := by
    simp only [Engine.run]
    rw [← M.exec, ← workRealm, hx]
  rw [setProperty_exec, hj]
  simp only [hrun]
  exact ⟨_, _, rfl⟩

/-- The host boundary's failures, in order. A call reads the property once, and a failed read
is an `execution` error; a value that cannot be called is refused by the method's name whatever
the arguments are; then an argument known only by its text, and only such an argument, is
refused, leaving the host as the read left it; otherwise the function runs with the object as
receiver and the arguments converted in order. A write of a value known only by its text is
refused with the host untouched; any other write is one strict assignment, and an assignment
the object refuses is an `execution` error. -/
theorem host_boundary_failure_order :
    (∀ (t : Handle) (m : String) (args : List Foreign) (h : Host),
      Host.exec (invoke t m args) h =
        match h.engine.run (Engine.getProperty t.ref m) with
        | (.error f, e) => (.error (.execution (e.faultText f)), { h with engine := e })
        | (.ok fv, e) =>
          if e.realm.isCallable fv then
            match args.mapM egress with
            | .error err => (.error err, { h with engine := e })
            | .ok argv =>
              match e.run (Engine.call fv (.obj t.ref) argv) with
              | (.error f, e') => (.error (.execution (e'.faultText f)), { h with engine := e' })
              | (.ok v, e') => (.ok (ingress e'.realm v), { h with engine := e' })
          else (.error (.notCallable m), { h with engine := e })) ∧
    (∀ (t : Handle) (m : String) (h : Host) (fv : Value) (e : Engine),
      h.engine.run (Engine.getProperty t.ref m) = (.ok fv, e) → e.realm.isCallable fv = false →
      ∀ args, Host.exec (invoke t m args) h = (.error (.notCallable m), { h with engine := e })) ∧
    (∀ (args : List Foreign) (err : HostError), args.mapM egress = .error err ↔
      (∃ s, Foreign.other s ∈ args) ∧
        err = .typeMismatch "value transferable to the script" "other") ∧
    (∀ (t : Handle) (m : String) (h : Host) (fv : Value) (e : Engine) (args : List Foreign),
      h.engine.run (Engine.getProperty t.ref m) = (.ok fv, e) → e.realm.isCallable fv = true →
      (∃ s, Foreign.other s ∈ args) →
      Host.exec (invoke t m args) h =
        (.error (.typeMismatch "value transferable to the script" "other"), { h with engine := e })) ∧
    (∀ (t : Handle) (m : String) (h : Host) (fv : Value) (e : Engine) (args : List Foreign)
      (argv : List Value),
      h.engine.run (Engine.getProperty t.ref m) = (.ok fv, e) → e.realm.isCallable fv = true →
      List.Forall₂ (fun a j => egress a = .ok j) args argv →
      Host.exec (invoke t m args) h =
        match e.run (Engine.call fv (.obj t.ref) argv) with
        | (.error f, e') => (.error (.execution (e'.faultText f)), { h with engine := e' })
        | (.ok v, e') => (.ok (ingress e'.realm v), { h with engine := e' })) ∧
    (∀ (t : Handle) (n s : String) (h : Host),
      Host.exec (setProperty t n (.other s)) h =
        (.error (.typeMismatch "value transferable to the script" "other"), h)) ∧
    (∀ (t : Handle) (n : String) (v : Foreign) (j : Value) (h : Host), egress v = .ok j →
      Host.exec (setProperty t n v) h =
        match h.engine.run (Engine.setProperty t.ref n j) with
        | (.error f, e) => (.error (.execution (e.faultText f)), { h with engine := e })
        | (.ok (), e) => (.ok (), { h with engine := e })) ∧
    (∀ (t : Handle) (n : String) (v : Foreign) (j : Value) (h : Host) (r' : Realm),
      egress v = .ok j →
      (Objects.setWith (Calls.opsWith (Engine.fuel (workRealm h))) t.ref (Key.ofString n) j
        (.obj t.ref)).exec (workRealm h) = (.ok false, r') →
      ∃ msg h', Host.exec (setProperty t n v) h = (.error (.execution msg), h')) := by
  refine ⟨invoke_exec, fun _ _ _ _ _ hread hc => invoke_not_callable hread hc,
    fun _ _ => mapM_egress_eq_error_iff, ?_, ?_, ?_, ?_, fun _ _ _ _ _ _ hj => setProperty_refused hj⟩
  · intro t m h fv e args hread hc hother
    exact invoke_refused_argument hread hc hother
  · intro t m h fv e args argv hread hc hargs
    exact invoke_call hread hc hargs
  · intro t n s h
    rw [setProperty_exec, egress_other]
  · intro t n v j h hj
    rw [setProperty_exec, hj]

end ScriptBridge.Host
