import ScriptBridge.Script.Eval
import ScriptBridge.Script.Parser

/-!
# Running function bodies and scripts

A call of a script function gets a fresh scope holding `this`, `arguments`, the parameters and
the body's declarations, and then evaluates the body; the call's value is what `return` gives,
or `undefined`. A call of a function that is not an arrow function is a frame: its scope records
the function, its home object and `new.target`. A derived class's constructor starts with `this`
unbound, and its `super(…)` call binds it. A script binds its declarations globally first: functions and `var` names become
properties of the global object, `let`, `const` and `class` names bindings of the global scope.
A script may not declare again a global lexical name, nor declare lexically a name it cannot
replace.
-/

namespace ScriptBridge.Script

namespace Invoke

def bindParams (ops : Ops) (ctx : Ctx) : List Param → List Value → M Unit
  | [], _ => pure ()
  | .mk p d rest :: ps, args => do
    if rest then do
      let a ← M.newArray args
      Eval.bindPattern ops ctx (.declare true) p (.obj a)
      bindParams ops ctx ps []
    else do
      let (a, more) := match args with
        | [] => (Value.undefined, [])
        | a :: r => (a, r)
      let v ← Eval.defaultOf ops ctx p.name? d a
      Eval.bindPattern ops ctx (.declare true) p v
      bindParams ops ctx ps more

def argumentsObject (args : List Value) : M Nat := do
  let (t, n) := args.foldl (fun (acc : Table × Nat) v =>
    (acc.1.insert (Key.ofIndex acc.2) (Property.plain v), acc.2 + 1)) ({}, 0)
  let t := t.insert lengthKey (Property.hidden (Value.ofNat n))
  M.alloc { proto := some Intrinsic.objectPrototype.ref, props := t, kind := .arguments }

def paramNames (ps : List Param) : List String := ps.flatMap fun
  | .mk p _ _ => p.names

def runFunction (ops : Ops) (c : Closure) (callee : Nat) (this : Option Value) (args : List Value)
    (newTarget : Value) : M (Value × Option Value) := do
  let f := c.func
  let thisV ← if c.thisLexical then pure none
    else match this with
      | none => pure none
      | some t =>
        if f.strict then pure (some t)
        else match t with
          | .undefined | .null => pure (some (.obj Intrinsic.globalObject.ref))
          | .obj _ => pure (some t)
          | _ => do pure (some (.obj (← Convert.toObject t)))
  let frame? : Option Frame :=
    if c.thisLexical then none else some { callee, home := c.home, newTarget }
  let sc ← modifyGet fun r => r.newScope
    { parent := some c.scope, this? := thisV, thisPending := !c.thisLexical && this.isNone, frame? }
  let ctx : Ctx := { scope := sc, strict := f.strict }
  if !c.thisLexical then
    let ao ← argumentsObject args
    Env.declare sc "arguments" ⟨.obj ao, true, true⟩
  bindParams ops ctx f.params args
  let ps := paramNames f.params
  for n in Hoist.dedup (Hoist.varNamesList f.body) do
    if !ps.contains n && n != "arguments" then Env.declare sc n ⟨.undefined, true, true⟩
  for (n, mutable) in Hoist.lexicals f.body do
    Env.declare sc n ⟨.undefined, mutable, false⟩
  for (n, g) in Hoist.functions f.body do
    let fo ← M.makeClosure (Eval.closureOf ctx g) n
    Env.declare sc n ⟨.obj fo, true, true⟩
  let res ← match ← Eval.stmts ops ctx none f.body with
    | .ret v => pure v
    | _ => pure .undefined
  pure (res, ((← get).scope sc).this?)

def fieldValue (ops : Ops) (c : Closure) (ctor o : Nat) (fd : Field) : M Value := do
  let frame : Frame := { callee := ctor, home := c.home, newTarget := .undefined }
  let sc ← modifyGet fun r => r.newScope
    { parent := some c.scope, this? := some (.obj o), frame? := some frame }
  match fd.init with
  | some e => Eval.expr ops { scope := sc, strict := true } (some (keyName (← get) fd.key)) e
  | none => pure .undefined

def duplicateMessage : String := "invalid scope analysis: duplicate lexical declaration at line 1, col 1"

def defineGlobalFunction (n : String) (v : Value) (configurable : Bool) : M Unit := do
  let g := Intrinsic.globalObject.ref
  let k := Key.ofString n
  match (← get).ownProp? g k with
  | some p =>
    if p.configurable then modify fun r => r.putProp g k ⟨.data v true, true, configurable⟩
    else match p.slot with
      | .data _ true => modify fun r => r.putProp g k { p with slot := .data v true }
      | _ => M.typeError ("cannot redefine property: " ++ n)
  | none => modify fun r => r.putProp g k ⟨.data v true, true, configurable⟩

def runScript (ops : Ops) (body : List Stmt) (strict : Bool) (isEval : Bool) : M Value := do
  let lex := Hoist.lexicals body
  let vars := Hoist.dedup (Hoist.varNamesList body)
  let fns := Hoist.functions body
  let g := Intrinsic.globalObject.ref
  let r ← get
  let top := r.scope Realm.globalScope
  if !isEval then
    for (n, _) in lex do
      if (top.find? n).isSome then M.syntaxError duplicateMessage
      match r.ownProp? g (Key.ofString n) with
      | some p => if !p.configurable then M.syntaxError duplicateMessage
      | none => pure ()
  for n in vars ++ fns.map Prod.fst do
    if (top.find? n).isSome then M.syntaxError duplicateMessage
  let sc ← if isEval then Env.enter Realm.globalScope else pure Realm.globalScope
  for (n, mutable) in lex do
    Env.declare sc n ⟨.undefined, mutable, false⟩
  let ctx : Ctx := { scope := sc, strict }
  for (n, f) in fns do
    let fo ← M.makeClosure (Eval.closureOf ctx f) n
    defineGlobalFunction n (.obj fo) isEval
  for n in vars do
    if ((← get).ownProp? g (Key.ofString n)).isNone then
      modify fun r => r.putProp g (Key.ofString n) ⟨.data .undefined true, true, isEval⟩
  match ← Eval.stmts ops ctx none body with
  | .normal v | .brk _ v | .cont _ v => pure (v.getD .undefined)
  | .ret v => pure v

def syntaxText (e : ParseError) : String :=
  e.message ++ " at line " ++ toString e.pos.line ++ ", col " ++ toString e.pos.col

def evalSource (ops : Ops) (src : String) (isEval : Bool) : M Value := do
  match parseScript src with
  | .error e => M.syntaxError (syntaxText e)
  | .ok (body, strict) => runScript ops body strict isEval

end Invoke

end ScriptBridge.Script
