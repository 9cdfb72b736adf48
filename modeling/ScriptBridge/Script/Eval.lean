import ScriptBridge.Script.Operators
import ScriptBridge.Script.Environment
import ScriptBridge.Script.Hoist
import ScriptBridge.Script.Function
import ScriptBridge.Script.Iteration

/-!
# Evaluating expressions and statements

The evaluator follows the syntax tree: each expression and statement is evaluated from the
results of its parts. Calls and constructions go through the `Ops` it is given, so this module
never runs a function body itself; loops are the only constructs that run a part more than once,
and each loop iteration first counts against the realm's loop limit.

A statement finishes with a `Completion`. The value of a statement list is that of its last
statement with a value, which is what a script evaluates to.

Patterns are bound part by part (`bindPattern`): an object pattern reads the properties it
names, and its rest gets the other enumerable own properties; an array pattern walks the value
as `for … of` does, and its rest gets the elements left. A default is used for a part that is
`undefined`. An optional chain reads its links one by one and stops at a `?.` link whose value
is `null` or `undefined`.
-/

namespace ScriptBridge.Script

/-- How a statement finished: normally, with the value it produced if any; by `return`; or by
`break` or `continue`, with their label and the value produced so far. -/
inductive Completion where
  | normal (v : Option Value)
  | ret (v : Value)
  | brk (label : Option String) (v : Option Value)
  | cont (label : Option String) (v : Option Value)
  deriving Inhabited

namespace Completion

def value? : Completion → Option Value
  | .normal v | .brk _ v | .cont _ v => v
  | .ret v => some v

def updateEmpty (c : Completion) (v : Value) : Completion :=
  match c with
  | .normal none => .normal (some v)
  | .brk l none => .brk l (some v)
  | .cont l none => .cont l (some v)
  | _ => c

end Completion

/-- Where code runs: its scope, and whether it is strict. -/
structure Ctx where
  scope : Nat
  strict : Bool

namespace Eval

def loopFuel : Nat := 2 ^ 62

def tick : M Unit := do
  let r ← get
  match r.limits.loops with
  | some lim =>
    if r.loops > lim then throw (.limit ("Maximum loop iteration limit " ++ toString lim ++ " exceeded"))
    else set { r with loops := r.loops + 1 }
  | none => pure ()

def loop {α : Type} : Nat → (α → M (Sum α Completion)) → α → M Completion
  | 0, _, _ => throw .exhausted
  | f + 1, step, st => do
    match ← step st with
    | .inl st' => loop f step st'
    | .inr c => pure c

def continues (c : Completion) (labels : List String) : Bool :=
  match c with
  | .normal _ | .cont none _ => true
  | .cont (some l) _ => labels.contains l
  | _ => false

def exitLoop (c : Completion) (labels : List String) (v : Value) : Completion :=
  match c with
  | .brk none w => .normal (some (w.getD v))
  | .brk (some l) w => if labels.contains l then .normal (some (w.getD v)) else .brk (some l) (some (w.getD v))
  | .ret w => .ret w
  | .cont l w => .cont l (some (w.getD v))
  | .normal w => .normal (some (w.getD v))

def arrayOfSlots (vs : List (Option Value)) : M Value := do
  let (t, n) := vs.foldl (fun (acc : Table × Nat) v => match v with
      | some v => (acc.1.insert (Key.ofIndex acc.2) (Property.plain v), acc.2 + 1)
      | none => (acc.1, acc.2 + 1)) ({}, 0)
  pure (.obj (← M.alloc { proto := some Intrinsic.arrayPrototype.ref, props := t, kind := .array n true }))

def copyProperties (ops : Ops) (target : Nat) (src : Value) : M Unit := do
  if src.isNullish then pure ()
  else
    let o ← Convert.toObject src
    let keys ← Objects.ownKeys ops o
    for k in keys do
      match ← Objects.getOwn ops o k with
      | some p =>
        if p.enumerable then
          Objects.createDataOrThrow ops target k (← Objects.getWith ops o k (.obj o))
      | none => pure ()

def closureOf (ctx : Ctx) (f : Func) (home : Option Nat := none) : Closure :=
  { func := f, scope := ctx.scope, thisLexical := f.kind == .arrow, isClass := false, home }

def enterBlock (ctx : Ctx) (body : List Stmt) : M Ctx := do
  let lex := Hoist.lexicals body
  let fns := Hoist.functions body
  if lex.isEmpty && fns.isEmpty then pure ctx
  else
    let sc ← Env.enter ctx.scope
    for (n, mutable) in lex do
      Env.declare sc n ⟨.undefined, mutable, false⟩
    let ctx' := { ctx with scope := sc }
    for (n, f) in fns do
      let fo ← M.makeClosure (closureOf ctx' f) n
      Env.declare sc n ⟨.obj fo, true, true⟩
    pure ctx'

def defineMethod (ops : Ops) (o : Nat) (k : Key) (fn : Nat) (enumerable : Bool) : M Unit := do
  let _ ← Objects.define ops o k
    { value := some (.obj fn), writable := some true, enumerable := some enumerable,
      configurable := some true }

def defineAccessor (ops : Ops) (o : Nat) (k : Key) (fn : Nat) (isGetter : Bool) (enumerable : Bool) :
    M Unit := do
  let d : Descriptor := if isGetter then { getter := some (.obj fn) } else { setter := some (.obj fn) }
  let _ ← Objects.define ops o k { d with enumerable := some enumerable, configurable := some true }

def stepNumeric (incr : Bool) : Value → Value
  | .bigint n => .bigint (if incr then n + 1 else n - 1)
  | .num x => .num (if incr then x + 1 else x - 1)
  | v => v

def interleave : List Units → List Units → Units
  | p :: ps, t :: ts => p ++ t ++ interleave ps ts
  | p :: ps, [] => p ++ interleave ps []
  | [], _ => #[]

def enumerableKeys (ops : Ops) (o : Nat) : M (List Units) := do
  let rec walk : Nat → Nat → List Units → List Units → M (List Units)
    | 0, _, _, acc => pure acc
    | f + 1, o, seen, acc => do
      let keys ← Objects.ownKeys ops o
      let (seen, acc) ← keys.foldlM (fun (st : List Units × List Units) k => do
        match k with
        | .str s =>
          if st.1.contains s then pure st
          else match ← Objects.getOwn ops o k with
            | some p => pure (s :: st.1, if p.enumerable then acc' st.2 s else st.2)
            | none => pure st
        | .sym _ => pure st) (seen, acc)
      match ← Objects.protoOf ops o with
      | some p => walk f p seen acc
      | none => pure acc
  let r ← get
  pure (← walk (r.heap.size + 1) o [] []).reverse
where
  acc' (l : List Units) (s : Units) : List Units := s :: l

/-- How the names of a pattern receive their values: assigned where they are bound (an unbound
name becoming a global property), given their first value in the current scope, or bound anew
in it. -/
inductive BindMode where
  | assign
  | first
  | declare (mutable : Bool)

def bindName (ops : Ops) (ctx : Ctx) (mode : BindMode) (n : String) (v : Value) : M Unit :=
  match mode with
  | .assign => Env.setVar ops ctx.scope n v ctx.strict
  | .first => Env.initBinding ctx.scope n v
  | .declare mutable => Env.declare ctx.scope n ⟨v, mutable, true⟩

def loopScope (ctx : Ctx) (kind : Option DeclKind) : M (Ctx × BindMode) := do
  match kind with
  | some .letDecl | some .constDecl => do
    let sc ← Env.enter ctx.scope
    pure ({ ctx with scope := sc }, .declare (kind == some .letDecl))
  | _ => pure (ctx, .assign)

def keepsOld : LogicOp → Value → Bool
  | .and, v => !v.truthy
  | .or, v => v.truthy
  | .coalesce, v => !v.isNullish

def destructureMessage : Value → String
  | .null => "Cannot destructure 'null' value"
  | _ => "Cannot destructure 'undefined' value"

def restObject (ops : Ops) (src : Value) (used : List Key) : M Nat := do
  let o ← M.newObject (some Intrinsic.objectPrototype.ref)
  let so ← Convert.toObject src
  for k in ← Objects.ownKeys ops so do
    if !used.contains k then
      match ← Objects.getOwn ops so k with
      | some p =>
        if p.enumerable then Objects.createDataOrThrow ops o k (← Objects.getWith ops so k (.obj so))
      | none => pure ()
  pure o

def nextElement (ops : Ops) : Option Iteration.Source → M (Value × Option Iteration.Source)
  | none => pure (.undefined, none)
  | some src => do
    match ← Iteration.step ops src with
    | some (v, rest) => pure (v, some rest)
    | none => pure (.undefined, none)

def superHome (ctx : Ctx) : M Nat := do
  match Env.frameOf (← get) ctx.scope with
  | some fr => match fr.home with
    | some h => pure h
    | none => M.syntaxError "'super' keyword unexpected here"
  | none => M.syntaxError "'super' keyword unexpected here"

def superGet (ops : Ops) (ctx : Ctx) (k : Key) : M Value := do
  let thisV ← Env.thisValue ctx.scope
  let home ← M.obj (← superHome ctx)
  match home.proto with
  | some p => Objects.getWith ops p k thisV
  | none => M.typeError "cannot convert 'null' or 'undefined' to object"

def callWith (ops : Ops) (f thisV : Value) (args : List Value) (pos : Pos) : M Value := do
  if !(← get).isCallable f then M.typeError "not a callable function"
  modify fun r => { r with site := some pos }
  ops.call f thisV args

mutual

def expr (ops : Ops) (ctx : Ctx) (hint : Option String) : Expr → M Value
  | .num x => pure (.num x)
  | .str s => pure (.str s)
  | .bigint n => pure (.bigint n)
  | .bool b => pure (.bool b)
  | .null => pure .null
  | .thisRef => Env.thisValue ctx.scope
  | .ident n => Env.getVar ops ctx.scope n
  | .array is => do arrayOfSlots (← slots ops ctx is)
  | .object ps => do
    let o ← M.newObject (some Intrinsic.objectPrototype.ref)
    props ops ctx o ps
    pure (.obj o)
  | .func f => do
    let name := f.name.getD (hint.getD "")
    match f.kind, f.name with
    | .normal, some n => do
      let sc ← Env.enter ctx.scope
      let fo ← M.makeClosure (closureOf { ctx with scope := sc } f) name
      Env.declare sc n ⟨.obj fo, false, true⟩
      pure (.obj fo)
    | _, _ => pure (.obj (← M.makeClosure (closureOf ctx (f.withName name)) name))
  | .cls c => classDef ops ctx hint c
  | .unary .typeOf (.ident n) => do
    let v ← if ← Env.isBound ops ctx.scope n then Env.getVar ops ctx.scope n else pure .undefined
    pure (Value.ofString (Operators.typeOf (← get) v))
  | .unary .delete (.member o n) => do
    let ov ← expr ops ctx none o
    deleteKey ops ctx ov (Key.ofString n)
  | .unary .delete (.index o k) => do
    let ov ← expr ops ctx none o
    let kv ← expr ops ctx none k
    deleteKey ops ctx ov (← Convert.toKey ops kv)
  | .unary .delete (.ident _) => pure (.bool false)
  | .unary op e => do
    let v ← expr ops ctx none e
    match op with
    | .typeOf => pure (Value.ofString (Operators.typeOf (← get) v))
    | .delete => pure (.bool true)
    | .neg => Operators.negate ops v
    | .plus => pure (.num (← Convert.toNumber ops v))
    | .not => pure (.bool !v.truthy)
    | .bitNot => Operators.complement ops v
    | .void => pure .undefined
  | .update incr pre target => do
    match target with
    | .ident n => do
      let old ← Convert.toNumeric ops (← Env.getVar ops ctx.scope n)
      let new := stepNumeric incr old
      Env.setVar ops ctx.scope n new ctx.strict
      pure (if pre then new else old)
    | .member o n => do
      let ov ← expr ops ctx none o
      let key := Key.ofString n
      let old ← Convert.toNumeric ops (← Convert.getValue ops ov key)
      let new := stepNumeric incr old
      Convert.putValue ops ov key new ctx.strict
      pure (if pre then new else old)
    | .index o k => do
      let ov ← expr ops ctx none o
      let key ← Convert.toKey ops (← expr ops ctx none k)
      let old ← Convert.toNumeric ops (← Convert.getValue ops ov key)
      let new := stepNumeric incr old
      Convert.putValue ops ov key new ctx.strict
      pure (if pre then new else old)
    | _ => M.syntaxError "invalid increment or decrement target"
  | .binary op a b => do
    let x ← expr ops ctx none a
    let y ← expr ops ctx none b
    Operators.binary ops op x y
  | .logic op a b => do
    let x ← expr ops ctx none a
    match op with
    | .and => if x.truthy then expr ops ctx none b else pure x
    | .or => if x.truthy then pure x else expr ops ctx none b
    | .coalesce => if x.isNullish then expr ops ctx none b else pure x
  | .cond c a b => do
    if (← expr ops ctx none c).truthy then expr ops ctx hint a else expr ops ctx hint b
  | .assign op target value => do
    match target with
    | .ident n => do
      let v ← match op with
        | none => expr ops ctx (some n) value
        | some o => do
          let old ← Env.getVar ops ctx.scope n
          let r ← expr ops ctx none value
          Operators.binary ops o old r
      Env.setVar ops ctx.scope n v ctx.strict
      pure v
    | .member ob n => do
      let base ← expr ops ctx none ob
      let key := Key.ofString n
      let v ← match op with
        | none => expr ops ctx none value
        | some o => do
          let old ← Convert.getValue ops base key
          let r ← expr ops ctx none value
          Operators.binary ops o old r
      Convert.putValue ops base key v ctx.strict
      pure v
    | .index ob k => do
      let base ← expr ops ctx none ob
      let key ← Convert.toKey ops (← expr ops ctx none k)
      let v ← match op with
        | none => expr ops ctx none value
        | some o => do
          let old ← Convert.getValue ops base key
          let r ← expr ops ctx none value
          Operators.binary ops o old r
      Convert.putValue ops base key v ctx.strict
      pure v
    | _ => M.syntaxError "invalid assignment target"
  | .seq a b => do
    let _ ← expr ops ctx none a
    expr ops ctx none b
  | .call (.superMember n) args pos => do
    let thisV ← Env.thisValue ctx.scope
    let f ← superGet ops ctx (Key.ofString n)
    callWith ops f thisV (← items ops ctx args) pos
  | .call (.superIndex k) args pos => do
    let thisV ← Env.thisValue ctx.scope
    let key ← Convert.toKey ops (← expr ops ctx none k)
    let f ← superGet ops ctx key
    callWith ops f thisV (← items ops ctx args) pos
  | .call (.member o n) args pos => do
    let ov ← expr ops ctx none o
    let f ← Convert.getValue ops ov (Key.ofString n)
    callWith ops f ov (← items ops ctx args) pos
  | .call (.index o k) args pos => do
    let ov ← expr ops ctx none o
    let key ← Convert.toKey ops (← expr ops ctx none k)
    let f ← Convert.getValue ops ov key
    callWith ops f ov (← items ops ctx args) pos
  | .call callee args pos => do
    let f ← expr ops ctx none callee
    callWith ops f .undefined (← items ops ctx args) pos
  | .construct callee args pos => do
    let c ← expr ops ctx none callee
    let argv ← items ops ctx args
    if !(← get).isConstructor c then M.typeError "not a constructor"
    modify fun r => { r with site := some pos }
    ops.construct c argv c
  | .member o n => do
    let ov ← expr ops ctx none o
    Convert.getValue ops ov (Key.ofString n)
  | .index o k => do
    let ov ← expr ops ctx none o
    let kv ← expr ops ctx none k
    Convert.getValue ops ov (← Convert.toKey ops kv)
  | .template parts es => do
    let vs ← exprs ops ctx es
    let texts ← vs.mapM (Convert.toString ops)
    pure (.str (interleave parts texts))
  | .logicAssign op target value => do
    match target with
    | .ident n => do
      let old ← Env.getVar ops ctx.scope n
      if keepsOld op old then pure old
      else do
        let v ← expr ops ctx (some n) value
        Env.setVar ops ctx.scope n v ctx.strict
        pure v
    | .member ob n => do
      let base ← expr ops ctx none ob
      let key := Key.ofString n
      let old ← Convert.getValue ops base key
      if keepsOld op old then pure old
      else do
        let v ← expr ops ctx none value
        Convert.putValue ops base key v ctx.strict
        pure v
    | .index ob k => do
      let base ← expr ops ctx none ob
      let key ← Convert.toKey ops (← expr ops ctx none k)
      let old ← Convert.getValue ops base key
      if keepsOld op old then pure old
      else do
        let v ← expr ops ctx none value
        Convert.putValue ops base key v ctx.strict
        pure v
    | _ => M.syntaxError "invalid assignment target"
  | .destructure target value => do
    let v ← expr ops ctx none value
    bindPattern ops ctx .assign target v
    pure v
  | .superMember n => superGet ops ctx (Key.ofString n)
  | .superIndex k => do
    let key ← Convert.toKey ops (← expr ops ctx none k)
    superGet ops ctx key
  | .superCall args pos => do
    let argv ← items ops ctx args
    match Env.frameOf (← get) ctx.scope with
    | none => M.syntaxError "'super' keyword unexpected here"
    | some fr => do
      let callee ← M.obj fr.callee
      let parent : Value := match callee.proto with
        | some p => .obj p
        | none => .null
      if !(← get).isConstructor parent then M.typeError "super constructor is not a constructor"
      if let some p := pos then modify fun r => { r with site := some p }
      let result ← ops.construct parent argv fr.newTarget
      Env.bindThis ctx.scope result
      match result with
      | .obj o => ops.initFields fr.callee o
      | _ => pure ()
      pure result
  | .newTarget => do
    match Env.frameOf (← get) ctx.scope with
    | some fr => pure fr.newTarget
    | none => pure .undefined
  | .chain base links => do
    let v ← expr ops ctx none base
    match ← chainLinks ops ctx v .undefined links with
    | some r => pure r
    | none => pure .undefined

def chainLinks (ops : Ops) (ctx : Ctx) : Value → Value → List Link → M (Option Value)
  | v, _, [] => pure (some v)
  | v, _, .member n opt :: r => do
    if opt && v.isNullish then pure none
    else chainLinks ops ctx (← Convert.getValue ops v (Key.ofString n)) v r
  | v, _, .index k opt :: r => do
    if opt && v.isNullish then pure none
    else do
      let key ← Convert.toKey ops (← expr ops ctx none k)
      chainLinks ops ctx (← Convert.getValue ops v key) v r
  | v, recv, .call args pos opt :: r => do
    if opt && v.isNullish then pure none
    else chainLinks ops ctx (← callWith ops v recv (← items ops ctx args) pos) .undefined r

def bindPattern (ops : Ops) (ctx : Ctx) (mode : BindMode) : Pattern → Value → M Unit
  | .name n, v => bindName ops ctx mode n v
  | .target e, v => assignTarget ops ctx e v
  | .object props rest, v => do
    if v.isNullish then M.typeError (destructureMessage v)
    let used ← bindProps ops ctx mode v props
    bindObjectRest ops ctx mode rest v used
  | .array elems rest, v => do
    let src ← bindElems ops ctx mode (some (← Iteration.start ops v)) elems
    bindArrayRest ops ctx mode rest src

def assignTarget (ops : Ops) (ctx : Ctx) : Expr → Value → M Unit
  | .member o n, v => do Convert.putValue ops (← expr ops ctx none o) (Key.ofString n) v ctx.strict
  | .index o k, v => do
    let base ← expr ops ctx none o
    let key ← Convert.toKey ops (← expr ops ctx none k)
    Convert.putValue ops base key v ctx.strict
  | _, _ => M.syntaxError "invalid assignment target"

def defaultOf (ops : Ops) (ctx : Ctx) (hint : Option String) : Option Expr → Value → M Value
  | some e, .undefined => expr ops ctx hint e
  | _, v => pure v

def bindProps (ops : Ops) (ctx : Ctx) (mode : BindMode) (v : Value) : List PatProp → M (List Key)
  | [] => pure []
  | .mk key p d :: r => do
    let k ← propKey ops ctx key
    let x ← defaultOf ops ctx p.name? d (← Convert.getValue ops v k)
    bindPattern ops ctx mode p x
    pure (k :: (← bindProps ops ctx mode v r))

def bindObjectRest (ops : Ops) (ctx : Ctx) (mode : BindMode) :
    Option Pattern → Value → List Key → M Unit
  | none, _, _ => pure ()
  | some r, v, used => do bindPattern ops ctx mode r (.obj (← restObject ops v used))

def bindElems (ops : Ops) (ctx : Ctx) (mode : BindMode) :
    Option Iteration.Source → List PatElem → M (Option Iteration.Source)
  | src, [] => pure src
  | src, .hole :: r => do
    let (_, src) ← nextElement ops src
    bindElems ops ctx mode src r
  | src, .one p d :: r => do
    let (x, src) ← nextElement ops src
    let x ← defaultOf ops ctx p.name? d x
    bindPattern ops ctx mode p x
    bindElems ops ctx mode src r

def bindArrayRest (ops : Ops) (ctx : Ctx) (mode : BindMode) :
    Option Pattern → Option Iteration.Source → M Unit
  | none, _ => pure ()
  | some r, src => do
    let vs ← match src with
      | some s => Iteration.drain ops 4294967296 s []
      | none => pure []
    bindPattern ops ctx mode r (.obj (← M.newArray vs))

def exprs (ops : Ops) (ctx : Ctx) : List Expr → M (List Value)
  | [] => pure []
  | e :: r => do
    let v ← expr ops ctx none e
    pure (v :: (← exprs ops ctx r))

def deleteKey (ops : Ops) (ctx : Ctx) (base : Value) (k : Key) : M Value := do
  let o ← Convert.toObject base
  let ok ← Objects.delete ops o k
  if !ok && ctx.strict then
    M.typeError ("cannot delete non-configurable property: " ++ (← get).keyText k)
  pure (.bool ok)

def items (ops : Ops) (ctx : Ctx) : List Item → M (List Value)
  | [] => pure []
  | .hole :: r => items ops ctx r
  | .one e :: r => do
    let v ← expr ops ctx none e
    pure (v :: (← items ops ctx r))
  | .spread e :: r => do
    let vs ← Iteration.values ops (← expr ops ctx none e)
    pure (vs ++ (← items ops ctx r))

def slots (ops : Ops) (ctx : Ctx) : List Item → M (List (Option Value))
  | [] => pure []
  | .hole :: r => do pure (none :: (← slots ops ctx r))
  | .one e :: r => do
    let v ← expr ops ctx none e
    pure (some v :: (← slots ops ctx r))
  | .spread e :: r => do
    let vs ← Iteration.values ops (← expr ops ctx none e)
    pure (vs.map some ++ (← slots ops ctx r))

def propKey (ops : Ops) (ctx : Ctx) : PropName → M Key
  | .fixed s => pure (.str s)
  | .computed e => do Convert.toKey ops (← expr ops ctx none e)

def props (ops : Ops) (ctx : Ctx) (o : Nat) : List PropDef → M Unit
  | [] => pure ()
  | .value key e :: r => do
    let k ← propKey ops ctx key
    let isProto := match key with
      | .fixed s => s == Units.ofString "__proto__"
      | .computed _ => false
    let name := keyName (← get) k
    let v ← match e with
      | .func f =>
        if f.kind == .method then do
          let nm := f.name.getD name
          pure (.obj (← M.makeClosure (closureOf ctx (f.withName nm) (some o)) nm))
        else expr ops ctx (some name) e
      | _ => expr ops ctx (some name) e
    if isProto then
      match v with
      | .obj p => M.modifyObj o fun ob => { ob with proto := some p }
      | .null => M.modifyObj o fun ob => { ob with proto := none }
      | _ => pure ()
    else Objects.createDataOrThrow ops o k v
    props ops ctx o r
  | .getter key f :: r => do
    let k ← propKey ops ctx key
    let fn ← M.makeClosure (closureOf ctx f (some o)) (f.name.getD ("get " ++ keyName (← get) k))
    defineAccessor ops o k fn true true
    props ops ctx o r
  | .setter key f :: r => do
    let k ← propKey ops ctx key
    let fn ← M.makeClosure (closureOf ctx f (some o)) (f.name.getD ("set " ++ keyName (← get) k))
    defineAccessor ops o k fn false true
    props ops ctx o r
  | .spread e :: r => do
    copyProperties ops o (← expr ops ctx none e)
    props ops ctx o r

def classDef (ops : Ops) (ctx : Ctx) (hint : Option String) : ClassDef → M Value
  | .mk name heritage ctor members => do
    let cname := (name.map some |>.getD hint).getD ""
    let cs ← Env.enter ctx.scope
    if let some n := name then Env.declare cs n ⟨.undefined, false, false⟩
    let cctx : Ctx := { scope := cs, strict := true }
    let (protoParent, ctorParent, parent) ← match heritage with
      | none => pure (some Intrinsic.objectPrototype.ref, some Intrinsic.functionPrototype.ref, none)
      | some h => do
        let hv ← expr ops cctx none h
        match hv with
        | .null => pure (none, some Intrinsic.functionPrototype.ref, none)
        | _ => do
          if !(← get).isConstructor hv then M.typeError "superclass must be a constructor"
          match ← Convert.getValue ops hv (Key.ofString "prototype") with
          | .obj p => pure (some p, hv.asObj?, some hv)
          | .null => pure (none, hv.asObj?, some hv)
          | _ => M.typeError "superclass prototype must be an object or null"
    let proto ← M.newObject protoParent
    -- a derived class without a constructor passes its arguments to its parent's
    let func := match ctor, parent with
      | some f, _ => f.withName cname
      | none, some _ => Func.mk (some cname) [.mk (.name "args") none true]
          [.expr (.superCall [.spread (.ident "args")] none)] .classConstructor true
      | none, none => Func.mk (some cname) [] [] .classConstructor true
    let clos : Closure :=
      { func, scope := cs, thisLexical := false, isClass := true, heritage := parent,
        home := some proto }
    let fo ← M.makeFunction (.closure clos) func.arity cname false
    M.modifyObj fo fun ob => { ob with proto := ctorParent }
    modify fun r => r.putProp fo (Key.ofString "prototype") (Property.fixed (.obj proto))
    modify fun r => r.putProp proto (Key.ofString "constructor") (Property.hidden (.obj fo))
    let (fields, keys) ← classMembers ops cctx fo proto members
    M.modifyObj fo fun ob => match ob.kind with
      | .closure c => { ob with kind := .closure { c with fields } }
      | _ => ob
    if let some n := name then Env.initBinding cs n (.obj fo)
    staticFields ops cctx fo keys members
    pure (.obj fo)

def classMembers (ops : Ops) (ctx : Ctx) (fo proto : Nat) :
    List ClassMember → M (List Field × List Key)
  | [] => pure ([], [])
  | .method st key f :: r => do
    let k ← propKey ops ctx key
    let fn ← M.makeClosure (closureOf ctx f (some (if st then fo else proto))) (f.name.getD (keyName (← get) k))
    defineMethod ops (if st then fo else proto) k fn false
    classMembers ops ctx fo proto r
  | .getter st key f :: r => do
    let k ← propKey ops ctx key
    let fn ← M.makeClosure (closureOf ctx f (some (if st then fo else proto)))
      (f.name.getD ("get " ++ keyName (← get) k))
    defineAccessor ops (if st then fo else proto) k fn true false
    classMembers ops ctx fo proto r
  | .setter st key f :: r => do
    let k ← propKey ops ctx key
    let fn ← M.makeClosure (closureOf ctx f (some (if st then fo else proto)))
      (f.name.getD ("set " ++ keyName (← get) k))
    defineAccessor ops (if st then fo else proto) k fn false false
    classMembers ops ctx fo proto r
  | .field st key init :: r => do
    let k ← propKey ops ctx key
    let (fs, ks) ← classMembers ops ctx fo proto r
    pure (if st then fs else ⟨k, init⟩ :: fs, k :: ks)

def staticFields (ops : Ops) (ctx : Ctx) (fo : Nat) : List Key → List ClassMember → M Unit
  | k :: ks, .field st _ init :: r => do
    if st then
      let sc ← Env.enter ctx.scope (some (.obj fo))
      let v ← match init with
        | some e => expr ops { ctx with scope := sc } (some (keyName (← get) k)) e
        | none => pure .undefined
      Objects.createDataOrThrow ops fo k v
    staticFields ops ctx fo ks r
  | ks, _ :: r => staticFields ops ctx fo ks r
  | _, [] => pure ()

def decls (ops : Ops) (ctx : Ctx) (kind : DeclKind) : List Declarator → M Unit
  | [] => pure ()
  | .mk p init :: r => do
    match kind with
    | .varDecl =>
      match init with
      | some e => do bindPattern ops ctx .assign p (← expr ops ctx p.name? e)
      | none => pure ()
    | _ => do
      let v ← match init with
        | some e => expr ops ctx p.name? e
        | none => pure .undefined
      bindPattern ops ctx .first p v
    decls ops ctx kind r

def stmts (ops : Ops) (ctx : Ctx) (last : Option Value) : List Stmt → M Completion
  | [] => pure (.normal last)
  | s :: r => do
    match ← stmt ops ctx [] s with
    | .normal v => stmts ops ctx (v <|> last) r
    | .brk l v => pure (.brk l (v <|> last))
    | .cont l v => pure (.cont l (v <|> last))
    | .ret v => pure (.ret v)

def stmt (ops : Ops) (ctx : Ctx) (labels : List String) : Stmt → M Completion
  | .expr e => do pure (.normal (some (← expr ops ctx none e)))
  | .decl k ds => do
    decls ops ctx k ds
    pure (.normal none)
  | .funDecl _ _ => pure (.normal none)
  | .classDecl n c => do
    let v ← classDef ops ctx (some n) c
    Env.initBinding ctx.scope n v
    pure (.normal none)
  | .ret e => do
    match e with
    | some x => pure (.ret (← expr ops ctx none x))
    | none => pure (.ret .undefined)
  | .ifStmt c t e => do
    if (← expr ops ctx none c).truthy then pure ((← stmt ops ctx [] t).updateEmpty .undefined)
    else match e with
      | some s => do pure ((← stmt ops ctx [] s).updateEmpty .undefined)
      | none => pure (.normal (some .undefined))
  | .block b => do stmts ops (← enterBlock ctx b) none b
  | .whileStmt c b =>
    loop loopFuel (fun (v : Value) => do
      tick
      if !(← expr ops ctx none c).truthy then pure (.inr (.normal (some v)))
      else do
        let r ← stmt ops ctx [] b
        if continues r labels then pure (.inl (r.value?.getD v))
        else pure (.inr (exitLoop r labels v))) .undefined
  | .doWhile b c =>
    loop loopFuel (fun (v : Value) => do
      let r ← stmt ops ctx [] b
      if !continues r labels then pure (.inr (exitLoop r labels v))
      else do
        let v := r.value?.getD v
        tick
        if (← expr ops ctx none c).truthy then pure (.inl v)
        else pure (.inr (.normal (some v)))) .undefined
  | .forStmt init test update body => do
    let (lctx, perIteration) ← forInit ops ctx init
    let first ← if perIteration then Env.copy lctx.scope else pure lctx.scope
    loop loopFuel (fun (st : Nat × Value) => do
      let (sc, v) := st
      let c := { lctx with scope := sc }
      tick
      let go ← match test with
        | some t => do pure (← expr ops c none t).truthy
        | none => pure true
      if !go then pure (.inr (.normal (some v)))
      else do
        let r ← stmt ops c [] body
        if !continues r labels then pure (.inr (exitLoop r labels v))
        else do
          let v := r.value?.getD v
          let sc' ← if perIteration then Env.copy sc else pure sc
          match update with
          | some u => do let _ ← expr ops { c with scope := sc' } none u
          | none => pure ()
          pure (.inl (sc', v))) (first, .undefined)
  | .forIn kind x obj body => do
    let ov ← expr ops ctx none obj
    if ov.isNullish then pure (.normal none)
    else do
      let o ← Convert.toObject ov
      let keys ← enumerableKeys ops o
      loop loopFuel (fun (st : List Units × Value) => do
        match st with
        | ([], v) => pure (.inr (.normal (some v)))
        | (k :: ks, v) => do
          tick
          let (c, mode) ← loopScope ctx kind
          bindPattern ops c mode x (.str k)
          let r ← stmt ops c [] body
          if continues r labels then pure (.inl (ks, r.value?.getD v))
          else pure (.inr (exitLoop r labels v))) (keys, .undefined)
  | .forOf kind x obj body => do
    let src ← Iteration.start ops (← expr ops ctx none obj)
    loop loopFuel (fun (st : Iteration.Source × Value) => do
      let (src, v) := st
      tick
      match ← Iteration.step ops src with
      | none => pure (.inr (.normal (some v)))
      | some (item, rest) => do
        let (c, mode) ← loopScope ctx kind
        bindPattern ops c mode x item
        let r ← stmt ops c [] body
        if continues r labels then pure (.inl (rest, r.value?.getD v))
        else pure (.inr (exitLoop r labels v))) (src, .undefined)
  | .throwStmt e => do throw (.thrown (← expr ops ctx none e))
  | .tryStmt body param handler finalizer => do
    let attempt ← tryCatch (Except.ok <$> (do stmts ops (← enterBlock ctx body) none body))
      (fun e => pure (Except.error e))
    let handled ← match attempt, handler with
      | .error (.thrown v), some h => do
        let sc ← Env.enter ctx.scope
        let hctx : Ctx := { ctx with scope := sc }
        if let some p := param then bindPattern ops hctx (.declare true) p v
        tryCatch (Except.ok <$> (do stmts ops (← enterBlock hctx h) none h))
          (fun e => pure (Except.error e))
      | a, _ => pure a
    match handled with
    | .error (.limit m) => throw (.limit m)
    | .error .exhausted => throw .exhausted
    | _ => do
      match finalizer with
      | some fin => do
        let fc ← stmts ops (← enterBlock ctx fin) none fin
        match fc with
        | .normal _ => match handled with
          | .ok c => pure (c.updateEmpty .undefined)
          | .error e => throw e
        | _ => pure (fc.updateEmpty .undefined)
      | none => match handled with
        | .ok c => pure (c.updateEmpty .undefined)
        | .error e => throw e
  | .brk l => pure (.brk l none)
  | .cont l => pure (.cont l none)
  | .labelled l s => do
    let r ← stmt ops ctx (l :: labels) s
    match r with
    | .brk (some l') v => if l' == l then pure (.normal v) else pure r
    | _ => pure r
  | .switchStmt d cs => do
    let dv ← expr ops ctx none d
    let sc ← Env.enter ctx.scope
    let bodies := cs.flatMap fun | .mk _ b => b
    for (n, mutable) in Hoist.lexicals bodies do
      Env.declare sc n ⟨.undefined, mutable, false⟩
    let sctx := { ctx with scope := sc }
    for (n, f) in Hoist.functions bodies do
      let fo ← M.makeClosure (closureOf sctx f) n
      Env.declare sc n ⟨.obj fo, true, true⟩
    let (r, matched) ← cases ops sctx dv false none cs
    let r ← if matched then pure r else defaults ops sctx false none cs
    match r with
    | .brk none v => pure (.normal (some (v.getD .undefined)))
    | _ => pure (r.updateEmpty .undefined)
  | .empty => pure (.normal none)

def forInit (ops : Ops) (ctx : Ctx) : Option Stmt → M (Ctx × Bool)
  | some (.decl .varDecl ds) => do
    decls ops ctx .varDecl ds
    pure (ctx, false)
  | some (.decl k ds) => do
    let sc ← Env.enter ctx.scope
    for n in Hoist.declaratorNames ds do
      Env.declare sc n ⟨.undefined, k == .letDecl, false⟩
    let lctx := { ctx with scope := sc }
    decls ops lctx k ds
    pure (lctx, k == .letDecl)
  | some s => do
    let _ ← stmt ops ctx [] s
    pure (ctx, false)
  | none => pure (ctx, false)

def cases (ops : Ops) (ctx : Ctx) (d : Value) (matched : Bool) (last : Option Value) :
    List Clause → M (Completion × Bool)
  | [] => pure (.normal last, matched)
  | .mk test body :: rest => do
    let m ← if matched then pure true
      else match test with
        | some t => do pure (Value.strictEquals d (← expr ops ctx none t))
        | none => pure false
    if m then do
      match ← stmts ops ctx last body with
      | .normal v => cases ops ctx d true v rest
      | r => pure (r, true)
    else cases ops ctx d false last rest

def defaults (ops : Ops) (ctx : Ctx) (found : Bool) (last : Option Value) :
    List Clause → M Completion
  | [] => pure (.normal last)
  | .mk test body :: rest => do
    let found := found || test.isNone
    if found then do
      match ← stmts ops ctx last body with
      | .normal v => defaults ops ctx true v rest
      | r => pure r
    else defaults ops ctx false last rest

end

end Eval

end ScriptBridge.Script
