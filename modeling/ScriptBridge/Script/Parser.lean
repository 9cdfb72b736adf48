import ScriptBridge.Script.Lexer
import ScriptBridge.Decimal.Layout

/-!
# Parsing scripts

A recursive-descent parser from tokens to syntax. Binary operators are read by precedence
climbing. A statement ends at a semicolon, before a closing brace or the end, or at a line break
(the language's automatic semicolons). An arrow function is recognised by looking past the
balanced parentheses of its parameters for `=>`.

Every parsing function takes a fuel argument that bounds its depth of recursion; the entry point
gives sixteen units per token, more than any nesting of the token list can use.

Errors read "expected token ';', got ':' in expression statement" and are placed at the token
that was not expected.

Binding patterns are read where names are bound (declarations, parameters, `catch`, loop heads).
An assignment to an array or object literal reads the literal as a pattern (`Expr.toPattern?`).
-/

namespace ScriptBridge.Script

/-- A syntax error and its place. -/
structure ParseError where
  message : String
  pos : Pos
  deriving Inhabited

/-- The parser's position: the index of the next token, and whether the code is strict. -/
structure ParseState where
  i : Nat
  strict : Bool

/-- Parsing: the tokens, the position, and failure with a syntax error. -/
abbrev Parse := ReaderT (Array Token) (StateT ParseState (Except ParseError))

def Tok.display : Tok → String
  | .name s => s
  | .num x => Decimal.scriptText x
  | .bigint n => toString n ++ "n"
  | .str s => "\"" ++ Units.toEscaped s ++ "\""
  | .punct p => p
  | .template s _ => Units.toEscaped s
  | .eof => "end of file"

def reservedWords : List String :=
  ["break", "case", "catch", "class", "const", "continue", "debugger", "default", "delete", "do",
   "else", "export", "extends", "finally", "for", "function", "if", "import", "in",
   "instanceof", "new", "return", "super", "switch", "this", "throw", "try", "typeof", "var",
   "void", "while", "with", "null", "true", "false", "enum"]

mutual

def Expr.toPattern? : Expr → Option Pattern
  | .ident n => some (.name n)
  | e@(.member ..) => some (.target e)
  | e@(.index ..) => some (.target e)
  | .array items => do
    let (elems, rest) ← Expr.itemPatterns? items
    pure (.array elems rest)
  | .object props => do
    let (members, rest) ← Expr.propPatterns? props
    pure (.object members rest)
  | _ => none

def Expr.itemPatterns? : List Item → Option (List PatElem × Option Pattern)
  | [] => some ([], none)
  | [.spread e] => do pure ([], some (← Expr.toPattern? e))
  | .spread _ :: _ => none
  | .hole :: r => do
    let (es, rest) ← Expr.itemPatterns? r
    pure (.hole :: es, rest)
  | .one (.assign none t d) :: r => do
    let p ← Expr.toPattern? t
    let (es, rest) ← Expr.itemPatterns? r
    pure (.one p (some d) :: es, rest)
  | .one e :: r => do
    let p ← Expr.toPattern? e
    let (es, rest) ← Expr.itemPatterns? r
    pure (.one p none :: es, rest)

def Expr.propPatterns? : List PropDef → Option (List PatProp × Option Pattern)
  | [] => some ([], none)
  | [.spread e] => do pure ([], some (← Expr.toPattern? e))
  | .value key (.assign none t d) :: r => do
    let p ← Expr.toPattern? t
    let (ms, rest) ← Expr.propPatterns? r
    pure (.mk key p (some d) :: ms, rest)
  | .value key e :: r => do
    let p ← Expr.toPattern? e
    let (ms, rest) ← Expr.propPatterns? r
    pure (.mk key p none :: ms, rest)
  | _ => none

end

def Expr.splitChain : Expr → Expr × List Link
  | .member o n => let (b, ls) := o.splitChain; (b, ls ++ [.member n false])
  | .index o k => let (b, ls) := o.splitChain; (b, ls ++ [.index k false])
  | .call c args pos => let (b, ls) := c.splitChain; (b, ls ++ [.call args pos false])
  | e => (e, [])

namespace Parse

def ahead (k : Nat) : Parse Token := do
  let ts ← read
  let s ← get
  pure (ts[s.i + k]?.getD (ts.back?.getD ⟨.eof, ⟨1, 1⟩, true⟩))

def peek : Parse Token := ahead 0

def advance : Parse Unit := modify fun s => { s with i := s.i + 1 }

def failAt (pos : Pos) (message : String) : Parse α := throw ⟨message, pos⟩

def expected (what context : String) : Parse α := do
  let t ← peek
  failAt t.pos ("expected token '" ++ what ++ "', got '" ++ t.tok.display ++ "' in " ++ context)

def unexpected (context : String) : Parse α := do
  let t ← peek
  failAt t.pos ("unexpected token '" ++ t.tok.display ++ "' in " ++ context)

def tooDeep : Parse α := do
  failAt (← peek).pos "too much nesting"

def isPunct (p : String) : Parse Bool := do pure ((← peek).tok == .punct p)

def isName (s : String) : Parse Bool := do pure ((← peek).tok == .name s)

def eatPunct (p : String) : Parse Bool := do
  if ← isPunct p then do advance; pure true else pure false

def eatName (s : String) : Parse Bool := do
  if ← isName s then do advance; pure true else pure false

def expectPunct (p context : String) : Parse Unit := do
  unless ← eatPunct p do expected p context

def bindingName (context : String := "identifier parsing") : Parse String := do
  match (← peek).tok with
  | .name s => if reservedWords.contains s then expected "identifier" context else do advance; pure s
  | _ => expected "identifier" context

def shorthandTarget (t : Token) : Parse Pattern :=
  match t.tok with
  | .name s =>
    if reservedWords.contains s then expected "identifier" "object pattern" else pure (.name s)
  | _ => expected ":" "object pattern"

def endStatement (context : String) : Parse Unit := do
  let t ← peek
  if t.tok == .punct ";" then advance
  else if t.tok == .punct "\x7d" || t.tok == .eof || t.newline then pure ()
  else expected ";" context

def binaryOp (t : Tok) (noIn : Bool) : Option (Nat × Sum LogicOp BinaryOp) :=
  match t with
  | .punct p =>
    if p == "??" then some (1, .inl .coalesce)
    else if p == "||" then some (2, .inl .or)
    else if p == "&&" then some (3, .inl .and)
    else if p == "|" then some (4, .inr .bor)
    else if p == "^" then some (5, .inr .bxor)
    else if p == "&" then some (6, .inr .band)
    else if p == "==" then some (7, .inr .eq)
    else if p == "!=" then some (7, .inr .ne)
    else if p == "===" then some (7, .inr .strictEq)
    else if p == "!==" then some (7, .inr .strictNe)
    else if p == "<" then some (8, .inr .lt)
    else if p == ">" then some (8, .inr .gt)
    else if p == "<=" then some (8, .inr .le)
    else if p == ">=" then some (8, .inr .ge)
    else if p == "<<" then some (9, .inr .shl)
    else if p == ">>" then some (9, .inr .shr)
    else if p == ">>>" then some (9, .inr .ushr)
    else if p == "+" then some (10, .inr .add)
    else if p == "-" then some (10, .inr .sub)
    else if p == "*" then some (11, .inr .mul)
    else if p == "/" then some (11, .inr .div)
    else if p == "%" then some (11, .inr .mod)
    else if p == "**" then some (12, .inr .pow)
    else none
  | .name "instanceof" => some (8, .inr .instanceOf)
  | .name "in" => if noIn then none else some (8, .inr .isIn)
  | _ => none

def assignOp (t : Tok) : Option (Option BinaryOp) :=
  match t with
  | .punct p =>
    if p == "=" then some none
    else if p == "+=" then some (some .add)
    else if p == "-=" then some (some .sub)
    else if p == "*=" then some (some .mul)
    else if p == "/=" then some (some .div)
    else if p == "%=" then some (some .mod)
    else if p == "**=" then some (some .pow)
    else if p == "<<=" then some (some .shl)
    else if p == ">>=" then some (some .shr)
    else if p == ">>>=" then some (some .ushr)
    else if p == "&=" then some (some .band)
    else if p == "|=" then some (some .bor)
    else if p == "^=" then some (some .bxor)
    else none
  | _ => none

def optionalName (exclude : List String) : Parse (Option String) := do
  match (← peek).tok with
  | .name s =>
    if reservedWords.contains s || exclude.contains s then pure none
    else do
      advance
      pure (some s)
  | _ => pure none

def arrowAhead : Parse Bool := do
  let ts ← read
  let s ← get
  let rec scan : Nat → Nat → Nat → Bool
    | 0, _, _ => false
    | n + 1, k, depth =>
      match ts[k]? with
      | none => false
      | some t =>
        match t.tok with
        | .punct "(" | .punct "[" | .punct "\x7b" => scan n (k + 1) (depth + 1)
        | .punct ")" | .punct "]" | .punct "\x7d" =>
          if depth == 1 then
            match ts[k + 1]? with
            | some u => u.tok == .punct "=>" && !u.newline
            | none => false
          else scan n (k + 1) (depth - 1)
        | .eof => false
        | _ => scan n (k + 1) depth
  pure (scan ts.size s.i 0)

def strictDirective : Parse Bool := do
  let t ← peek
  match t.tok with
  | .str s => pure (s == Units.ofString "use strict")
  | _ => pure false

def withStrict (b : Bool) (x : Parse α) : Parse α := do
  let old := (← get).strict
  modify fun s => { s with strict := old || b }
  let r ← x
  modify fun s => { s with strict := old }
  pure r

mutual

def expression : Nat → Bool → Parse Expr
  | 0, _ => tooDeep
  | n + 1, noIn => do
    let first ← assignment n noIn
    expressionRest n noIn first

def expressionRest : Nat → Bool → Expr → Parse Expr
  | 0, _, _ => tooDeep
  | n + 1, noIn, acc => do
    if ← eatPunct "," then
      let e ← assignment n noIn
      expressionRest n noIn (.seq acc e)
    else pure acc

def assignment : Nat → Bool → Parse Expr
  | 0, _ => tooDeep
  | n + 1, noIn => do
    let t ← peek
    let t1 ← ahead 1
    match t.tok with
    | .name s =>
      if t1.tok == .punct "=>" && !reservedWords.contains s then do
        advance
        arrowFunction n [.mk (.name s) none false]
      else assignmentTail n noIn
    | .punct "(" =>
      if ← arrowAhead then do
        advance
        let ps ← params n []
        arrowFunction n ps
      else assignmentTail n noIn
    | _ => assignmentTail n noIn

def assignmentTail : Nat → Bool → Parse Expr
  | 0, _ => tooDeep
  | n + 1, noIn => do
    let lhs ← conditional n noIn
    let t ← peek
    let logic : Option LogicOp := match t.tok with
      | .punct "&&=" => some .and
      | .punct "||=" => some .or
      | .punct "??=" => some .coalesce
      | _ => none
    match assignOp t.tok, logic with
    | some op, _ =>
      match lhs with
      | .ident _ | .member .. | .index .. => do
        advance
        let rhs ← assignment n noIn
        pure (.assign op lhs rhs)
      | .array _ | .object _ =>
        match op, lhs.toPattern? with
        | none, some p => do
          advance
          pure (.destructure p (← assignment n noIn))
        | _, _ => failAt t.pos "invalid left-hand side in assignment"
      | _ => failAt t.pos "invalid left-hand side in assignment"
    | none, some op =>
      match lhs with
      | .ident _ | .member .. | .index .. => do
        advance
        let rhs ← assignment n noIn
        pure (.logicAssign op lhs rhs)
      | _ => failAt t.pos "invalid left-hand side in assignment"
    | none, none => pure lhs

def arrowFunction : Nat → List Param → Parse Expr
  | 0, _ => tooDeep
  | n + 1, ps => do
    expectPunct "=>" "arrow function"
    if ← isPunct "\x7b" then do
      advance
      let strict ← do
        let d ← strictDirective
        pure ((← get).strict || d)
      let body ← withStrict strict (statements n [])
      expectPunct "\x7d" "arrow function"
      pure (.func (.mk none ps body .arrow strict))
    else do
      let e ← assignment n false
      pure (.func (.mk none ps [.ret (some e)] .arrow (← get).strict))

def conditional : Nat → Bool → Parse Expr
  | 0, _ => tooDeep
  | n + 1, noIn => do
    let c ← binary n noIn 0
    if ← eatPunct "?" then
      let a ← assignment n false
      expectPunct ":" "conditional expression"
      let b ← assignment n noIn
      pure (.cond c a b)
    else pure c

def binary : Nat → Bool → Nat → Parse Expr
  | 0, _, _ => tooDeep
  | n + 1, noIn, minPrec => do
    let left ← unary n
    binaryRest n noIn minPrec left

def binaryRest : Nat → Bool → Nat → Expr → Parse Expr
  | 0, _, _, _ => tooDeep
  | n + 1, noIn, minPrec, left => do
    match binaryOp (← peek).tok noIn with
    | some (prec, op) =>
      if prec < minPrec then pure left
      else do
        advance
        -- exponentiation groups to the right, everything else to the left
        let right ← binary n noIn (if prec == 12 then prec else prec + 1)
        let e := match op with
          | .inl l => Expr.logic l left right
          | .inr b => Expr.binary b left right
        binaryRest n noIn minPrec e
    | none => pure left

def unary : Nat → Parse Expr
  | 0 => tooDeep
  | n + 1 => do
    let t ← peek
    let op : Option UnaryOp := match t.tok with
      | .punct "-" => some .neg
      | .punct "+" => some .plus
      | .punct "!" => some .not
      | .punct "~" => some .bitNot
      | .name "typeof" => some .typeOf
      | .name "void" => some .void
      | .name "delete" => some .delete
      | _ => none
    match op with
    | some o => do advance; pure (.unary o (← unary n))
    | none =>
      if t.tok == .punct "++" || t.tok == .punct "--" then do
        advance
        pure (.update (t.tok == .punct "++") true (← unary n))
      else updateTail n

def updateTail : Nat → Parse Expr
  | 0 => tooDeep
  | n + 1 => do
    let e ← leftSide n
    let t ← peek
    if (t.tok == .punct "++" || t.tok == .punct "--") && !t.newline then do
      advance
      pure (.update (t.tok == .punct "++") false e)
    else pure e

def leftSide : Nat → Parse Expr
  | 0 => tooDeep
  | n + 1 => do
    let start := (← peek).pos
    let e ← if ← isName "new" then newExpr n else primary n
    memberRest n e true start

def newExpr : Nat → Parse Expr
  | 0 => tooDeep
  | n + 1 => do
    let pos := (← peek).pos
    advance
    if ← eatPunct "." then
      unless ← eatName "target" do expected "target" "new.target expression"
      pure .newTarget
    else
      let callee ← if ← isName "new" then newExpr n else primary n
      let callee ← memberRest n callee false pos
      let args ← if ← isPunct "(" then do advance; arguments n [] else pure []
      pure (.construct callee args pos)

def memberRest : Nat → Expr → Bool → Pos → Parse Expr
  | 0, _, _, _ => tooDeep
  | n + 1, e, calls, start => do
    let t ← peek
    match t.tok with
    | .punct "." => do
      advance
      match (← peek).tok with
      | .name s => do advance; memberRest n (.member e s) calls start
      | _ => expected "identifier" "member expression"
    | .punct "[" => do
      advance
      let k ← expression n false
      expectPunct "]" "member expression"
      memberRest n (.index e k) calls start
    | .punct "(" =>
      if calls then do
        advance
        let args ← arguments n []
        memberRest n (.call e args start) calls start
      else pure e
    | .punct "?." =>
      if !calls then unexpected "new expression"
      else
        let (base, links) := e.splitChain
        chainRest n base links.reverse start
    | _ => pure e

def chainRest : Nat → Expr → List Link → Pos → Parse Expr
  | 0, _, _, _ => tooDeep
  | n + 1, base, acc, start => do
    let optional ← eatPunct "?."
    let t ← peek
    match t.tok with
    | .name s =>
      if optional then do advance; chainRest n base (.member s true :: acc) start
      else pure (.chain base acc.reverse)
    | .punct "." =>
      if optional then expected "identifier" "optional chain"
      else do
        advance
        match (← peek).tok with
        | .name s => do advance; chainRest n base (.member s false :: acc) start
        | _ => expected "identifier" "member expression"
    | .punct "[" => do
      advance
      let k ← expression n false
      expectPunct "]" "member expression"
      chainRest n base (.index k optional :: acc) start
    | .punct "(" => do
      advance
      let args ← arguments n []
      chainRest n base (.call args start optional :: acc) start
    | _ =>
      if optional then expected "identifier" "optional chain"
      else pure (.chain base acc.reverse)

def arguments : Nat → List Item → Parse (List Item)
  | 0, _ => tooDeep
  | n + 1, acc => do
    if ← eatPunct ")" then pure acc.reverse
    else do
      let item ← if ← eatPunct "..." then Item.spread <$> assignment n false
        else Item.one <$> assignment n false
      if ← eatPunct "," then arguments n (item :: acc)
      else do
        expectPunct ")" "call expression"
        pure (item :: acc).reverse

def primary : Nat → Parse Expr
  | 0 => tooDeep
  | n + 1 => do
    let t ← peek
    match t.tok with
    | .num x => do advance; pure (.num x)
    | .bigint v => do advance; pure (.bigint v)
    | .str s => do advance; pure (.str s)
    | .punct "(" => do
      advance
      let e ← expression n false
      expectPunct ")" "parenthesized expression"
      pure e
    | .punct "[" => do advance; pure (.array (← arrayItems n []))
    | .punct "\x7b" => do advance; pure (.object (← objectMembers n []))
    | .name "true" => do advance; pure (.bool true)
    | .name "false" => do advance; pure (.bool false)
    | .name "null" => do advance; pure .null
    | .name "this" => do advance; pure .thisRef
    | .template s final => do
      advance
      if final then pure (.template [s] []) else templateRest n [s] []
    | .name "super" => do
      advance
      match (← peek).tok with
      | .punct "(" => do advance; pure (.superCall (← arguments n []) (some t.pos))
      | .punct "." => do
        advance
        match (← peek).tok with
        | .name s => do advance; pure (.superMember s)
        | _ => expected "identifier" "super property access"
      | .punct "[" => do
        advance
        let k ← expression n false
        expectPunct "]" "super property access"
        pure (.superIndex k)
      | _ => unexpected "super expression"
    | .name "function" => do
      advance
      let name ← optionalName []
      expectPunct "(" "function expression"
      pure (.func (← functionRest n name .normal))
    | .name "class" => do
      advance
      let name ← optionalName ["extends"]
      pure (.cls (← classTail n name))
    | .name s =>
      if reservedWords.contains s then unexpected "primary expression"
      else do advance; pure (.ident s)
    | _ => unexpected "primary expression"

def templateRest : Nat → List Units → List Expr → Parse Expr
  | 0, _, _ => tooDeep
  | n + 1, parts, es => do
    let e ← expression n false
    match (← peek).tok with
    | .template s final => do
      advance
      if final then pure (.template (parts ++ [s]) (es ++ [e]))
      else templateRest n (parts ++ [s]) (es ++ [e])
    | _ => expected "\x7d" "template literal"

def arrayItems : Nat → List Item → Parse (List Item)
  | 0, _ => tooDeep
  | n + 1, acc => do
    if ← eatPunct "]" then pure acc.reverse
    else if ← eatPunct "," then arrayItems n (.hole :: acc)
    else do
      let item ← if ← eatPunct "..." then Item.spread <$> assignment n false
        else Item.one <$> assignment n false
      if ← eatPunct "," then arrayItems n (item :: acc)
      else do
        expectPunct "]" "array literal"
        pure (item :: acc).reverse

def propName : Nat → Parse PropName
  | 0 => tooDeep
  | n + 1 => do
    let t ← peek
    match t.tok with
    | .name s => do advance; pure (.fixed (Units.ofString s))
    | .str s => do advance; pure (.fixed s)
    | .num x => do advance; pure (.fixed (Units.ofString (Decimal.scriptText x)))
    | .bigint v => do advance; pure (.fixed (Units.ofString (toString v)))
    | .punct "[" => do
      advance
      let e ← assignment n false
      expectPunct "]" "property name"
      pure (.computed e)
    | _ => expected "property name" "object literal"

def objectMembers : Nat → List PropDef → Parse (List PropDef)
  | 0, _ => tooDeep
  | n + 1, acc => do
    if ← eatPunct "\x7d" then pure acc.reverse
    else do
      let member ← objectMember n
      if ← eatPunct "," then objectMembers n (member :: acc)
      else do
        expectPunct "\x7d" "object literal"
        pure (member :: acc).reverse

def objectMember : Nat → Parse PropDef
  | 0 => tooDeep
  | n + 1 => do
    if ← eatPunct "..." then pure (.spread (← assignment n false))
    else
      let t ← peek
      let t1 ← ahead 1
      let accessorWord := t.tok == .name "get" || t.tok == .name "set"
      let plain := t1.tok == .punct ":" || t1.tok == .punct "(" || t1.tok == .punct "," ||
        t1.tok == .punct "\x7d"
      if accessorWord && !plain then do
        advance
        let key ← propName n
        expectPunct "(" "object literal"
        let keyText := match key with
          | .fixed s => Units.toLossy s
          | .computed _ => ""
        if t.tok == .name "get" then
          pure (.getter key (← functionRest n (some ("get " ++ keyText)) .getter))
        else pure (.setter key (← functionRest n (some ("set " ++ keyText)) .setter))
      else do
        let key ← propName n
        let keyText := match key with
          | .fixed s => some (Units.toLossy s)
          | .computed _ => none
        if ← eatPunct ":" then
          let e ← assignment n false
          let e := match e, keyText with
            | .func f, some k => if f.name.isNone then Expr.func (f.withName k) else e
            | .cls (.mk none h c m), some k => Expr.cls (.mk (some k) h c m)
            | _, _ => e
          pure (.value key e)
        else if ← eatPunct "(" then
          pure (.value key (.func (← functionRest n keyText .method)))
        else
          match t.tok with
          | .name s =>
            if ← eatPunct "=" then do
              pure (.value key (.assign none (.ident s) (← assignment n false)))
            else pure (.value key (.ident s))
          | _ => expected ":" "object literal"

def params : Nat → List Param → Parse (List Param)
  | 0, _ => tooDeep
  | n + 1, acc => do
    if ← eatPunct ")" then pure acc.reverse
    else do
      let rest ← eatPunct "..."
      let target ← bindingTarget n "formal parameter"
      let dflt ← if !rest && (← eatPunct "=") then some <$> assignment n false else pure none
      let p := Param.mk target dflt rest
      if ← eatPunct "," then params n (p :: acc)
      else do
        expectPunct ")" "formal parameters"
        pure (p :: acc).reverse

def functionRest : Nat → Option String → FunKind → Parse Func
  | 0, _, _ => tooDeep
  | n + 1, name, kind => do
    let ps ← params n []
    expectPunct "\x7b" "function body"
    let strict ← do
      let d ← strictDirective
      pure ((← get).strict || d)
    let body ← withStrict strict (statements n [])
    expectPunct "\x7d" "function body"
    pure (.mk name ps body kind strict)

def classTail : Nat → Option String → Parse ClassDef
  | 0, _ => tooDeep
  | n + 1, name => do
    let heritage ← if ← eatName "extends" then some <$> leftSide n else pure none
    expectPunct "\x7b" "class definition"
    let (ctor, members) ← withStrict true (classMembers n none [])
    let ctor := ctor.map fun f => match f with
      | .mk _ ps b _ s => Func.mk name ps b .classConstructor s
    pure (.mk name heritage ctor members)

def classMembers : Nat → Option Func → List ClassMember → Parse (Option Func × List ClassMember)
  | 0, _, _ => tooDeep
  | n + 1, ctor, acc => do
    if ← eatPunct "\x7d" then pure (ctor, acc.reverse)
    else if ← eatPunct ";" then classMembers n ctor acc
    else do
      let t ← peek
      let t1 ← ahead 1
      let isStatic := t.tok == .name "static" && t1.tok != .punct "(" && t1.tok != .punct "="
      if isStatic then advance
      let t ← peek
      let t1 ← ahead 1
      let accessorWord := t.tok == .name "get" || t.tok == .name "set"
      let plain := t1.tok == .punct "(" || t1.tok == .punct "=" || t1.tok == .punct ";" ||
        t1.tok == .punct "\x7d" || t1.newline
      if accessorWord && !plain then do
        advance
        let key ← propName n
        expectPunct "(" "class definition"
        let keyText := match key with
          | .fixed s => Units.toLossy s
          | .computed _ => ""
        if t.tok == .name "get" then
          let f ← functionRest n (some ("get " ++ keyText)) .getter
          classMembers n ctor (.getter isStatic key f :: acc)
        else
          let f ← functionRest n (some ("set " ++ keyText)) .setter
          classMembers n ctor (.setter isStatic key f :: acc)
      else do
        let key ← propName n
        let keyText := match key with
          | .fixed s => some (Units.toLossy s)
          | .computed _ => none
        if ← eatPunct "(" then
          let f ← functionRest n keyText .method
          if !isStatic && keyText == some "constructor" then classMembers n (some f) acc
          else classMembers n ctor (.method isStatic key f :: acc)
        else do
          let init ← if ← eatPunct "=" then some <$> assignment n false else pure none
          endStatement "class definition"
          classMembers n ctor (.field isStatic key init :: acc)

def bindingTarget : Nat → String → Parse Pattern
  | 0, _ => tooDeep
  | n + 1, context => do
    if ← eatPunct "[" then arrayPattern n []
    else if ← eatPunct "\x7b" then objectPattern n []
    else Pattern.name <$> bindingName context

def arrayPattern : Nat → List PatElem → Parse Pattern
  | 0, _ => tooDeep
  | n + 1, acc => do
    if ← eatPunct "]" then pure (.array acc.reverse none)
    else if ← eatPunct "," then arrayPattern n (.hole :: acc)
    else if ← eatPunct "..." then do
      let rest ← bindingTarget n "array pattern"
      expectPunct "]" "array pattern"
      pure (.array acc.reverse (some rest))
    else do
      let target ← bindingTarget n "array pattern"
      let dflt ← if ← eatPunct "=" then some <$> assignment n false else pure none
      let elem := PatElem.one target dflt
      if ← eatPunct "," then arrayPattern n (elem :: acc)
      else do
        expectPunct "]" "array pattern"
        pure (.array (elem :: acc).reverse none)

def objectPattern : Nat → List PatProp → Parse Pattern
  | 0, _ => tooDeep
  | n + 1, acc => do
    if ← eatPunct "\x7d" then pure (.object acc.reverse none)
    else if ← eatPunct "..." then do
      let rest ← Pattern.name <$> bindingName "object pattern"
      expectPunct "\x7d" "object pattern"
      pure (.object acc.reverse (some rest))
    else do
      let t ← peek
      let key ← propName n
      let target ← if ← eatPunct ":" then bindingTarget n "object pattern" else shorthandTarget t
      let dflt ← if ← eatPunct "=" then some <$> assignment n false else pure none
      let member := PatProp.mk key target dflt
      if ← eatPunct "," then objectPattern n (member :: acc)
      else do
        expectPunct "\x7d" "object pattern"
        pure (.object (member :: acc).reverse none)

def statements : Nat → List Stmt → Parse (List Stmt)
  | 0, _ => tooDeep
  | n + 1, acc => do
    let t ← peek
    if t.tok == .punct "\x7d" || t.tok == .eof then pure acc.reverse
    else statements n ((← statement n) :: acc)

def declarators : Nat → DeclKind → Bool → List Declarator → Parse (List Declarator)
  | 0, _, _, _ => tooDeep
  | n + 1, kind, noIn, acc => do
    let target ← bindingTarget n "identifier parsing"
    let init ← if ← eatPunct "=" then some <$> assignment n noIn else pure none
    let d := Declarator.mk target init
    if ← eatPunct "," then declarators n kind noIn (d :: acc)
    else pure (d :: acc).reverse

def clauses : Nat → List Clause → Parse (List Clause)
  | 0, _ => tooDeep
  | n + 1, acc => do
    if ← eatPunct "\x7d" then pure acc.reverse
    else do
      let test ← if ← eatName "case" then some <$> expression n false
        else if ← eatName "default" then pure none
        else expected "case" "switch statement"
      expectPunct ":" "switch statement"
      let body ← clauseBody n []
      clauses n (.mk test body :: acc)

def clauseBody : Nat → List Stmt → Parse (List Stmt)
  | 0, _ => tooDeep
  | n + 1, acc => do
    let t ← peek
    if t.tok == .punct "\x7d" || t.tok == .name "case" || t.tok == .name "default" || t.tok == .eof then
      pure acc.reverse
    else clauseBody n ((← statement n) :: acc)

def blockBody : Nat → Parse (List Stmt)
  | 0 => tooDeep
  | n + 1 => do
    let body ← statements n []
    expectPunct "\x7d" "block statement"
    pure body

def forStatement : Nat → Parse Stmt
  | 0 => tooDeep
  | n + 1 => do
    expectPunct "(" "for statement"
    let t ← peek
    let kind : Option DeclKind := match t.tok with
      | .name "var" => some .varDecl
      | .name "let" => some .letDecl
      | .name "const" => some .constDecl
      | _ => none
    let tn ← peek
    let tk ← ahead 1
    let loopName := match kind, tn.tok with
      | none, .name s => if reservedWords.contains s then none else some s
      | _, _ => none
    let head : Option (Bool × Pattern) ← match loopName, tk.tok with
      | some x, .name "in" => do advance; advance; pure (some (true, .name x))
      | some x, .name "of" => do advance; advance; pure (some (false, .name x))
      | _, _ => pure none
    let (head, first) ← match head, kind with
      | some h, _ => pure (some h, none)
      | none, some _ => do
        advance
        let target ← bindingTarget n "identifier parsing"
        if ← eatName "in" then pure (some (true, target), none)
        else if ← eatName "of" then pure (some (false, target), none)
        else pure (none, some target)
      | none, none => pure (none, none)
    match head with
    | some (true, target) => do
      let obj ← expression n false
      expectPunct ")" "for in statement"
      pure (.forIn kind target obj (← statement n))
    | some (false, target) => do
      let obj ← assignment n false
      expectPunct ")" "for of statement"
      pure (.forOf kind target obj (← statement n))
    | none => do
      let init ← match kind, first with
        | some k, some target => do
          let init ← if ← eatPunct "=" then some <$> assignment n true else pure none
          let more ← if ← eatPunct "," then declarators n k true [] else pure []
          pure (some (Stmt.decl k (.mk target init :: more)))
        | _, _ =>
          if ← isPunct ";" then pure none else some <$> (Stmt.expr <$> expression n true)
      expectPunct ";" "for statement"
      let test ← if ← isPunct ";" then pure none else some <$> expression n false
      expectPunct ";" "for statement"
      let update ← if ← isPunct ")" then pure none else some <$> expression n false
      expectPunct ")" "for statement"
      pure (.forStmt init test update (← statement n))

def statement : Nat → Parse Stmt
  | 0 => tooDeep
  | n + 1 => do
    let t ← peek
    let t1 ← ahead 1
    match t.tok with
    | .punct "\x7b" => do advance; pure (.block (← blockBody n))
    | .punct ";" => do advance; pure .empty
    | .name "var" => do
      advance
      let ds ← declarators n .varDecl false []
      endStatement "variable declaration"
      pure (.decl .varDecl ds)
    | .name "const" => do
      advance
      let ds ← declarators n .constDecl false []
      endStatement "lexical declaration"
      pure (.decl .constDecl ds)
    | .name "let" =>
      match t1.tok with
      | .name _ | .punct "[" | .punct "\x7b" => do
        advance
        let ds ← declarators n .letDecl false []
        endStatement "lexical declaration"
        pure (.decl .letDecl ds)
      | _ => expressionStatement n
    | .name "function" => do
      advance
      let name ← bindingName "function declaration"
      expectPunct "(" "function declaration"
      pure (.funDecl name (← functionRest n (some name) .normal))
    | .name "class" => do
      advance
      let name ← bindingName "class declaration"
      pure (.classDecl name (← classTail n (some name)))
    | .name "if" => do
      advance
      expectPunct "(" "if statement"
      let c ← expression n false
      expectPunct ")" "if statement"
      let thenPart ← statement n
      let elsePart ← if ← eatName "else" then some <$> statement n else pure none
      pure (.ifStmt c thenPart elsePart)
    | .name "while" => do
      advance
      expectPunct "(" "while statement"
      let c ← expression n false
      expectPunct ")" "while statement"
      pure (.whileStmt c (← statement n))
    | .name "do" => do
      advance
      let body ← statement n
      unless ← eatName "while" do expected "while" "do while statement"
      expectPunct "(" "do while statement"
      let c ← expression n false
      expectPunct ")" "do while statement"
      let _ ← eatPunct ";"
      pure (.doWhile body c)
    | .name "for" => do advance; forStatement n
    | .name "return" => do
      advance
      let u ← peek
      if u.tok == .punct ";" || u.tok == .punct "\x7d" || u.tok == .eof || u.newline then do
        let _ ← eatPunct ";"
        pure (.ret none)
      else do
        let e ← expression n false
        endStatement "return statement"
        pure (.ret (some e))
    | .name "throw" => do
      advance
      let e ← expression n false
      endStatement "throw statement"
      pure (.throwStmt e)
    | .name "try" => do
      advance
      expectPunct "\x7b" "try statement"
      let body ← blockBody n
      let (param, handler) ← if ← eatName "catch" then do
          let p ← if ← eatPunct "(" then do
              let x ← bindingTarget n "catch parameter"
              expectPunct ")" "catch parameter"
              pure (some x)
            else pure none
          expectPunct "\x7b" "catch block"
          pure (p, some (← blockBody n))
        else pure (none, none)
      let finalizer ← if ← eatName "finally" then do
          expectPunct "\x7b" "finally block"
          some <$> blockBody n
        else pure none
      if handler.isNone && finalizer.isNone then expected "catch" "try statement"
      pure (.tryStmt body param handler finalizer)
    | .name "break" => do
      advance
      let label ← if (← peek).newline then pure none else optionalName []
      endStatement "break statement"
      pure (.brk label)
    | .name "continue" => do
      advance
      let label ← if (← peek).newline then pure none else optionalName []
      endStatement "continue statement"
      pure (.cont label)
    | .name "switch" => do
      advance
      expectPunct "(" "switch statement"
      let d ← expression n false
      expectPunct ")" "switch statement"
      expectPunct "\x7b" "switch statement"
      pure (.switchStmt d (← clauses n []))
    | .name s =>
      if t1.tok == .punct ":" && !reservedWords.contains s then do
        advance
        advance
        pure (.labelled s (← statement n))
      else expressionStatement n
    | _ => expressionStatement n

def expressionStatement : Nat → Parse Stmt
  | 0 => tooDeep
  | n + 1 => do
    let e ← expression n false
    endStatement "expression statement"
    pure (.expr e)

end

end Parse

def parseScript (text : String) : Except ParseError (List Stmt × Bool) :=
  match tokenize text with
  | .error e => .error ⟨e.message, e.pos⟩
  | .ok ts =>
    let fuel := 16 * (ts.size + 1)
    let run : Parse (List Stmt × Bool) := do
      let strict ← Parse.strictDirective
      let body ← Parse.withStrict strict (Parse.statements fuel [])
      unless (← Parse.peek).tok == .eof do Parse.unexpected "script"
      pure (body, strict)
    match (run.run ts).run ⟨0, false⟩ with
    | .ok (r, _) => .ok r
    | .error e => .error e

end ScriptBridge.Script
