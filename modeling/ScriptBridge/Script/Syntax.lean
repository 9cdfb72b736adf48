import ScriptBridge.Text.Units

/-!
# Syntax of the script language

The abstract syntax of the scripts a host runs: expressions, statements, functions and classes
of the language's common core. Calls and constructions keep the place where they stand in the
source, because an error object built there reports that place.

A binding target is a `Pattern`: a name, or an object or array pattern that takes a value apart,
with defaults for parts that are `undefined`. Assignments take the same patterns, whose leaves
may also be property references. An optional chain `a?.b.c` is the expression `chain a links`, in
which the links written with `?.` stop the whole chain at a `null` or `undefined` value.
-/

namespace ScriptBridge.Script

/-- A place in source text: line and column, both counted from one. -/
structure Pos where
  line : Nat
  col : Nat
  deriving Repr, BEq, Inhabited

/-- Operators of one operand. -/
inductive UnaryOp where
  | neg | plus | not | bitNot | typeOf | void | delete
  deriving Repr, BEq, Inhabited

/-- Operators of two operands, other than the short-circuit ones. -/
inductive BinaryOp where
  | add | sub | mul | div | mod | pow
  | lt | gt | le | ge
  | eq | ne | strictEq | strictNe
  | shl | shr | ushr | band | bor | bxor
  | isIn | instanceOf
  deriving Repr, BEq, Inhabited

/-- The short-circuit operators. -/
inductive LogicOp where
  | and | or | coalesce
  deriving Repr, BEq, Inhabited

/-- How a declaration binds: function-scoped, block-scoped, or block-scoped and fixed. -/
inductive DeclKind where
  | varDecl | letDecl | constDecl
  deriving Repr, BEq, Inhabited

/-- The kinds of function: ordinary, arrow, method, accessor, class constructor. -/
inductive FunKind where
  | normal | arrow | method | getter | setter | classConstructor
  deriving Repr, BEq, Inhabited

mutual
/-- Expressions. -/
inductive Expr where
  | num (x : Float)
  | str (s : Units)
  | bigint (n : Int)
  | bool (b : Bool)
  | null
  | thisRef
  | ident (name : String)
  | array (items : List Item)
  | object (props : List PropDef)
  | func (f : Func)
  | cls (c : ClassDef)
  | unary (op : UnaryOp) (e : Expr)
  | update (incr : Bool) (pre : Bool) (target : Expr)
  | binary (op : BinaryOp) (a b : Expr)
  | logic (op : LogicOp) (a b : Expr)
  | cond (c a b : Expr)
  | assign (op : Option BinaryOp) (target value : Expr)
  | seq (a b : Expr)
  | call (callee : Expr) (args : List Item) (pos : Pos)
  | construct (callee : Expr) (args : List Item) (pos : Pos)
  | member (obj : Expr) (name : String)
  | index (obj key : Expr)
  | template (parts : List Units) (exprs : List Expr)
  /-- An assignment by a short-circuit operator: `a &&= b`, `a ||= b`, `a ??= b`. -/
  | logicAssign (op : LogicOp) (target value : Expr)
  /-- An assignment to a pattern: `[a, b] = [b, a]`. -/
  | destructure (target : Pattern) (value : Expr)
  /-- A property of the parent of the home object of the running method: `super.name`. -/
  | superMember (name : String)
  | superIndex (key : Expr)
  /-- A call of the parent constructor in a derived class's constructor, at its place unless
  it is the implicit one of a class without a constructor. -/
  | superCall (args : List Item) (pos : Option Pos)
  /-- The constructor `new` was applied to, in the running function. -/
  | newTarget
  /-- An optional chain: a base and the links read from it, `undefined` as soon as a link
  written with `?.` meets `null` or `undefined`. -/
  | chain (base : Expr) (links : List Link)

/-- A link of an optional chain: a property, a computed property or a call, and whether it was
written with `?.`. -/
inductive Link where
  | member (name : String) (optional : Bool)
  | index (key : Expr) (optional : Bool)
  | call (args : List Item) (pos : Pos) (optional : Bool)

/-- An element of an array literal or argument list. -/
inductive Item where
  | hole
  | one (e : Expr)
  | spread (e : Expr)

/-- A property name in a literal or class: written out, or computed. -/
inductive PropName where
  | fixed (s : Units)
  | computed (e : Expr)

/-- A member of an object literal. -/
inductive PropDef where
  | value (key : PropName) (e : Expr)
  | getter (key : PropName) (f : Func)
  | setter (key : PropName) (f : Func)
  | spread (e : Expr)

/-- A binding or assignment target. -/
inductive Pattern where
  | name (n : String)
  /-- `{ key: target = default, ..., ...rest }` -/
  | object (props : List PatProp) (rest : Option Pattern)
  /-- `[target = default, , ..., ...rest]` -/
  | array (items : List PatElem) (rest : Option Pattern)
  /-- A property reference, in assignment patterns only. -/
  | target (e : Expr)

/-- A member of an object pattern: the key it reads, its target and default. -/
inductive PatProp where
  | mk (key : PropName) (value : Pattern) (default : Option Expr)

/-- An element of an array pattern: a hole, or a target with a default. -/
inductive PatElem where
  | hole
  | one (value : Pattern) (default : Option Expr)

/-- A parameter: its target, default value, and whether it gathers the remaining arguments. -/
inductive Param where
  | mk (target : Pattern) (default : Option Expr) (rest : Bool)

/-- A function: name, parameters, body, kind and whether its body is strict. -/
inductive Func where
  | mk (name : Option String) (params : List Param) (body : List Stmt) (kind : FunKind)
      (strict : Bool)

/-- A member of a class body. -/
inductive ClassMember where
  | method (static : Bool) (key : PropName) (f : Func)
  | getter (static : Bool) (key : PropName) (f : Func)
  | setter (static : Bool) (key : PropName) (f : Func)
  | field (static : Bool) (key : PropName) (init : Option Expr)

/-- A class: name, parent expression, constructor and members. -/
inductive ClassDef where
  | mk (name : Option String) (heritage : Option Expr) (ctor : Option Func)
      (members : List ClassMember)

/-- One binding of a declaration. -/
inductive Declarator where
  | mk (target : Pattern) (init : Option Expr)

/-- One clause of a `switch`: its test (none for `default`) and body. -/
inductive Clause where
  | mk (test : Option Expr) (body : List Stmt)

/-- Statements. -/
inductive Stmt where
  | expr (e : Expr)
  | decl (kind : DeclKind) (items : List Declarator)
  | funDecl (name : String) (f : Func)
  | classDecl (name : String) (c : ClassDef)
  | ret (e : Option Expr)
  | ifStmt (c : Expr) (t : Stmt) (e : Option Stmt)
  | block (body : List Stmt)
  | whileStmt (c : Expr) (body : Stmt)
  | doWhile (body : Stmt) (c : Expr)
  | forStmt (init : Option Stmt) (test : Option Expr) (update : Option Expr) (body : Stmt)
  | forIn (kind : Option DeclKind) (target : Pattern) (obj : Expr) (body : Stmt)
  | forOf (kind : Option DeclKind) (target : Pattern) (obj : Expr) (body : Stmt)
  | throwStmt (e : Expr)
  | tryStmt (body : List Stmt) (param : Option Pattern) (handler : Option (List Stmt))
      (finalizer : Option (List Stmt))
  | brk (label : Option String)
  | cont (label : Option String)
  | labelled (label : String) (body : Stmt)
  | switchStmt (disc : Expr) (clauses : List Clause)
  | empty
end

instance : Inhabited Expr := ⟨.null⟩
instance : Inhabited Stmt := ⟨.empty⟩
instance : Inhabited Func := ⟨.mk none [] [] .normal false⟩
instance : Inhabited Pattern := ⟨.name ""⟩

mutual

def Pattern.names : Pattern → List String
  | .name n => [n]
  | .object props rest => PatProp.namesList props ++ Pattern.namesOpt rest
  | .array items rest => PatElem.namesList items ++ Pattern.namesOpt rest
  | .target _ => []

def Pattern.namesOpt : Option Pattern → List String
  | some p => p.names
  | none => []

def PatProp.namesList : List PatProp → List String
  | [] => []
  | .mk _ p _ :: r => p.names ++ PatProp.namesList r

def PatElem.namesList : List PatElem → List String
  | [] => []
  | .hole :: r => PatElem.namesList r
  | .one p _ :: r => p.names ++ PatElem.namesList r

end

def Pattern.name? : Pattern → Option String
  | .name n => some n
  | _ => none

namespace Func

def name : Func → Option String
  | .mk n _ _ _ _ => n

def params : Func → List Param
  | .mk _ p _ _ _ => p

def body : Func → List Stmt
  | .mk _ _ b _ _ => b

def kind : Func → FunKind
  | .mk _ _ _ k _ => k

def strict : Func → Bool
  | .mk _ _ _ _ s => s

def withName (f : Func) (n : String) : Func :=
  match f with
  | .mk _ p b k s => .mk (some n) p b k s

def arity (f : Func) : Nat :=
  (f.params.takeWhile fun
    | .mk _ d r => d.isNone && !r).length

end Func

end ScriptBridge.Script
