import ScriptBridge.Script.Syntax

/-!
# Declarations a body makes before it runs

Before a function body or script runs, its declarations are bound: every `var` anywhere in it
outside nested functions, every function declared at its top level, and every `let`, `const`
and `class` at its top level, which stay unusable until their declaration runs. A block binds
its own top-level functions and lexical declarations the same way.
-/

namespace ScriptBridge.Script

namespace Hoist

mutual

def varNames : Stmt → List String
  | .decl .varDecl ds => declaratorNames ds
  | .ifStmt _ t e => varNames t ++ (match e with
    | some s => varNames s
    | none => [])
  | .block b => varNamesList b
  | .whileStmt _ b => varNames b
  | .doWhile b _ => varNames b
  | .forStmt init _ _ b => (match init with
    | some s => varNames s
    | none => []) ++ varNames b
  | .forIn k x _ b => (if k == some .varDecl then x.names else []) ++ varNames b
  | .forOf k x _ b => (if k == some .varDecl then x.names else []) ++ varNames b
  | .tryStmt b _ h f => varNamesList b ++ (match h with
    | some l => varNamesList l
    | none => []) ++ (match f with
    | some l => varNamesList l
    | none => [])
  | .labelled _ s => varNames s
  | .switchStmt _ cs => varNamesClauses cs
  | _ => []

def declaratorNames : List Declarator → List String
  | [] => []
  | .mk p _ :: r => p.names ++ declaratorNames r

def varNamesList : List Stmt → List String
  | [] => []
  | s :: r => varNames s ++ varNamesList r

def varNamesClauses : List Clause → List String
  | [] => []
  | .mk _ body :: r => varNamesList body ++ varNamesClauses r

end

def functions : List Stmt → List (String × Func)
  | [] => []
  | .funDecl n f :: r => (n, f) :: functions r
  | _ :: r => functions r

def lexicals : List Stmt → List (String × Bool)
  | [] => []
  | .decl .letDecl ds :: r => (declaratorNames ds).map (·, true) ++ lexicals r
  | .decl .constDecl ds :: r => (declaratorNames ds).map (·, false) ++ lexicals r
  | .classDecl n _ :: r => (n, true) :: lexicals r
  | _ :: r => lexicals r

def dedup (l : List String) : List String :=
  l.foldl (fun acc n => if acc.contains n then acc else acc ++ [n]) []

end Hoist

end ScriptBridge.Script
