import ScriptBridge.Script.Syntax
import ScriptBridge.Decimal.Binary

/-!
# Tokens of script source

The lexer turns source text into tokens: names (identifiers and keywords alike), numbers,
big integers, strings, and punctuators by longest match. Every token records where it starts and
whether a line break stands before it; the parser needs the second to end statements at line
breaks. Comments are skipped: a block comment with a line break in it counts as one.

String literals become UTF-16 units, so a `\u` escape may produce a lone surrogate.

A template literal is lexed in pieces: the text up to its first substitution, the text between
substitutions, and the text after the last, each a `template` token that says whether it ends
the literal. The tokens of a substitution stand between the pieces; the brace that closes a
substitution is told from other braces by counting the braces opened inside it.
-/

namespace ScriptBridge.Script

/-- What a token is. -/
inductive Tok where
  | name (s : String)
  | num (x : Float)
  | bigint (n : Int)
  | str (s : Units)
  | punct (s : String)
  /-- A piece of a template literal, and whether the literal ends with it. -/
  | template (s : Units) (final : Bool)
  | eof
  deriving Inhabited, BEq

/-- A token, where it starts, and whether a line break precedes it. -/
structure Token where
  tok : Tok
  pos : Pos
  newline : Bool
  deriving Inhabited

/-- A lexical error and its place. -/
structure LexError where
  message : String
  pos : Pos
  deriving Inhabited

def punctuators : List String :=
  [">>>=", "...", "===", "!==", "**=", "<<=", ">>=", ">>>", "&&=", "||=", "??=",
   "=>", "==", "!=", "<=", ">=", "&&", "||", "??", "?.", "++", "--", "+=", "-=", "*=", "/=",
   "%=", "&=", "|=", "^=", "**", "<<", ">>",
   "\x7b", "\x7d", "(", ")", "[", "]", ";", ",", "<", ">", "+", "-", "*", "/", "%", "&", "|",
   "^", "!", "~", "?", ":", "=", "."]

/-- A position in the source: index, line and column. -/
structure Cursor where
  i : Nat
  line : Nat
  col : Nat

/-- The source as characters. -/
abbrev Source := Array Char

def Cursor.step (src : Source) (c : Cursor) : Cursor :=
  if src[c.i]? == some '\n' then ⟨c.i + 1, c.line + 1, 1⟩ else ⟨c.i + 1, c.line, c.col + 1⟩

def Cursor.pos (c : Cursor) : Pos := ⟨c.line, c.col⟩

def isNameStart (c : Char) : Bool :=
  c.isAlpha || c == '$' || c == '_' || c.toNat > 127

def isNamePart (c : Char) : Bool := isNameStart c || c.isDigit

def isLineBreak (c : Char) : Bool :=
  c == '\n' || c == '\r' || c.toNat == 0x2028 || c.toNat == 0x2029

def isSpace (c : Char) : Bool :=
  c == ' ' || c == '\t' || c.toNat == 0x0B || c.toNat == 0x0C || c.toNat == 0xA0 ||
    c.toNat == 0xFEFF

def takeWhileFrom (src : Source) (p : Char → Bool) : Nat → Cursor → List Char → Cursor × List Char
  | 0, c, acc => (c, acc.reverse)
  | n + 1, c, acc =>
    match src[c.i]? with
    | some ch => if p ch then takeWhileFrom src p n (c.step src) (ch :: acc) else (c, acc.reverse)
    | none => (c, acc.reverse)

def skipBlank (src : Source) : Nat → Cursor → Bool → Except LexError (Cursor × Bool)
  | 0, c, nl => .ok (c, nl)
  | n + 1, c, nl =>
    match src[c.i]? with
    | none => .ok (c, nl)
    | some ch =>
      if isLineBreak ch then skipBlank src n (c.step src) true
      else if isSpace ch then skipBlank src n (c.step src) nl
      else if ch == '/' && src[c.i + 1]? == some '/' then
        let (c', _) := takeWhileFrom src (fun x => !isLineBreak x) src.size c []
        skipBlank src n c' nl
      else if ch == '/' && src[c.i + 1]? == some '*' then
        let rec close : Nat → Cursor → Bool → Except LexError (Cursor × Bool)
          | 0, c, _ => .error ⟨"unterminated multiline comment", c.pos⟩
          | k + 1, c, brk =>
            match src[c.i]? with
            | none => .error ⟨"unterminated multiline comment", c.pos⟩
            | some x =>
              if x == '*' && src[c.i + 1]? == some '/' then .ok ((c.step src).step src, brk)
              else close k (c.step src) (brk || isLineBreak x)
        match close src.size ((c.step src).step src) false with
        | .ok (c', brk) => skipBlank src n c' (nl || brk)
        | .error e => .error e
      else .ok (c, nl)

def digitValue (c : Char) : Option Nat :=
  if c.isDigit then some (c.toNat - 48)
  else if 'a' ≤ c && c ≤ 'f' then some (c.toNat - 87)
  else if 'A' ≤ c && c ≤ 'F' then some (c.toNat - 55)
  else none

def digitsValue (base : Nat) (ds : List Char) : Nat :=
  ds.foldl (fun v d => v * base + (digitValue d).getD 0) 0

def lexNumber (src : Source) (c : Cursor) : Except LexError (Tok × Cursor) :=
  let start := c
  let isBaseDigit (b : Nat) (x : Char) : Bool := match digitValue x with
    | some v => v < b
    | none => false
  let prefixed (b : Nat) : Except LexError (Tok × Cursor) :=
    let (c', ds) := takeWhileFrom src (isBaseDigit b) src.size ((c.step src).step src) []
    if ds.isEmpty then .error ⟨"invalid digit", c'.pos⟩
    else
      let v := digitsValue b ds
      if src[c'.i]? == some 'n' then .ok (.bigint v, c'.step src)
      else .ok (.num (Decimal.nearestDecimal v 0), c')
  let second := src[c.i + 1]?
  if src[c.i]? == some '0' && (second == some 'x' || second == some 'X') then prefixed 16
  else if src[c.i]? == some '0' && (second == some 'o' || second == some 'O') then prefixed 8
  else if src[c.i]? == some '0' && (second == some 'b' || second == some 'B') then prefixed 2
  else
    let (c1, intDs) := takeWhileFrom src Char.isDigit src.size c []
    if src[c1.i]? == some 'n' && !intDs.isEmpty then .ok (.bigint (digitsValue 10 intDs), c1.step src)
    else
      let (c2, fracDs) :=
        if src[c1.i]? == some '.' then takeWhileFrom src Char.isDigit src.size (c1.step src) []
        else (c1, [])
      let (c3, expo, bad) :=
        match src[c2.i]? with
        | some 'e' | some 'E' =>
          let c' := c2.step src
          let (neg, c'') := match src[c'.i]? with
            | some '-' => (true, c'.step src)
            | some '+' => (false, c'.step src)
            | _ => (false, c')
          let (c4, eds) := takeWhileFrom src Char.isDigit src.size c'' []
          let v : Int := digitsValue 10 eds
          (c4, (if neg then -v else v), eds.isEmpty)
        | _ => (c2, (0 : Int), false)
      if bad then .error ⟨"invalid exponent", c3.pos⟩
      else if (src[c3.i]?.map isNameStart).getD false then
        .error ⟨"invalid character after number", c3.pos⟩
      else
        let mant := digitsValue 10 (intDs ++ fracDs)
        let x := Decimal.nearestDecimal mant (expo - fracDs.length)
        let _ := start
        .ok (.num x, c3)

def hexDigits (src : Source) (c : Cursor) (n : Nat) : Option (Nat × Cursor) :=
  (List.range n).foldl (fun acc _ => acc.bind fun (v, c) =>
    (src[c.i]?.bind digitValue).map fun d => (v * 16 + d, c.step src)) (some (0, c))

def lexString (src : Source) (q : Char) : Nat → Cursor → Array UInt16 →
    Except LexError (Units × Cursor)
  | 0, c, _ => .error ⟨"unterminated string literal", c.pos⟩
  | n + 1, c, acc =>
    match src[c.i]? with
    | none => .error ⟨"unterminated string literal", c.pos⟩
    | some ch =>
      if ch == q then .ok (acc, c.step src)
      else if ch == '\n' || ch == '\r' then .error ⟨"unterminated string literal", c.pos⟩
      else if ch == '\\' then
        let c1 := c.step src
        match src[c1.i]? with
        | none => .error ⟨"unterminated string literal", c1.pos⟩
        | some e =>
          let c2 := c1.step src
          let simple (u : Nat) := lexString src q n c2 (acc.push u.toUInt16)
          if e == 'n' then simple 10
          else if e == 't' then simple 9
          else if e == 'r' then simple 13
          else if e == 'b' then simple 8
          else if e == 'f' then simple 12
          else if e == 'v' then simple 11
          else if e == '0' && !((src[c2.i]?.map Char.isDigit).getD false) then simple 0
          else if e == '\n' then lexString src q n c2 acc
          else if e == 'x' then
            match hexDigits src c2 2 with
            | some (v, c3) => lexString src q n c3 (acc.push v.toUInt16)
            | none => .error ⟨"invalid escape", c2.pos⟩
          else if e == 'u' then
            if src[c2.i]? == some '{' then
              let (c3, ds) := takeWhileFrom src (fun x => (digitValue x).isSome) src.size (c2.step src) []
              if src[c3.i]? == some '}' && !ds.isEmpty && digitsValue 16 ds ≤ 0x10FFFF then
                let v := digitsValue 16 ds
                lexString src q n (c3.step src) (acc ++ (Units.ofChar (Char.ofNat v)).toArray)
              else .error ⟨"invalid Unicode escape", c3.pos⟩
            else
              match hexDigits src c2 4 with
              | some (v, c3) => lexString src q n c3 (acc.push v.toUInt16)
              | none => .error ⟨"invalid Unicode escape", c2.pos⟩
          else lexString src q n c2 (acc ++ (Units.ofChar e).toArray)
      else lexString src q n (c.step src) (acc ++ (Units.ofChar ch).toArray)

def backtick : Char := Char.ofNat 96

def lexTemplate (src : Source) : Nat → Cursor → Array UInt16 →
    Except LexError (Units × Bool × Cursor)
  | 0, c, _ => .error ⟨"unterminated template literal", c.pos⟩
  | n + 1, c, acc =>
    match src[c.i]? with
    | none => .error ⟨"unterminated template literal", c.pos⟩
    | some ch =>
      if ch == backtick then .ok (acc, true, c.step src)
      else if ch == '$' && src[c.i + 1]? == some '\x7b' then .ok (acc, false, (c.step src).step src)
      else if ch == '\r' && src[c.i + 1]? == some '\n' then lexTemplate src n (c.step src) acc
      else if ch == '\r' then lexTemplate src n (c.step src) (acc.push 10)
      else if ch == '\\' then
        let c1 := c.step src
        match src[c1.i]? with
        | none => .error ⟨"unterminated template literal", c1.pos⟩
        | some e =>
          let c2 := c1.step src
          let simple (u : Nat) := lexTemplate src n c2 (acc.push u.toUInt16)
          if e == 'n' then simple 10
          else if e == 't' then simple 9
          else if e == 'r' then simple 13
          else if e == 'b' then simple 8
          else if e == 'f' then simple 12
          else if e == 'v' then simple 11
          else if e == '0' && !((src[c2.i]?.map Char.isDigit).getD false) then simple 0
          else if e == '\n' then lexTemplate src n c2 acc
          else if e == '\r' then
            lexTemplate src n (if src[c2.i]? == some '\n' then c2.step src else c2) acc
          else if e == 'x' then
            match hexDigits src c2 2 with
            | some (v, c3) => lexTemplate src n c3 (acc.push v.toUInt16)
            | none => .error ⟨"invalid escape", c2.pos⟩
          else if e == 'u' then
            if src[c2.i]? == some '\x7b' then
              let (c3, ds) := takeWhileFrom src (fun x => (digitValue x).isSome) src.size (c2.step src) []
              if src[c3.i]? == some '\x7d' && !ds.isEmpty && digitsValue 16 ds ≤ 0x10FFFF then
                let v := digitsValue 16 ds
                lexTemplate src n (c3.step src) (acc ++ (Units.ofChar (Char.ofNat v)).toArray)
              else .error ⟨"invalid Unicode escape", c3.pos⟩
            else
              match hexDigits src c2 4 with
              | some (v, c3) => lexTemplate src n c3 (acc.push v.toUInt16)
              | none => .error ⟨"invalid Unicode escape", c2.pos⟩
          else lexTemplate src n c2 (acc ++ (Units.ofChar e).toArray)
      else lexTemplate src n (c.step src) (acc ++ (Units.ofChar ch).toArray)

def punctAt (src : Source) (c : Cursor) : Option String :=
  let found := punctuators.find? fun p =>
    (p.toList.zipIdx).all fun (ch, k) => src[c.i + k]? == some ch
  if found == some "?." && ((src[c.i + 2]?.map Char.isDigit).getD false) then some "?"
  else found

def templateToken (src : Source) (c start : Cursor) (nl : Bool) (braces : List Nat) :
    Except LexError (Token × Cursor × List Nat) :=
  match lexTemplate src src.size c #[] with
  | .ok (s, final, c') => .ok (⟨.template s final, start.pos, nl⟩, c', if final then braces else 0 :: braces)
  | .error e => .error e

def lexLoop (src : Source) : Nat → Cursor → List Nat → Array Token → Except LexError (Array Token)
  | 0, c, _, acc => .ok (acc.push ⟨.eof, c.pos, true⟩)
  | n + 1, c, braces, acc =>
    match skipBlank src src.size c false with
    | .error e => .error e
    | .ok (c, nl) =>
      match src[c.i]? with
      | none => .ok (acc.push ⟨.eof, c.pos, nl⟩)
      | some ch =>
        if isNameStart ch then
          let (c', cs) := takeWhileFrom src isNamePart src.size c []
          lexLoop src n c' braces (acc.push ⟨.name (String.ofList cs), c.pos, nl⟩)
        else if ch.isDigit || (ch == '.' && ((src[c.i + 1]?.map Char.isDigit).getD false)) then
          match lexNumber src c with
          | .ok (t, c') => lexLoop src n c' braces (acc.push ⟨t, c.pos, nl⟩)
          | .error e => .error e
        else if ch == '"' || ch == Char.ofNat 39 then
          match lexString src ch src.size (c.step src) #[] with
          | .ok (s, c') => lexLoop src n c' braces (acc.push ⟨.str s, c.pos, nl⟩)
          | .error e => .error e
        else if ch == backtick then
          match templateToken src (c.step src) c nl braces with
          | .ok (t, c', braces') => lexLoop src n c' braces' (acc.push t)
          | .error e => .error e
        else if ch == '\x7d' && braces.head? == some 0 then
          match templateToken src (c.step src) c nl braces.tail with
          | .ok (t, c', braces') => lexLoop src n c' braces' (acc.push t)
          | .error e => .error e
        else
          match punctAt src c with
          | some p =>
            let c' := (List.range p.length).foldl (fun c _ => c.step src) c
            let braces' := match braces, p == "\x7b", p == "\x7d" with
              | k :: ks, true, _ => (k + 1) :: ks
              | k :: ks, _, true => (k - 1) :: ks
              | bs, _, _ => bs
            lexLoop src n c' braces' (acc.push ⟨.punct p, c.pos, nl⟩)
          | none => .error ⟨"unexpected character", c.pos⟩

def tokenize (text : String) : Except LexError (Array Token) :=
  let src := text.toList.toArray
  lexLoop src (src.size + 1) ⟨0, 1, 1⟩ [] #[]

end ScriptBridge.Script
