import ScriptBridge.Decimal.Binary
import ScriptBridge.Decimal.Layout

/-!
# Reading JSON text

A reader over the UTF-8 bytes of a text, with the rules and error texts of a widely used JSON
library. Whitespace is space, tab, line feed and carriage return. A number has at most one
leading zero. A `\u` escape of a high surrogate must be followed by one of a low surrogate.

Every error has a place: the line, and the column counted in bytes since the last line feed.
Some errors are found by looking at the next byte without taking it. Those count that byte too
(`failPeek`); the others stop after the last byte taken (`fail`). Errors about the *type* of a
well-formed value (`Problem.invalidType`) are placed later, by the decoder that asked for the
value (`placed`).

Besides the typed primitives used by decoders, the module reads whole values (`Value`), with
at most 127 nested containers, and skips values of any depth without building them (`skip`).
-/

namespace ScriptBridge.Json

/-- The syntax errors of JSON text. -/
inductive Code where
  | eofWhileParsingList
  | eofWhileParsingObject
  | eofWhileParsingString
  | eofWhileParsingValue
  | expectedColon
  | expectedListCommaOrEnd
  | expectedObjectCommaOrEnd
  | expectedSomeIdent
  | expectedSomeValue
  | invalidEscape
  | invalidNumber
  | numberOutOfRange
  | controlCharacterWhileParsingString
  | keyMustBeAString
  | loneLeadingSurrogateInHexEscape
  | trailingComma
  | trailingCharacters
  | unexpectedEndOfHexEscape
  | recursionLimitExceeded
  deriving Repr, BEq, Inhabited

def Code.text : Code → String
  | .eofWhileParsingList => "EOF while parsing a list"
  | .eofWhileParsingObject => "EOF while parsing an object"
  | .eofWhileParsingString => "EOF while parsing a string"
  | .eofWhileParsingValue => "EOF while parsing a value"
  | .expectedColon => "expected `:`"
  | .expectedListCommaOrEnd => "expected `,` or `]`"
  | .expectedObjectCommaOrEnd => "expected `,` or `\x7d`"
  | .expectedSomeIdent => "expected ident"
  | .expectedSomeValue => "expected value"
  | .invalidEscape => "invalid escape"
  | .invalidNumber => "invalid number"
  | .numberOutOfRange => "number out of range"
  | .controlCharacterWhileParsingString =>
    "control character (\\u0000-\\u001F) found while parsing a string"
  | .keyMustBeAString => "key must be a string"
  | .loneLeadingSurrogateInHexEscape => "lone leading surrogate in hex escape"
  | .trailingComma => "trailing comma"
  | .trailingCharacters => "trailing characters"
  | .unexpectedEndOfHexEscape => "unexpected end of hex escape"
  | .recursionLimitExceeded => "recursion limit exceeded"

/-- A number as read: a natural, a negative integer, or a float. -/
inductive Num where
  | unsigned (n : Nat)
  | signed (n : Int)
  | float (x : Float)
  deriving Inhabited

/-- What a decoder found where it expected something else. -/
inductive Unexpected where
  | bool (b : Bool)
  | unsigned (n : Nat)
  | signed (n : Int)
  | float (x : Float)
  | str (s : String)
  | null
  | seq
  | map
  deriving Inhabited

def hexLower (n : Nat) : String :=
  String.ofList (Nat.toDigits 16 n)

def quoteDebug (s : String) : String :=
  let body := s.toList.flatMap fun c =>
    if c = '"' then ['\\', '"']
    else if c = '\\' then ['\\', '\\']
    else if c = '\n' then ['\\', 'n']
    else if c = '\r' then ['\\', 'r']
    else if c = '\t' then ['\\', 't']
    else if c.toNat = 0 then ['\\', '0']
    else if c.toNat < 0x20 ∨ c.toNat = 0x7F then ("\\u" ++ "\x7b" ++ hexLower c.toNat ++ "\x7d").toList
    else [c]
  "\"" ++ String.ofList body ++ "\""

def Unexpected.text : Unexpected → String
  | .bool b => "boolean `" ++ toString b ++ "`"
  | .unsigned n => "integer `" ++ toString n ++ "`"
  | .signed n => "integer `" ++ toString n ++ "`"
  | .float x => "floating point `" ++ Decimal.jsonText x ++ "`"
  | .str s => "string " ++ quoteDebug s
  | .null => "null"
  | .seq => "sequence"
  | .map => "map"

/-- Why reading or decoding stopped. -/
inductive Problem where
  | code (c : Code)
  | invalidType (found : Unexpected) (expected : String)
  | invalidValue (found : Unexpected) (expected : String)
  | duplicateField (name : String)
  deriving Inhabited

def Problem.text : Problem → String
  | .code c => c.text
  | .invalidType u e => "invalid type: " ++ u.text ++ ", expected " ++ e
  | .invalidValue u e => "invalid value: " ++ u.text ++ ", expected " ++ e
  | .duplicateField n => "duplicate field `" ++ n ++ "`"

/-- A reading error and its place (line, column), once known. -/
structure Error where
  problem : Problem
  place : Option (Nat × Nat)
  deriving Inhabited

def Error.message (e : Error) : String :=
  match e.place with
  | some (l, c) => e.problem.text ++ " at line " ++ toString l ++ " column " ++ toString c
  | none => e.problem.text

/-- Reading: the bytes, and the index of the next byte to take. The index survives an error, so
that a handler sees where reading stopped. -/
abbrev Read := ReaderT ByteArray (ExceptT Error (StateM Nat))

def placeOf (b : ByteArray) (i : Nat) : Nat × Nat :=
  let before := (b.extract 0 i).toList
  let start := before.length - (before.reverse.takeWhile (· != 10)).length
  (before.count 10 + 1, i - start)

def failAt (i : Nat) (c : Code) : Read α := do
  throw ⟨.code c, some (placeOf (← read) i)⟩

def fail (c : Code) : Read α := do failAt (← get) c

def failPeek (c : Code) : Read α := do
  failAt (min (← read).size ((← get) + 1)) c

def problem (p : Problem) : Read α := throw ⟨p, none⟩

def placed (x : Read α) : Read α :=
  tryCatch x fun e => do
    match e.place with
    | some _ => throw e
    | none => throw { e with place := some (placeOf (← read) (← get)) }

def peek? : Read (Option UInt8) := do pure (← read)[← get]?

def eat : Read Unit := modify (· + 1)

def next? : Read (Option UInt8) := do
  let c ← peek?
  if c.isSome then eat
  pure c

def budget : Read Nat := do pure ((← read).size + 1 - (← get))

def isBlank (c : UInt8) : Bool := c == 32 || c == 10 || c == 9 || c == 13

def isDigit (c : UInt8) : Bool := 48 ≤ c && c ≤ 57

def skipBlanks : Nat → Read (Option UInt8)
  | 0 => peek?
  | n + 1 => do
    match ← peek? with
    | some c => if isBlank c then do eat; skipBlanks n else pure (some c)
    | none => pure none

def skipWs : Read (Option UInt8) := do skipBlanks (← budget)

def expectIdent : List UInt8 → Read Unit
  | [] => pure ()
  | c :: rest => do
    match ← next? with
    | none => fail .eofWhileParsingValue
    | some d => if d == c then expectIdent rest else fail .expectedSomeIdent

def hexValue (c : UInt8) : Option Nat :=
  if 48 ≤ c && c ≤ 57 then some (c.toNat - 48)
  else if 65 ≤ c && c ≤ 70 then some (c.toNat - 55)
  else if 97 ≤ c && c ≤ 102 then some (c.toNat - 87)
  else none

def hex4 : Read Nat := do
  let b ← read
  let i ← get
  if i + 4 ≤ b.size then
    set (i + 4)
    match hexValue b[i]!, hexValue b[i + 1]!, hexValue b[i + 2]!, hexValue b[i + 3]! with
    | some a, some c, some d, some e => pure (((a * 16 + c) * 16 + d) * 16 + e)
    | _, _, _, _ => fail .invalidEscape
  else
    set b.size
    fail .eofWhileParsingString

def peekInString : Read UInt8 := do
  match ← peek? with
  | some c => pure c
  | none => fail .eofWhileParsingString

def expectEscapeByte (c : UInt8) : Read Unit := do
  if (← peekInString) == c then eat else do eat; fail .unexpectedEndOfHexEscape

def unicodeEscape (acc : Array UInt8) : Read (Array UInt8) := do
  let n ← hex4
  if 0xDC00 ≤ n ∧ n ≤ 0xDFFF then fail .loneLeadingSurrogateInHexEscape
  else if 0xD800 ≤ n ∧ n ≤ 0xDBFF then
    expectEscapeByte 92
    expectEscapeByte 117
    let m ← hex4
    if m < 0xDC00 ∨ m > 0xDFFF then fail .loneLeadingSurrogateInHexEscape
    else
      let cp := 0x10000 + (n - 0xD800) * 0x400 + (m - 0xDC00)
      pure (acc ++ (String.utf8EncodeChar (Char.ofNat cp)).toArray)
  else pure (acc ++ (String.utf8EncodeChar (Char.ofNat n)).toArray)

def escape (keep : Bool) (acc : Array UInt8) : Read (Array UInt8) := do
  match ← next? with
  | none => fail .eofWhileParsingString
  | some c =>
    if c == 34 || c == 92 || c == 47 then pure (acc.push c)
    else if c == 98 then pure (acc.push 8)
    else if c == 102 then pure (acc.push 12)
    else if c == 110 then pure (acc.push 10)
    else if c == 114 then pure (acc.push 13)
    else if c == 116 then pure (acc.push 9)
    else if c == 117 then (if keep then unicodeEscape acc else do let _ ← hex4; pure acc)
    else fail .invalidEscape

def stringBody (keep : Bool) : Nat → Array UInt8 → Read (Array UInt8)
  | 0, acc => pure acc
  | n + 1, acc => do
    match ← peek? with
    | none => fail .eofWhileParsingString
    | some c =>
      if c == 34 then do eat; pure acc
      else if c == 92 then do eat; stringBody keep n (← escape keep acc)
      else if c < 0x20 then do
        (if keep then eat else pure ())
        fail .controlCharacterWhileParsingString
      else do eat; stringBody keep n (acc.push c)

def readString : Read String := do
  let bytes ← stringBody true (← budget) #[]
  pure ((String.fromUTF8? ⟨bytes⟩).getD "")

def skipString : Read Unit := do
  let _ ← stringBody false (← budget) #[]

def wordMax : Nat := 2 ^ 64 - 1

def exponentMax : Nat := 2 ^ 31 - 1

def saturate (x : Int) : Int := max (-(2 ^ 31 : Int)) (min (exponentMax : Int) x)

/-- The digits of a number as they are read, in two readings. `digits` and `scale` are exact:
the digits so far as one natural, `scale` of them after the point. `sig` and `shift` are the
64-bit reading `sig · 10 ^ shift`: a digit joins `sig` while `sig` stays within 64 bits. In the
integer part the first digit that does not fit, and every integer digit after it, raise `shift`
instead; in the fraction the first digit that does not fit, and every digit after it, are
dropped. `full` records that a digit did not fit in the part being read. -/
structure Digits where
  digits : Nat := 0
  scale : Nat := 0
  sig : Nat := 0
  shift : Int := 0
  full : Bool := false

def Digits.integer (s : Digits) (d : Nat) : Digits :=
  let exact := { s with digits := s.digits * 10 + d }
  if !s.full && s.sig * 10 + d ≤ wordMax then { exact with sig := s.sig * 10 + d }
  else { exact with full := true, shift := s.shift + 1 }

def Digits.fraction (s : Digits) (d : Nat) : Digits :=
  let exact := { s with digits := s.digits * 10 + d, scale := s.scale + 1 }
  if !s.full && s.sig * 10 + d ≤ wordMax then
    { exact with sig := s.sig * 10 + d, shift := s.shift - 1 }
  else { exact with full := true }

def digitsWith (step : Digits → Nat → Digits) : Nat → Digits → Read Digits
  | 0, s => pure s
  | n + 1, s => do
    match ← peek? with
    | some c => if isDigit c then do eat; digitsWith step n (step s (c.toNat - 48)) else pure s
    | none => pure s

def integerPart : Read Digits := do
  match ← next? with
  | none => fail .eofWhileParsingValue
  | some c =>
    if c == 48 then
      match ← peek? with
      | some d => if isDigit d then failPeek .invalidNumber else pure {}
      | none => pure {}
    else if 49 ≤ c && c ≤ 57 then
      digitsWith Digits.integer (← budget) (Digits.integer {} (c.toNat - 48))
    else fail .invalidNumber

def fractionPart (s : Digits) : Read Digits := do
  eat
  let t ← digitsWith Digits.fraction (← budget) { s with full := false }
  if t.scale == s.scale then
    match ← peek? with
    | some _ => failPeek .invalidNumber
    | none => failPeek .eofWhileParsingValue
  else pure t

def exponentDigits : Nat → Nat → Read (Option Nat)
  | 0, e => pure (some e)
  | n + 1, e => do
    match ← peek? with
    | some c =>
      if isDigit c then do
        eat
        let e' := e * 10 + (c.toNat - 48)
        if e' > exponentMax then pure none else exponentDigits n e'
      else pure (some e)
    | none => pure (some e)

def dropDigits : Nat → Read Unit
  | 0 => pure ()
  | n + 1 => do
    match ← peek? with
    | some c => if isDigit c then do eat; dropDigits n else pure ()
    | none => pure ()

def exponentPart : Read (Bool × Option Nat) := do
  eat
  let positive ← do
    match ← peek? with
    | some 43 => do eat; pure true
    | some 45 => do eat; pure false
    | _ => pure true
  match ← next? with
  | none => fail .eofWhileParsingValue
  | some d =>
    if isDigit d then
      match ← exponentDigits (← budget) (d.toNat - 48) with
      | some e => pure (positive, some e)
      | none => pure (positive, none)
    else fail .invalidNumber

def powerOfTen (k : Nat) : Float := Decimal.nearestDecimal 1 k

def scaledDouble (sig : Nat) (e : Int) : Option Float :=
  go (e.natAbs / 308 + 1) (Decimal.nearestDecimal sig 0) e
where
  go : Nat → Float → Int → Option Float
    | 0, f, _ => some f
    | n + 1, f, e =>
      if e.natAbs ≤ 308 then
        if e ≥ 0 then
          let g := f * powerOfTen e.natAbs
          if g.isInf then none else some g
        else some (f / powerOfTen e.natAbs)
      else if f == 0 then some f
      else if e ≥ 0 then none
      else go n (f / powerOfTen 308) (e + 308)

def pointPart (whole : Digits) : Read (Digits × Bool) := do
  if (← peek?) == some 46 then pure ((← fractionPart whole), true)
  else pure (whole, false)

def signed (positive : Bool) (x : Float) : Float := if positive then x else -x

def readNumber (positive : Bool) : Read (Num × Float) := do
  let whole ← integerPart
  let (s, hasPoint) ← pointPart whole
  let c ← peek?
  if c == some 101 || c == some 69 then
    match ← exponentPart with
    | (up, some e) =>
      let e : Int := if up then e else -(e : Int)
      let nearest := signed positive (Decimal.nearestDecimal s.digits (e - s.scale))
      match scaledDouble s.sig (saturate (s.shift + e)) with
      | some x => pure (.float (signed positive x), nearest)
      | none => fail .numberOutOfRange
    | (up, none) =>
      if s.sig != 0 && up then fail .numberOutOfRange
      else do
        dropDigits (← budget)
        pure (.float (signed positive 0), signed positive 0)
  else
    let nearest := signed positive (Decimal.nearestDecimal s.digits (-(s.scale : Int)))
    if !hasPoint && !s.full then
      if positive then pure (.unsigned s.sig, nearest)
      else if s.sig == 0 then pure (.float (-0.0), nearest)
      else if s.sig ≤ 2 ^ 63 then pure (.signed (-(s.sig : Int)), nearest)
      else pure (.float (-(Decimal.nearestDecimal s.sig 0)), nearest)
    else
      match scaledDouble s.sig (saturate s.shift) with
      | some x => pure (.float (signed positive x), nearest)
      | none => fail .numberOutOfRange

/-- A JSON value. Object members keep their order and repeats. -/
inductive Value where
  | null
  | bool (b : Bool)
  /-- A number, as the double nearest to its decimal. -/
  | num (x : Float)
  | str (s : String)
  | arr (items : List Value)
  | obj (members : List (String × Value))
  deriving Inhabited

def nextItem (item : Read α) (first : Bool) : Read (Option α) := do
  match ← skipWs with
  | some 93 => pure none
  | some c =>
    let c ← if c == 44 && !first then do eat; skipWs
      else if first then pure (some c) else failPeek .expectedListCommaOrEnd
    match c with
    | some 93 => failPeek .trailingComma
    | some _ => some <$> item
    | none => failPeek .eofWhileParsingValue
  | none => failPeek .eofWhileParsingList

def listItems (item : Read α) : Nat → Bool → Array α → Read (Array α)
  | 0, _, acc => pure acc
  | n + 1, first, acc => do
    match ← nextItem item first with
    | none => pure acc
    | some v => listItems item n false (acc.push v)

def endList : Read Unit := do
  match ← skipWs with
  | some 93 => eat
  | some 44 => do
    eat
    match ← skipWs with
    | some 93 => failPeek .trailingComma
    | _ => failPeek .trailingCharacters
  | some _ => failPeek .trailingCharacters
  | none => failPeek .eofWhileParsingList

def memberColon : Read Unit := do
  match ← skipWs with
  | some 58 => eat
  | some _ => failPeek .expectedColon
  | none => failPeek .eofWhileParsingObject

def memberName (first : Bool) : Read (Option String) := do
  match ← skipWs with
  | some 125 => pure none
  | some c =>
    let c ← if c == 44 && !first then do eat; skipWs
      else if first then pure (some c) else failPeek .expectedObjectCommaOrEnd
    match c with
    | some 34 => do eat; pure (some (← readString))
    | some 125 => failPeek .trailingComma
    | some _ => failPeek .keyMustBeAString
    | none => failPeek .eofWhileParsingValue
  | none => failPeek .eofWhileParsingObject

def endObject : Read Unit := do
  match ← skipWs with
  | some 125 => eat
  | some 44 => failPeek .trailingComma
  | some _ => failPeek .trailingCharacters
  | none => failPeek .eofWhileParsingObject

def objectMembers (value : Read α) : Nat → Bool → Array (String × α) → Read (Array (String × α))
  | 0, _, acc => pure acc
  | n + 1, first, acc => do
    match ← memberName first with
    | none => pure acc
    | some k => do
      memberColon
      let v ← value
      objectMembers value n false (acc.push (k, v))

def readValue : Nat → Read Value
  | 0 => failPeek .recursionLimitExceeded
  | depth + 1 => do
    match ← skipWs with
    | none => failPeek .eofWhileParsingValue
    | some c =>
      placed do
        if c == 110 then do eat; expectIdent [117, 108, 108]; pure .null
        else if c == 116 then do eat; expectIdent [114, 117, 101]; pure (.bool true)
        else if c == 102 then do eat; expectIdent [97, 108, 115, 101]; pure (.bool false)
        else if c == 45 then do eat; pure (.num (← readNumber false).2)
        else if isDigit c then do pure (.num (← readNumber true).2)
        else if c == 34 then do eat; pure (.str (← readString))
        else if c == 91 then
          if depth == 0 then failPeek .recursionLimitExceeded
          else do
            eat
            let items ← listItems (readValue depth) (← budget) true #[]
            endList
            pure (.arr items.toList)
        else if c == 123 then
          if depth == 0 then failPeek .recursionLimitExceeded
          else do
            eat
            let members ← objectMembers (readValue depth) (← budget) true #[]
            endObject
            pure (.obj members.toList)
        else failPeek .expectedSomeValue

/-- Containers open while skipping, innermost first: `true` for a list, `false` for an object. -/
abbrev Open := List Bool

def closeLoop : Nat → Bool → Open → Read (Option Open)
  | 0, _, _ => pure none
  | _, _, [] => pure none
  | n + 1, accept, frame :: rest => do
    let closes (c : UInt8) : Bool := (c == 93 && frame) || (c == 125 && !frame)
    match ← skipWs with
    | some c =>
      if c == 44 && accept then do eat; pure (some (frame :: rest))
      else if closes c then do
        eat
        if rest.isEmpty then pure none else closeLoop n true rest
      else if accept then
        failPeek (if frame then .expectedListCommaOrEnd else .expectedObjectCommaOrEnd)
      else pure (some (frame :: rest))
    | none => failPeek (if frame then .eofWhileParsingList else .eofWhileParsingObject)

def memberQuote : Read Unit := do
  match ← skipWs with
  | some 34 => eat
  | some _ => failPeek .keyMustBeAString
  | none => failPeek .eofWhileParsingObject

def skipMemberName : Read Unit := do
  memberQuote
  skipString
  memberColon

def skipIntegerPart : Read Unit := do
  match ← next? with
  | some 48 =>
    match ← peek? with
    | some d => if isDigit d then failPeek .invalidNumber else pure ()
    | none => pure ()
  | some c => if 49 ≤ c && c ≤ 57 then dropDigits (← budget) else fail .invalidNumber
  | none => fail .invalidNumber

def skipFraction : Read Unit := do
  if (← peek?) == some 46 then
    eat
    match ← peek? with
    | some d => if isDigit d then dropDigits (← budget) else failPeek .invalidNumber
    | none => failPeek .invalidNumber

def skipSign : Read Unit := do
  let sign ← peek?
  if sign == some 43 || sign == some 45 then eat

def skipExponent : Read Unit := do
  let c ← peek?
  if c == some 101 || c == some 69 then
    eat
    skipSign
    match ← next? with
    | some d => if isDigit d then dropDigits (← budget) else fail .invalidNumber
    | none => fail .invalidNumber

def skipNumber : Read Unit := do
  skipIntegerPart
  skipFraction
  skipExponent

def skipScalar (c : UInt8) : Read Unit :=
  if c == 110 then do eat; expectIdent [117, 108, 108]
  else if c == 116 then do eat; expectIdent [114, 117, 101]
  else if c == 102 then do eat; expectIdent [97, 108, 115, 101]
  else if c == 45 then do eat; skipNumber
  else if isDigit c then skipNumber
  else if c == 34 then do eat; skipString
  else failPeek .expectedSomeValue

def skipLoop : Nat → Open → Read Unit
  | 0, _ => pure ()
  | n + 1, stack => do
    match ← skipWs with
    | none => failPeek .eofWhileParsingValue
    | some c =>
      let next ← if c == 91 || c == 123 then do
          eat
          closeLoop (← budget) false ((c == 91) :: stack)
        else do
          skipScalar c
          if stack.isEmpty then pure none else closeLoop (← budget) true stack
      match next with
      | none => pure ()
      | some s => do
        (if s.head? == some false then skipMemberName else pure ())
        skipLoop n s

def skip : Read Unit := do skipLoop (← budget) []

def finish : Read Unit := do
  match ← skipWs with
  | some _ => failPeek .trailingCharacters
  | none => pure ()

def Read.run (x : Read α) (text : String) : Except Error α :=
  ((ReaderT.run x text.toUTF8).run.run 0).1

def parse (text : String) : Except Error Value :=
  Read.run (do let v ← readValue 128; finish; pure v) text

end ScriptBridge.Json
