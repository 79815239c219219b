import CameraOverlay.Json.Number
import CameraOverlay.Decimal.Shortest
import CameraOverlay.Text.Quoted
/-!
# Reading JSON text

A reader walks the bytes of a JSON text once, front to back, and reports the first problem it
meets. Problems come in three classes: the text ends too early (`truncated`), the text is not
JSON (`malformed`), or the text is JSON but not of the expected shape (`mismatch`). Every problem is reported
at a byte offset, which `ReadError.render` turns into a line and a column.

Which problem is met first follows from the reading order: values are read as they are reached,
a value of the wrong kind is refused as soon as it has been read, and members of an object that
are not wanted are still read through (`skipValue`). Nesting of arrays and objects is limited to
127 levels, counted from the outermost value, except inside values that are skipped.

This module holds the generic parts: blanks, keywords, numbers, strings, skipping, and reading a
value of any shape (`anyValue`). Readers for particular documents are built from them.
-/

namespace CameraOverlay.Json

abbrev Input := Array UInt8

inductive ErrorClass where
  | malformed
  | mismatch
  | truncated
deriving Repr, DecidableEq

/-- A value found where another kind was wanted, as messages name it. -/
inductive Unexpected where
  | unit
  | bool (b : Bool)
  | unsigned (n : Nat)
  | signed (n : Int)
  | float (x : Float)
  | str (s : String)
  | seq
  | map

/-- A double as a message shows it: the shortest digits that read back, with a minus sign when
the sign bit is set. Its digits stand positionally, with `.0` after an integer, while the first
digit's decimal exponent is between `-5` and `15`; beyond that they are written with a signed
exponent (`1e+16`, `7e-6`). -/
def floatText (x : Float) : String :=
  if x.isNaN || x.isInf then Decimal.plainText x
  else
    let s := Decimal.shortest x
    let e := Decimal.Shortest.leadDigitExponent s
    let sign := if Decimal.signBit x then "-" else ""
    if s.digits = 0 then sign ++ "0.0"
    else if -5 ≤ e ∧ e ≤ 15 then
      let t := Decimal.Shortest.positional s
      sign ++ (if t.contains '.' then t else t ++ ".0")
    else sign ++ Decimal.Shortest.exponential s

def Unexpected.text : Unexpected → String
  | .unit => "null"
  | .bool b => s!"boolean `{b}`"
  | .unsigned n => s!"integer `{n}`"
  | .signed n => s!"integer `{n}`"
  | .float x => "floating point `" ++ floatText x ++ "`"
  | .str s => "string " ++ Text.quoted s
  | .seq => "sequence"
  | .map => "map"

inductive Problem where
  | eofList
  | eofObject
  | eofString
  | eofValue
  | expectedColon
  | expectedListCommaOrEnd
  | expectedObjectCommaOrEnd
  | expectedIdent
  | expectedValue
  | invalidEscape
  | invalidNumber
  | numberOutOfRange
  | controlCharacter
  | keyMustBeString
  | loneLeadingSurrogate
  | trailingComma
  | trailingCharacters
  | unexpectedEndOfHexEscape
  | recursionLimit
  | invalidType (found : Unexpected) (expected : String)
  | invalidValue (found : Unexpected) (expected : String)
  | invalidLength (length : Nat) (expected : String)
  | missingField (name : String)
  | duplicateField (name : String)
  /-- None of the alternative shapes of a value fits. -/
  | noAlternative (what : String)

namespace Problem

def errorClass : Problem → ErrorClass
  | eofList | eofObject | eofString | eofValue => .truncated
  | invalidType .. | invalidValue .. | invalidLength .. | missingField _ | duplicateField _
  | noAlternative _ => .mismatch
  | _ => .malformed

def text : Problem → String
  | eofList => "EOF while parsing a list"
  | eofObject => "EOF while parsing an object"
  | eofString => "EOF while parsing a string"
  | eofValue => "EOF while parsing a value"
  | expectedColon => "expected `:`"
  | expectedListCommaOrEnd => "expected `,` or `]`"
  | expectedObjectCommaOrEnd => "expected `,` or `\x7d`"
  | expectedIdent => "expected ident"
  | expectedValue => "expected value"
  | invalidEscape => "invalid escape"
  | invalidNumber => "invalid number"
  | numberOutOfRange => "number out of range"
  | controlCharacter => "control character (\\u0000-\\u001F) found while parsing a string"
  | keyMustBeString => "key must be a string"
  | loneLeadingSurrogate => "lone leading surrogate in hex escape"
  | trailingComma => "trailing comma"
  | trailingCharacters => "trailing characters"
  | unexpectedEndOfHexEscape => "unexpected end of hex escape"
  | recursionLimit => "recursion limit exceeded"
  | invalidType u e => "invalid type: " ++ u.text ++ ", expected " ++ e
  | invalidValue u e => "invalid value: " ++ u.text ++ ", expected " ++ e
  | invalidLength n e => s!"invalid length {n}, expected " ++ e
  | missingField f => "missing field `" ++ f ++ "`"
  | duplicateField f => "duplicate field `" ++ f ++ "`"
  | noAlternative w => "data did not match any variant of untagged enum " ++ w

end Problem

/-- A reading problem and the byte offset it is reported at; a problem found while checking a
value's shape gets its offset only where the enclosing value is finished (`fixPosition`). -/
structure ReadError where
  problem : Problem
  offset : Option Nat

namespace ReadError

def errorClass (e : ReadError) : ErrorClass := e.problem.errorClass

/-- Line (from 1) and column of a byte offset: the column counts the bytes since the last
line feed before the offset. -/
def lineColumn (input : Input) (offset : Nat) : Nat × Nat :=
  let before := (input.extract 0 offset).toList
  let lineStart := before.length - (before.reverse.takeWhile (· != 10)).length
  (1 + (before.take lineStart).count 10, offset - lineStart)

/-- The message: the wording, then the line and column where known. -/
def render (input : Input) (e : ReadError) : String :=
  match e.offset with
  | some o =>
    let (line, column) := lineColumn input o
    e.problem.text ++ s!" at line {line} column {column}"
  | none => e.problem.text

end ReadError

inductive Value where
  | null
  | bool (b : Bool)
  | number (n : Number)
  | string (s : String)
  | array (items : List Value)
  | object (entries : List (String × Value))
deriving Inhabited

/-- A reader: reads from an input, moves an offset, and may fail; the offset it reached stays
known after a failure. -/
abbrev Reader := ExceptT ReadError (ReaderT Input (StateM Nat))

def Reader.run' (r : Reader α) (input : Input) : Except ReadError α × Nat :=
  ((ExceptT.run r).run input).run 0

namespace Reader

def peek : Reader (Option UInt8) := do return (← read)[← get]?

def bump : Reader Unit := modify (· + 1)

/-- The number of steps no loop of the reader can exceed: one more than the input's length. -/
def fuel : Reader Nat := do return (← read).size + 1

def fail (p : Problem) : Reader α := do throw ⟨p, some (← get)⟩

/-- Fails one byte past the offset, at the byte looked at. -/
def failAhead (p : Problem) : Reader α := do throw ⟨p, some (min (← read).size ((← get) + 1))⟩

/-- Fails without an offset yet. -/
def failShape (p : Problem) : Reader α := throw ⟨p, none⟩

/-- Gives an error without an offset the offset reached when it arrives here. -/
def fixPosition (r : Reader α) : Reader α :=
  tryCatch r fun e => do
    match e.offset with
    | some _ => throw e
    | none => throw { e with offset := some (← get) }

/-- Runs `body`, then `close` even if the body failed; the body's error comes first. -/
def thenClose (body : Reader α) (close : Reader Unit) : Reader α := do
  let r ← tryCatch (Except.ok <$> body) fun e => pure (Except.error e)
  let c ← tryCatch (Except.ok <$> close) fun e => pure (Except.error e)
  match r, c with
  | .error e, _ => throw e
  | .ok _, .error e => throw e
  | .ok a, .ok () => pure a

/-- Whether a byte is a JSON blank: space, line feed, tab or carriage return. -/
def isBlank (b : UInt8) : Bool := b == 32 || b == 10 || b == 9 || b == 13

def isDigit (b : UInt8) : Bool := 48 ≤ b && b ≤ 57

def digitValue (b : UInt8) : Nat := b.toNat - 48

def skipBlanks : Reader (Option UInt8) := do
  let rec go : Nat → Reader (Option UInt8)
    | 0 => peek
    | n + 1 => do
      match ← peek with
      | some b => if isBlank b then do bump; go n else return some b
      | none => return none
  go (← fuel)

def keyword : List UInt8 → Reader Unit
  | [] => pure ()
  | c :: cs => do
    match ← peek with
    | none => fail .eofValue
    | some b =>
      bump
      if b == c then keyword cs else fail .expectedIdent

def bytesOf (s : String) : List UInt8 := s.toUTF8.toList

/-! ## Numbers -/

def i32Max : Int := 2147483647

def clampI32 (n : Int) : Int := max (-2147483648) (min i32Max n)

def skipDigits : Reader Unit := do
  let rec go : Nat → Reader Unit
    | 0 => pure ()
    | n + 1 => do
      match ← peek with
      | some b => if isDigit b then do bump; go n else pure ()
      | none => pure ()
  go (← fuel)

def ofParts (positive : Bool) (significand : Nat) (exponent : Int) : Reader Number := do
  match floatOfParts (!positive) significand exponent with
  | some x => return .float x
  | none => fail .numberOutOfRange

/-- The end of an exponent: `e` added to or taken from the exponent `start` of the digits,
stuck at the ends of the 32-bit range. -/
def exponentEnd (positive : Bool) (significand : Nat) (start : Int) (up : Bool) (e : Int) :
    Reader Number :=
  ofParts positive significand (clampI32 (if up then start + e else start - e))

/-- The digits of an exponent after its first. An exponent past the 32-bit range gives a zero,
or is out of range when the significand is not zero and the exponent is positive. -/
def exponentDigits (positive : Bool) (significand : Nat) (start : Int) (up : Bool) :
    Nat → Int → Reader Number
  | 0, e => exponentEnd positive significand start up e
  | n + 1, e => do
    match ← peek with
    | some b =>
      if isDigit b then do
        bump
        let e' := e * 10 + digitValue b
        if e' > i32Max then
          if significand != 0 && up then fail .numberOutOfRange
          else do
            skipDigits
            return .float (if positive then 0.0 else -0.0)
        else exponentDigits positive significand start up n e'
      else exponentEnd positive significand start up e
    | none => exponentEnd positive significand start up e

/-- An exponent, from its `e` or `E`: an optional sign, then at least one digit. -/
def exponentPart (positive : Bool) (significand : Nat) (start : Int) : Reader Number := do
  bump
  let up ← do
    match ← peek with
    | some 43 => do bump; pure true
    | some 45 => do bump; pure false
    | _ => pure true
  match ← peek with
  | none => fail .eofValue
  | some c =>
    bump
    if isDigit c then exponentDigits positive significand start up (← fuel) (digitValue c)
    else fail .invalidNumber

def afterDigits (positive : Bool) (significand : Nat) (exponent : Int) : Reader Number := do
  match ← peek with
  | some 101 | some 69 => exponentPart positive significand exponent
  | _ => ofParts positive significand exponent

/-- The end of a fraction: there must have been a digit after the point. -/
def fractionEnd (positive : Bool) (significand : Nat) (before after : Int) : Reader Number := do
  if after == 0 then
    match ← peek with
    | some _ => failAhead .invalidNumber
    | none => failAhead .eofValue
  else afterDigits positive significand (before + after)

/-- Digits after the point: each digit kept lowers the exponent by one; once the significand
is full the remaining digits are skipped. -/
def fractionDigits (positive : Bool) (before : Int) : Nat → Nat → Int → Reader Number
  | 0, s, after => fractionEnd positive s before after
  | n + 1, s, after => do
    match ← peek with
    | some b =>
      if isDigit b then
        if fitsDigit s (digitValue b) then do
          bump
          fractionDigits positive before n (s * 10 + digitValue b) (after - 1)
        else do
          skipDigits
          afterDigits positive s (before + after)
      else fractionEnd positive s before after
    | none => fractionEnd positive s before after

def fraction (positive : Bool) (significand : Nat) (before : Int) : Reader Number := do
  bump
  fractionDigits positive before (← fuel) significand 0

/-- Integer digits past a full significand: each raises the exponent by one. -/
def longDigits (positive : Bool) (significand : Nat) : Nat → Int → Reader Number
  | 0, e => ofParts positive significand e
  | n + 1, e => do
    match ← peek with
    | some 46 => fraction positive significand e
    | some 101 | some 69 => exponentPart positive significand e
    | some b =>
      if isDigit b then do bump; longDigits positive significand n (e + 1)
      else ofParts positive significand e
    | none => ofParts positive significand e

/-- After the integer digits: a fraction or exponent makes a double; otherwise the integer,
negated when `positive` is false. A negated zero, and a negated integer below `-2 ^ 63`, are
doubles. -/
def integerEnd (positive : Bool) (significand : Nat) : Reader Number := do
  match ← peek with
  | some 46 => fraction positive significand 0
  | some 101 | some 69 => exponentPart positive significand 0
  | _ =>
    if positive then return .unsigned significand
    else if significand == 0 then return .float (-0.0)
    else if significand ≤ 9223372036854775808 then return .signed (-(significand : Int))
    else return .float (-(natToFloat significand))

def integerDigits (positive : Bool) : Nat → Nat → Reader Number
  | 0, s => integerEnd positive s
  | n + 1, s => do
    match ← peek with
    | some b =>
      if isDigit b then
        if fitsDigit s (digitValue b) then do
          bump
          integerDigits positive n (s * 10 + digitValue b)
        else longDigits positive s (← fuel) 0
      else integerEnd positive s
    | none => integerEnd positive s

/-- A number after its optional minus sign. A leading zero stands alone. -/
def number (positive : Bool) : Reader Number := do
  match ← peek with
  | none => fail .eofValue
  | some c =>
    bump
    if c == 48 then
      match ← peek with
      | some b => if isDigit b then failAhead .invalidNumber else integerEnd positive 0
      | none => integerEnd positive 0
    else if isDigit c then integerDigits positive (← fuel) (digitValue c)
    else fail .invalidNumber

/-! ## Strings -/

def hexValue (b : UInt8) : Option Nat :=
  if 48 ≤ b && b ≤ 57 then some (b.toNat - 48)
  else if 97 ≤ b && b ≤ 102 then some (b.toNat - 87)
  else if 65 ≤ b && b ≤ 70 then some (b.toNat - 55)
  else none

/-- The four hex digits of a `\u` escape; fewer than four bytes left end the text. -/
def hexEscape : Reader Nat := do
  let bs ← read
  let i ← get
  if i + 4 ≤ bs.size then
    set (i + 4)
    match [0, 1, 2, 3].mapM fun k => hexValue (bs.getD (i + k) 0) with
    | some ds => return ds.foldl (fun acc d => acc * 16 + d) 0
    | none => fail .invalidEscape
  else
    set bs.size
    fail .eofString

def utf8 (n : Nat) : List UInt8 := (Char.ofNat n).toString.toUTF8.toList

/-- A `\u` escape, from after the `u`. A leading surrogate must be followed at once by an
escaped trailing one; the pair stands for one code point above the basic plane. -/
def unicodeEscape (acc : Array UInt8) : Reader (Array UInt8) := do
  let n ← hexEscape
  if 0xDC00 ≤ n && n ≤ 0xDFFF then fail .loneLeadingSurrogate
  else if n < 0xD800 || 0xDBFF < n then return acc ++ utf8 n
  else
    match ← peek with
    | none => fail .eofString
    | some b =>
      bump
      if b != 92 then fail .unexpectedEndOfHexEscape
      else
        match ← peek with
        | none => fail .eofString
        | some u =>
          bump
          if u != 117 then fail .unexpectedEndOfHexEscape
          else
            let m ← hexEscape
            if m < 0xDC00 || 0xDFFF < m then fail .loneLeadingSurrogate
            else return acc ++ utf8 ((n - 0xD800) * 1024 + (m - 0xDC00) + 0x10000)

def simpleEscape (c : UInt8) : Option UInt8 :=
  if c == 34 then some 34
  else if c == 92 then some 92
  else if c == 47 then some 47
  else if c == 98 then some 8
  else if c == 102 then some 12
  else if c == 110 then some 10
  else if c == 114 then some 13
  else if c == 116 then some 9
  else none

def escape (acc : Array UInt8) : Reader (Array UInt8) := do
  match ← peek with
  | none => fail .eofString
  | some c =>
    bump
    match simpleEscape c with
    | some b => return acc.push b
    | none => if c == 117 then unicodeEscape acc else fail .invalidEscape

/-- The text of a string whose opening quote has been read, up to and past its closing quote.
Escapes are decoded; control characters are refused. -/
def stringBody : Reader String := do
  let rec go : Nat → Array UInt8 → Reader (Array UInt8)
    | 0, acc => pure acc
    | n + 1, acc => do
      match ← peek with
      | none => fail .eofString
      | some b =>
        bump
        if b == 34 then pure acc
        else if b == 92 then do go n (← escape acc)
        else if b < 32 then fail .controlCharacter
        else go n (acc.push b)
  let bytes ← go (← fuel) #[]
  return (String.fromUTF8? (ByteArray.mk bytes)).getD ""

/-- Skips an escape, from after its backslash: a `\u` escape needs four bytes of hex digits,
and surrogates are not paired. -/
def skipEscape : Reader Unit := do
  match ← peek with
  | none => fail .eofString
  | some c =>
    bump
    match simpleEscape c with
    | some _ => pure ()
    | none => if c == 117 then discard hexEscape else fail .invalidEscape

/-- Skips a string whose opening quote has been read. A control character is reported at the
character itself. -/
def skipString : Reader Unit := do
  let rec go : Nat → Reader Unit
    | 0 => pure ()
    | n + 1 => do
      match ← peek with
      | none => fail .eofString
      | some b =>
        if b == 34 then bump
        else if b == 92 then do bump; skipEscape; go n
        else if b < 32 then fail .controlCharacter
        else do bump; go n
  go (← fuel)

/-! ## Skipping values -/

def skipExponent : Reader Unit := do
  bump
  match ← peek with
  | some 43 | some 45 => bump
  | _ => pure ()
  match ← peek with
  | some c =>
    bump
    if isDigit c then skipDigits else fail .invalidNumber
  | none => fail .invalidNumber

/-- Skips a number after its optional minus sign. Skipped numbers are never out of range. -/
def skipNumber : Reader Unit := do
  match ← peek with
  | none => fail .invalidNumber
  | some c =>
    bump
    if c == 48 then
      match ← peek with
      | some b => if isDigit b then failAhead .invalidNumber else pure ()
      | none => pure ()
    else if isDigit c then skipDigits
    else fail .invalidNumber
  match ← peek with
  | some 46 =>
    bump
    match ← peek with
    | some b =>
      if isDigit b then do
        skipDigits
        match ← peek with
        | some 101 | some 69 => skipExponent
        | _ => pure ()
      else failAhead .invalidNumber
    | none => failAhead .invalidNumber
  | some 101 | some 69 => skipExponent
  | _ => pure ()

/-- Where a skip stands: at a value, or after a value or an opening bracket, where `accept`
says whether a comma may come. -/
inductive SkipPhase where
  | value
  | close (accept : Bool)

def skipKey : Reader Unit := do
  match ← skipBlanks with
  | some 34 => bump
  | some _ => failAhead .keyMustBeString
  | none => failAhead .eofObject
  skipString
  match ← skipBlanks with
  | some 58 => bump
  | some _ => failAhead .expectedColon
  | none => failAhead .eofObject

/-- The skipping machine. `frames` lists the open brackets, innermost first, `true` for an
array; nesting is kept in this list, so skipping has no depth limit. -/
def skipGo : Nat → SkipPhase → List Bool → Reader Unit
  | 0, _, _ => pure ()
  | n + 1, .value, frames => do
    match ← skipBlanks with
    | none => failAhead .eofValue
    | some c =>
      if c == 110 then do bump; keyword (bytesOf "ull"); skipGo n (.close true) frames
      else if c == 116 then do bump; keyword (bytesOf "rue"); skipGo n (.close true) frames
      else if c == 102 then do bump; keyword (bytesOf "alse"); skipGo n (.close true) frames
      else if c == 45 then do bump; skipNumber; skipGo n (.close true) frames
      else if isDigit c then do skipNumber; skipGo n (.close true) frames
      else if c == 34 then do bump; skipString; skipGo n (.close true) frames
      else if c == 91 then do bump; skipGo n (.close false) (true :: frames)
      else if c == 123 then do bump; skipGo n (.close false) (false :: frames)
      else failAhead .expectedValue
  | _ + 1, .close _, [] => pure ()
  | n + 1, .close accept, isArray :: outer => do
    match ← skipBlanks with
    | none => failAhead (if isArray then .eofList else .eofObject)
    | some c =>
      if c == 44 && accept then do
        bump
        if !isArray then skipKey
        skipGo n .value (isArray :: outer)
      else if (c == 93 && isArray) || (c == 125 && !isArray) then do
        bump
        skipGo n (.close true) outer
      else if accept then
        failAhead (if isArray then .expectedListCommaOrEnd else .expectedObjectCommaOrEnd)
      else do
        if !isArray then skipKey
        skipGo n .value (isArray :: outer)

/-- Skips one value of any shape, checking that it is well formed. -/
def skipValue : Reader Unit := do skipGo (2 * (← fuel)) .value []

/-! ## Arrays and objects -/

/-- Whether another element of an array follows; `first` is true before the first element.
Leaves the offset at the element. -/
def elementFollows (first : Bool) : Reader Bool := do
  match ← skipBlanks with
  | some 93 => pure false
  | some 44 =>
    if first then pure true
    else do
      bump
      match ← skipBlanks with
      | some 93 => failAhead .trailingComma
      | some _ => pure true
      | none => failAhead .eofValue
  | some _ => if first then pure true else failAhead .expectedListCommaOrEnd
  | none => failAhead .eofList

/-- Whether another member of an object follows; `first` is true before the first member.
Leaves the offset at the key's opening quote. -/
def memberFollows (first : Bool) : Reader Bool := do
  match ← skipBlanks with
  | some 125 => pure false
  | some 44 =>
    if first then failAhead .keyMustBeString
    else do
      bump
      match ← skipBlanks with
      | some 34 => pure true
      | some 125 => failAhead .trailingComma
      | some _ => failAhead .keyMustBeString
      | none => failAhead .eofValue
  | some 34 => if first then pure true else failAhead .expectedObjectCommaOrEnd
  | some _ => if first then failAhead .keyMustBeString else failAhead .expectedObjectCommaOrEnd
  | none => failAhead .eofObject

def key : Reader String := do bump; stringBody

def colon : Reader Unit := do
  match ← skipBlanks with
  | some 58 => bump
  | some _ => failAhead .expectedColon
  | none => failAhead .eofObject

def endList : Reader Unit := do
  match ← skipBlanks with
  | some 93 => bump
  | some 44 =>
    bump
    match ← skipBlanks with
    | some 93 => failAhead .trailingComma
    | _ => failAhead .trailingCharacters
  | some _ => failAhead .trailingCharacters
  | none => failAhead .eofList

def endMap : Reader Unit := do
  match ← skipBlanks with
  | some 125 => bump
  | some 44 => failAhead .trailingComma
  | some _ => failAhead .trailingCharacters
  | none => failAhead .eofObject

/-- The end of the text: only blanks may follow the value. -/
def finish : Reader Unit := do
  match ← skipBlanks with
  | some _ => failAhead .trailingCharacters
  | none => pure ()

/-- Reads the elements of an array, from after its `[` up to its `]`, each with `item`. -/
def elements (item : Reader α) : Reader (List α) := do
  let rec go : Nat → Bool → List α → Reader (List α)
    | 0, _, acc => pure acc.reverse
    | n + 1, first, acc => do
      if ← elementFollows first then go n false ((← item) :: acc) else pure acc.reverse
  go (← fuel) true []

/-- Folds over the members of an object, from after its `{` up to its `}`: `step` gets each
key and reads the colon and the value itself. -/
def members (step : σ → String → Reader σ) (init : σ) : Reader σ := do
  let rec go : Nat → Bool → σ → Reader σ
    | 0, _, s => pure s
    | n + 1, first, s => do
      if ← memberFollows first then go n false (← step s (← key)) else pure s
  go (← fuel) true init

/-- Opens a nested array or object, with `depth` levels left for its contents: the bracket is
consumed, or the nesting limit is reached when none is left. -/
def enter (depth : Nat) : Reader Unit := do
  if depth == 0 then failAhead .recursionLimit else bump

/-! ## Values of any shape -/

def Number.unexpected : Number → Unexpected
  | .unsigned n => .unsigned n
  | .signed n => .signed n
  | .float x => .float x

/-- Reads a value of any shape, where the count counts the levels of nesting left, this one
included.
Members keep their order and repeated keys. -/
def anyValue : Nat → Reader Value
  | 0 => failAhead .recursionLimit
  | depth + 1 => fixPosition do
    match ← skipBlanks with
    | none => failAhead .eofValue
    | some c =>
      if c == 110 then do bump; keyword (bytesOf "ull"); pure .null
      else if c == 116 then do bump; keyword (bytesOf "rue"); pure (.bool true)
      else if c == 102 then do bump; keyword (bytesOf "alse"); pure (.bool false)
      else if c == 45 then do bump; pure (.number (← number false))
      else if isDigit c then do pure (.number (← number true))
      else if c == 34 then do bump; pure (.string (← stringBody))
      else if c == 91 then do
        enter depth
        thenClose (.array <$> elements (anyValue depth)) endList
      else if c == 123 then do
        enter depth
        let entry (acc : List (String × Value)) (k : String) : Reader (List (String × Value)) := do
          colon
          return (k, ← anyValue depth) :: acc
        thenClose ((fun es => .object es.reverse) <$> members entry []) endMap
      else failAhead .expectedValue

/-- Reads the value at the offset only to name it in a refusal, and refuses it: the value was
wanted as `expected`. -/
def refuse (expected : String) : Reader α := do
  let found ← do
    match ← peek with
    | some 110 => do bump; keyword (bytesOf "ull"); pure Unexpected.unit
    | some 116 => do bump; keyword (bytesOf "rue"); pure (Unexpected.bool true)
    | some 102 => do bump; keyword (bytesOf "alse"); pure (Unexpected.bool false)
    | some 45 => do bump; pure (Number.unexpected (← number false))
    | some 34 => do bump; pure (Unexpected.str (← stringBody))
    | some 91 => pure Unexpected.seq
    | some 123 => pure Unexpected.map
    | some c =>
      if isDigit c then do pure (Number.unexpected (← number true))
      else failAhead .expectedValue
    | none => failAhead .expectedValue
  fail (.invalidType found expected)

/-! ## Integers of fixed width -/

/-- An integer type a value may be read as: its name in messages, and its range. -/
structure IntKind where
  name : String
  lo : Int
  hi : Int

def IntKind.usize : IntKind := ⟨"usize", 0, 18446744073709551615⟩

def IntKind.u32 : IntKind := ⟨"u32", 0, 4294967295⟩

def IntKind.i32 : IntKind := ⟨"i32", -2147483648, 2147483647⟩

/-- Reads an integer of the given kind. A number that is a double is of the wrong type; an
integer outside the kind's range is of the wrong value. -/
def integer (k : IntKind) : Reader Int := fixPosition do
  match ← skipBlanks with
  | none => failAhead .eofValue
  | some c =>
    let n ← if c == 45 then do bump; number false
      else if isDigit c then number true
      else refuse k.name
    match n with
    | .unsigned v => if (v : Int) ≤ k.hi then pure v else failShape (.invalidValue (.unsigned v) k.name)
    | .signed v => if k.lo ≤ v then pure v else failShape (.invalidValue (.signed v) k.name)
    | .float x => failShape (.invalidType (.float x) k.name)

/-- Reads an array or object with the given readers, after blanks, where `depth` counts the
levels of nesting left, this one included: `seq` from after the opening bracket, `map` from after
the opening brace; anything else is refused as not `expected`. The closing bracket is read even
when the contents failed, and a shape error is placed after it. -/
def structured (depth : Nat) (expected : String) (seq : Reader α) (map : Reader α) :
    Reader α := fixPosition do
  match ← skipBlanks with
  | none => failAhead .eofValue
  | some 91 => do enter (depth - 1); thenClose seq endList
  | some 123 => do enter (depth - 1); thenClose map endMap
  | some _ => refuse expected

/-- Reads an array with the given reader, after blanks, where `depth` counts the levels of
nesting left, this one included; anything else is refused. -/
def sequence (depth : Nat) (expected : String) (seq : Reader α) : Reader α := fixPosition do
  match ← skipBlanks with
  | none => failAhead .eofValue
  | some 91 => do enter (depth - 1); thenClose seq endList
  | some _ => refuse expected

def document (r : Reader α) : Reader α := do
  let a ← r
  finish
  return a

end Reader

end CameraOverlay.Json
