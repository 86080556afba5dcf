import GridAuthz.Bytes

/-!
# JSON

A text in JSON is cut into tokens, and the tokens are put together to a value. Members of an
object are kept in the order in which they stand, repeated ones too. Of numbers only those
that are written as natural numbers have a value here.
-/

namespace GridAuthz

/-- A JSON value. -/
inductive Json where
  /-- The value `null`. -/
  | null
  /-- A truth value. -/
  | bool (b : Bool)
  /-- A number, with its value if it is written in digits only. -/
  | number (natural : Option Nat)
  /-- A text. -/
  | text (s : String)
  /-- A list. -/
  | array (items : List Json)
  /-- Members with their names. -/
  | object (members : List (String × Json))

namespace Json

/-! ### Tokens -/

/-- A token. -/
inductive Token where
  /-- A value without parts. -/
  | value (v : Json)
  /-- A bracket, brace, comma or colon. -/
  | sign (c : Char)

/-- The characters that are tokens by themselves: brackets, braces, comma and colon. -/
def isSign (c : Char) : Bool :=
  c = '[' || c = ']' || c = '\x7b' || c = '\x7d' || c = ',' || c = ':'

/-- White space between tokens. -/
def isBlank (c : Char) : Bool := c = ' ' || c = '\t' || c = '\n' || c = '\r'

/-- The number that four hexadecimal digits write, and what follows them. -/
def codeUnit? : List Char → Option (Nat × List Char)
  | a :: b :: c :: d :: rest => do
    let digits ← [a, b, c, d].mapM Bytes.hexValue?
    return (digits.foldl (fun n digit => n * 16 + digit.toNat) 0, rest)
  | _ => none

/-- The character that an escape with a code unit stands for. A high surrogate has to be
followed by the escape of a low one. -/
def escapedCode? (cs : List Char) : Option (Char × List Char) := do
  let (unit, rest) ← codeUnit? cs
  if unit < 0xD800 ∨ 0xE000 ≤ unit then return (Char.ofNat unit, rest)
  else if 0xDC00 ≤ unit then none
  else match rest with
    | '\\' :: 'u' :: rest =>
      let (low, rest) ← codeUnit? rest
      if 0xDC00 ≤ low ∧ low < 0xE000 then
        return (Char.ofNat (0x10000 + (unit - 0xD800) * 0x400 + (low - 0xDC00)), rest)
      else none
    | _ => none

/-- The character that a letter after a backslash stands for. -/
def escapedLetter? (c : Char) : Option Char :=
  [('"', '"'), ('\\', '\\'), ('/', '/'), ('b', '\x08'), ('f', '\x0c'), ('n', '\n'), ('r', '\r'),
    ('t', '\t')].lookup c

/-- The characters up to the closing quotation mark, and what follows it. -/
def stringBody? : (fuel : Nat) → List Char → Option (List Char × List Char)
  | _, [] => none
  | 0, _ => none
  | fuel + 1, c :: cs =>
    if c = '"' then some ([], cs)
    else if c.toNat < 0x20 then none
    else do
      let (c, rest) ← if c = '\\' then
          match cs with
          | [] => none
          | 'u' :: cs => escapedCode? cs
          | e :: cs => (escapedLetter? e).map (·, cs)
        else some (c, cs)
      let (body, rest) ← stringBody? fuel rest
      return (c :: body, rest)

/-- Characters that numbers and the words `null`, `true` and `false` are made of. -/
def isWordChar (c : Char) : Bool := c.isAlphanum || c = '+' || c = '-' || c = '.'

/-- One or more digits. -/
def areDigits (cs : List Char) : Bool := !cs.isEmpty && cs.all Char.isDigit

/-- An exponent after its letter: digits that may have a sign. -/
def isExponent : List Char → Bool
  | '+' :: cs => areDigits cs
  | '-' :: cs => areDigits cs
  | cs => areDigits cs

/-- What may follow the digits before the point: a fraction, an exponent, or both. -/
def isFraction (cs : List Char) : Bool :=
  match cs with
  | '.' :: rest =>
    let digits := rest.takeWhile Char.isDigit
    !digits.isEmpty && match rest.drop digits.length with
      | [] => true
      | e :: exponent => (e = 'e' || e = 'E') && isExponent exponent
  | e :: exponent => (e = 'e' || e = 'E') && isExponent exponent
  | [] => true

/-- A number without its sign: no zero in front of other digits. -/
def isUnsigned (cs : List Char) : Bool :=
  let digits := cs.takeWhile Char.isDigit
  areDigits digits && (digits.head? ≠ some '0' || digits.length = 1) &&
    isFraction (cs.drop digits.length)

/-- The value that a word writes. -/
def word? (cs : List Char) : Option Json :=
  if cs = "null".toList then some .null
  else if cs = "true".toList then some (.bool true)
  else if cs = "false".toList then some (.bool false)
  else match cs with
    | '-' :: rest => if isUnsigned rest then some (.number none) else none
    | cs =>
      if !isUnsigned cs then none
      else if areDigits cs then
        some (.number (some (cs.foldl (fun n c => n * 10 + (c.toNat - 48)) 0)))
      else some (.number none)

/-- The tokens of a list of characters. Each has at least one character. -/
def tokens? : (fuel : Nat) → List Char → Option (List Token)
  | _, [] => some []
  | 0, _ => none
  | fuel + 1, c :: cs =>
    if isBlank c then tokens? fuel cs
    else if isSign c then do return .sign c :: (← tokens? fuel cs)
    else if c = '"' then do
      let (body, rest) ← stringBody? fuel cs
      return .value (.text (String.ofList body)) :: (← tokens? fuel rest)
    else do
      let word := c :: cs.takeWhile isWordChar
      return .value (← word? word) :: (← tokens? fuel (cs.dropWhile isWordChar))

/-! ### Values -/

mutual

/-- Reads a value off the front of a list of tokens. -/
def value? : (fuel : Nat) → List Token → Option (Json × List Token)
  | _, .value v :: rest => some (v, rest)
  | _, .sign '[' :: .sign ']' :: rest => some (.array [], rest)
  | fuel + 1, .sign '[' :: rest => do
    let (items, rest) ← items? fuel rest
    return (.array items, rest)
  | _, .sign '\x7b' :: .sign '\x7d' :: rest => some (.object [], rest)
  | fuel + 1, .sign '\x7b' :: rest => do
    let (members, rest) ← members? fuel rest
    return (.object members, rest)
  | _, _ => none

/-- Reads the items of a list, of which there is at least one, and the closing bracket. -/
def items? : (fuel : Nat) → List Token → Option (List Json × List Token)
  | 0, _ => none
  | fuel + 1, tokens => do
    let (item, rest) ← value? fuel tokens
    match rest with
    | .sign ',' :: rest =>
      let (items, rest) ← items? fuel rest
      return (item :: items, rest)
    | .sign ']' :: rest => return ([item], rest)
    | _ => none

/-- Reads the members of an object, of which there is at least one, and the closing brace. -/
def members? : (fuel : Nat) → List Token → Option (List (String × Json) × List Token)
  | fuel + 1, .value (.text name) :: .sign ':' :: tokens => do
    let (value, rest) ← value? fuel tokens
    match rest with
    | .sign ',' :: rest =>
      let (members, rest) ← members? fuel rest
      return ((name, value) :: members, rest)
    | .sign '\x7d' :: rest => return ([(name, value)], rest)
    | _ => none
  | _, _ => none

end

/-- The value that a text writes, with nothing but white space after it. -/
def parse? (text : String) : Option Json := do
  let cs := text.toList
  let tokens ← tokens? (cs.length + 1) cs
  match ← value? (2 * tokens.length + 2) tokens with
  | (value, []) => some value
  | _ => none

end Json

end GridAuthz
