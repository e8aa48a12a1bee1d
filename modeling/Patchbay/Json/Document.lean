-- Reading JSON. Of a document only what a reader of keys and names can use is
-- kept: a number that is no natural number, and a string whose escapes make no
-- text, are known to be there and no more.
import Patchbay.Text.Digits

namespace Patchbay.Json

inductive Document where
  | null
  | bool (b : Bool)
  /-- The digits of a natural number, however many. -/
  | number (digits : Option (List Char))
  | string (s : Option String)
  | array (items : List Document)
  | object (members : List (Option String × Document))

namespace Document

def isSpace (c : Char) : Bool := c == ' ' || c == '\t' || c == '\n' || c == '\r'

/-! ## Strings -/

/-- The character that a letter after a backslash stands for. -/
def escape? : Char → Option Char
  | '"' => some '"'
  | '\\' => some '\\'
  | '/' => some '/'
  | 'b' => some '\x08'
  | 'f' => some '\x0c'
  | 'n' => some '\n'
  | 'r' => some '\r'
  | 't' => some '\t'
  | _ => none

/-- The numbers of a string after its opening mark, and what follows the closing one.
An escape by number gives its 16 bits, a character its code point. -/
def units? : List Char → Option (List Nat × List Char)
  | [] => none
  | '"' :: r => some ([], r)
  | '\\' :: 'u' :: a :: b :: c :: d :: r => do
    let n ← Text.hexValue? [a, b, c, d]
    let (ns, rest) ← units? r
    return (n :: ns, rest)
  | '\\' :: c :: r => do
    let ch ← escape? c
    let (ns, rest) ← units? r
    return (ch.toNat :: ns, rest)
  | c :: r => do
    if c < '\x20' then none
    let (ns, rest) ← units? r
    return (c.toNat :: ns, rest)

def isHigh (n : Nat) : Bool := 0xd800 ≤ n && n < 0xdc00

def isLow (n : Nat) : Bool := 0xdc00 ≤ n && n < 0xe000

/-- The text of the numbers of a string. Two surrogates in a row make one character,
and one alone makes none. -/
def textOf? : List Nat → Option (List Char)
  | [] => some []
  | [n] => (Text.charOf? n).map ([·])
  | n :: m :: ns =>
    if isHigh n && isLow m then do
      let c ← Text.charOf? (0x10000 + (n - 0xd800) * 0x400 + (m - 0xdc00))
      return c :: (← textOf? ns)
    else do
      let c ← Text.charOf? n
      return c :: (← textOf? (m :: ns))

/-- A string after its opening mark, and what follows. -/
def string? (cs : List Char) : Option (Option String × List Char) :=
  (units? cs).map fun (ns, rest) => ((textOf? ns).map String.ofList, rest)

/-! ## Numbers -/

/-- What follows one digit or more. -/
def skipDigits? (cs : List Char) : Option (List Char) :=
  match cs with
  | c :: r => if c.isDigit then some (r.dropWhile Char.isDigit) else none
  | [] => none

/-- The whole part of a number, which is a zero or digits that begin with none, and what
follows it. -/
def whole? : List Char → Option (List Char × List Char)
  | '0' :: r => some (['0'], r)
  | cs =>
    let (digits, rest) := cs.span Char.isDigit
    if digits = [] then none else some (digits, rest)

/-- What follows the fraction of a number, if it has one. -/
def skipFraction? : List Char → Option (List Char)
  | '.' :: r => skipDigits? r
  | cs => some cs

/-- What follows the exponent of a number, if it has one. -/
def skipExponent? : List Char → Option (List Char)
  | c :: r =>
    if c = 'e' ∨ c = 'E' then
      match r with
      | '+' :: r => skipDigits? r
      | '-' :: r => skipDigits? r
      | r => skipDigits? r
    else some (c :: r)
  | [] => some []

/-- Whether a number ends with its whole part. -/
def endsWhole (afterWhole : List Char) : Bool :=
  match afterWhole with
  | '.' :: _ | 'e' :: _ | 'E' :: _ => false
  | _ => true

/-- A number and what follows it. A natural number is one of digits alone. -/
def number? (cs : List Char) : Option (Option (List Char) × List Char) := do
  let (negative, body) := match cs with
    | '-' :: r => (true, r)
    | r => (false, r)
  let (digits, afterWhole) ← whole? body
  let rest ← skipExponent? (← skipFraction? afterWhole)
  let natural := !negative && endsWhole afterWhole
  return (if natural then some digits else none, rest)

/-! ## Values -/

/-- What follows blank space. -/
def skipSpace (cs : List Char) : List Char := cs.dropWhile isSpace

mutual

/-- A value and what follows it, nested at most `fuel` deep. -/
def value? : Nat → List Char → Option (Document × List Char)
  | 0, _ => none
  | fuel + 1, cs =>
    match skipSpace cs with
    | 'n' :: 'u' :: 'l' :: 'l' :: r => some (null, r)
    | 't' :: 'r' :: 'u' :: 'e' :: r => some (bool true, r)
    | 'f' :: 'a' :: 'l' :: 's' :: 'e' :: r => some (bool false, r)
    | '"' :: r => (string? r).map fun (s, rest) => (string s, rest)
    | '[' :: r =>
      match skipSpace r with
      | ']' :: rest => some (array [], rest)
      | r => (items? fuel r).map fun (vs, rest) => (array vs, rest)
    | '\x7b' :: r =>
      match skipSpace r with
      | '\x7d' :: rest => some (object [], rest)
      | r => (members? fuel r).map fun (ms, rest) => (object ms, rest)
    | cs => (number? cs).map fun (digits, rest) => (number digits, rest)

/-- One item or more, up to the end of the array. -/
def items? : Nat → List Char → Option (List Document × List Char)
  | 0, _ => none
  | fuel + 1, cs => do
    let (v, rest) ← value? fuel cs
    match skipSpace rest with
    | ',' :: r =>
      let (vs, rest) ← items? fuel r
      return (v :: vs, rest)
    | ']' :: rest => return ([v], rest)
    | _ => none

/-- One member or more, up to the end of the object. -/
def members? : Nat → List Char → Option (List (Option String × Document) × List Char)
  | 0, _ => none
  | fuel + 1, cs => do
    let '"' :: r := skipSpace cs | none
    let (key, rest) ← string? r
    let ':' :: r := skipSpace rest | none
    let (v, rest) ← value? fuel r
    match skipSpace rest with
    | ',' :: r =>
      let (ms, rest) ← members? fuel r
      return ((key, v) :: ms, rest)
    | '\x7d' :: rest => return ([(key, v)], rest)
    | _ => none

end

/-- The document of a text. -/
def ofText? (s : String) : Option Document := do
  let cs := s.toList
  let (v, rest) ← value? (cs.length + 1) cs
  if skipSpace rest = [] then some v else none

end Document

end Patchbay.Json
