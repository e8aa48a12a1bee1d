-- Log filters: directives with commas between, each a level, a target, or a
-- target with a span and a level. Only whether a filter is well formed matters
-- here.
import Patchbay.Text.Fields
import Patchbay.Text.Span
import Patchbay.Watch.Pattern

namespace Patchbay.Watch.LogFilter

/-- Why a filter cannot be read. -/
inductive Flaw where
  | malformed
  /-- A part to be taken out would begin or end inside a character. -/
  | torn
deriving DecidableEq

/-- A part of a text, if there is one. -/
def part {α : Type} : Option α → Except Flaw α
  | some a => .ok a
  | none => .error .torn

/-- Refuses what is not as it should be. -/
def demand (b : Bool) : Except Flaw Unit := if b then .ok () else .error .malformed

/-! ## Levels and fields -/

/-- A text without a plus sign before it, and whether there was one. -/
def unsigned : List Char → Bool × List Char
  | '+' :: r => (true, r)
  | r => (false, r)

/-- Whether a text names a level, by word in any case or by number. -/
def isLevel (cs : List Char) : Bool :=
  let word := String.ofList (cs.map Char.toLower)
  let digits := (unsigned cs).2
  ["off", "error", "warn", "info", "debug", "trace"].contains word ||
    (digits ≠ [] && (Text.upTo? 10 5 digits).isSome)

/-- Whether a text is the power of ten that a decimal number may end in. -/
def isExponent : List Char → Bool
  | [] => true
  | 'e' :: r | 'E' :: r =>
    let digits := match r with
      | '+' :: ds | '-' :: ds => ds
      | ds => ds
    digits ≠ [] && digits.all Char.isDigit
  | _ => false

/-- Whether a text without a sign is a decimal number, or a word for infinity or for no
number. -/
def isDecimal (cs : List Char) : Bool :=
  let (whole, rest) := cs.span Char.isDigit
  let (fraction, rest) := match rest with
    | '.' :: r => r.span Char.isDigit
    | r => ([], r)
  ((whole ≠ [] || fraction ≠ []) && isExponent rest) ||
    ["inf", "infinity", "nan"].contains (String.ofList (cs.map Char.toLower))

/-- Whether a text is the value of a field: a number with a plus sign, or a pattern, which
truth values and all other numbers are as well. -/
def isValue (cs : List Char) : Bool :=
  let (signed, rest) := unsigned cs
  (signed && isDecimal rest) || Pattern.isPattern cs

/-- Whether a text is a field: a name, which may have a value after an equals sign. What
comes after one more equals sign does not matter. -/
def isField (cs : List Char) : Bool :=
  cs ≠ [] && match Text.splitAtEach '=' cs with
    | _ :: value :: _ => isValue value
    | _ => true

/-! ## Directives -/

/-- Where in a directive a reader stands, and at which byte the part began that it is
reading. -/
inductive Place where
  | start
  | target
  | span (first : Nat)
  | field (first : Nat)
  | afterField
  | afterSpan
  | level (first : Nat)

/-- Whether a directive may begin with a character. -/
def isInitial (c : Char) : Bool :=
  c == '-' || c == ':' || c == '_' || Text.isAlphanumeric c

/-- Where a reader stands after a character at byte `i`. Parts that are complete are taken
out of `text`. -/
def advance (text : List Char) (i : Nat) (c : Char) : Place → Except Flaw Place
  | .start => do
    if c = '[' then return .span (i + 1)
    demand (isInitial c)
    return .target
  | .target => do
    if c = '=' || c = '[' then
      discard (part (Text.span? 0 i text))
      return if c = '=' then .level (i + 1) else .span (i + 1)
    return .target
  | .span first => do
    if c = ']' || c = '\x7b' then
      discard (part (Text.span? first i text))
      return if c = ']' then .afterSpan else .field (i + 1)
    return .span first
  | .field first => do
    if c = '\x7d' then
      demand (isField (← part (Text.span? first i text)))
      return .afterField
    return .field first
  | .afterField => do
    demand (c = ']')
    return .afterSpan
  | .afterSpan => do
    demand (c = '=')
    return .level (i + 1)
  | .level first => return .level first

/-- Reads the end of a directive. -/
def finish (text : List Char) : Place → Except Flaw Unit
  | .target | .afterSpan => .ok ()
  | .level first => do
    let level ← part (Text.dropBytes? first text)
    demand (level = [] || isLevel level)
  | _ => .error .malformed

/-- Reads the rest of a directive, which comes at byte `i`. -/
def readRest (text : List Char) (i : Nat) (p : Place) : List Char → Except Flaw Unit
  | [] => finish text p
  | c :: cs => do readRest text (i + c.utf8Size) (← advance text i c p) cs

/-- Reads a directive. Blanks around it are left out when it is read, but its parts are
counted off in the directive as it stands. -/
def readDirective (text : List Char) : Except Flaw Unit :=
  readRest text 0 .start (Text.trim text)

/-! ## Filters -/

/-- Reads directives up to the first that cannot be read. Nothing may stand between two
commas. -/
def readAll : List (List Char) → Except Flaw Unit
  | [] => .ok ()
  | [] :: ds => readAll ds
  | d :: ds => do
    readDirective d
    readAll ds

/-- Reads a filter. -/
def read (s : String) : Except Flaw Unit := readAll (Text.splitAtEach ',' s.toList)

end Patchbay.Watch.LogFilter
