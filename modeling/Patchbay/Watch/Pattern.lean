-- Patterns for the values in log filters: regular expressions. Only whether a
-- pattern is well formed matters here. A value holds no closing brace, so no
-- pattern has a counted repetition, or any other part in braces.
--
-- A pattern is over Unicode unless it says otherwise. Classes such as \w, word
-- boundaries and letters regardless of case would need tables for all of
-- Unicode, and there are none, so they are for patterns over bytes. A pattern
-- over bytes in turn must not match a part of a character.
--
-- A pattern must not be nested too deep. While it is read its parts are known
-- by their depths alone.
import Patchbay.Text.Alphanumeric
import Patchbay.Text.Digits
import Patchbay.Text.Space

namespace Patchbay.Watch.Pattern

/-! ## Modes -/

/-- What the flags say that bears on whether a pattern is well formed. -/
structure Mode where
  /-- Whether the case of letters counts for nothing. -/
  foldCase : Bool
  /-- Whether the pattern is over Unicode, and not over bytes. -/
  unicode : Bool
  /-- Whether blanks and comments count for nothing. -/
  spaced : Bool
deriving DecidableEq

namespace Mode

def standard : Mode := ⟨false, true, false⟩

/-- The letters of flags. -/
def letters : List Char := ['i', 'm', 's', 'U', 'u', 'R', 'x']

/-- The mode with a flag switched on or off. -/
def set (m : Mode) (flag : Char) (on : Bool) : Mode :=
  match flag with
  | 'i' => { m with foldCase := on }
  | 'u' => { m with unicode := on }
  | 'x' => { m with spaced := on }
  | _ => m

/-- Whether letters can be looked for. -/
def hasLetters (m : Mode) : Bool := !(m.foldCase && m.unicode)

end Mode

/-- Leaves out blanks and comments, each of which is up to the end of its line. -/
def skipSpaced (comment : Bool) : List Char → List Char
  | [] => []
  | c :: cs =>
    if comment then skipSpaced (c ≠ '\n') cs
    else if Text.isSpace c then skipSpaced false cs
    else if c = '#' then skipSpaced true cs
    else c :: cs

/-- Leaves out what counts for nothing. -/
def Mode.skip (m : Mode) (cs : List Char) : List Char :=
  if m.spaced then skipSpaced false cs else cs

/-! ## Depth -/

/-- How deep a pattern may be nested. -/
def deepest : Nat := 250

/-- The depth of what holds one part. -/
def around (depth : Nat) : Nat := depth + 1

/-- The depth of what holds any number of parts. One part is not put into anything. -/
def together : List Nat → Nat
  | [] => 0
  | [d] => d
  | d :: ds => around (ds.foldl max d)

/-! ## Escapes -/

/-- What one item of a pattern matches. -/
inductive Item where
  | char (c : Char)
  /-- One of several characters. -/
  | oneOf
  /-- A place between characters. -/
  | place

/-- The characters that mean something in a pattern. -/
def special : List Char :=
  ['\\', '.', '+', '*', '?', '(', ')', '|', '[', ']', '\x7b', '\x7d', '^', '$', '#', '&', '-', '~']

/-- Whether a character stands for itself after a backslash. -/
def isQuotable (c : Char) : Bool :=
  special.contains c || (c ≤ '\x7f' && !c.isAlphanum && c ≠ '<' && c ≠ '>')

/-- So many hexadecimal digits, and what follows them. -/
def digits? (m : Mode) : Nat → List Char → Option (List Char × List Char)
  | 0, cs => some ([], cs)
  | n + 1, cs => do
    let c :: cs := m.skip cs | none
    let (ds, cs) ← digits? m n cs
    if (Text.hexDigit? c).isSome then some (c :: ds, cs) else none

/-- A character by its number, which has so many digits. -/
def numbered? (m : Mode) (n : Nat) (cs : List Char) : Option (Item × List Char) := do
  let (ds, cs) ← digits? m n cs
  let c ← Text.charOf? (← Text.hexValue? ds)
  if m.unicode || n ≠ 2 || c ≤ '\x7f' then some (.char c, cs) else none

/-- What stands after a backslash, and what follows it. -/
def escape? (m : Mode) : List Char → Option (Item × List Char)
  | [] => none
  | c :: cs =>
    match c with
    | 'x' => numbered? m 2 cs
    | 'u' => numbered? m 4 cs
    | 'U' => numbered? m 8 cs
    | 'd' | 's' | 'w' => if m.unicode then none else some (.oneOf, cs)
    | 'b' | 'B' | '<' | '>' => if m.unicode then none else some (.place, cs)
    | 'A' | 'z' => some (.place, cs)
    | 'a' => some (.char '\x07', cs)
    | 'f' => some (.char '\x0c', cs)
    | 't' => some (.char '\t', cs)
    | 'n' => some (.char '\n', cs)
    | 'r' => some (.char '\r', cs)
    | 'v' => some (.char '\x0b', cs)
    | c => if isQuotable c then some (.char c, cs) else none

/-! ## Classes in brackets -/

/-- The names of classes of ASCII characters. -/
def asciiClasses : List String :=
  ["alnum", "alpha", "ascii", "blank", "cntrl", "digit", "graph", "lower", "print", "punct",
    "space", "upper", "word", "xdigit"]

/-- A class by its name, given what stands after its opening bracket: whether it is the
complement that is meant, and what follows. -/
def asciiClass? (cs : List Char) : Option (Bool × List Char) := do
  let ':' :: cs := cs | none
  let (negated, cs) := match cs with
    | '^' :: r => (true, r)
    | r => (false, r)
  let (name, rest) := cs.span (· ≠ ':')
  let ':' :: ']' :: rest := rest | none
  if asciiClasses.contains (String.ofList name) then some (negated, rest) else none

/-- A class that has been opened, by depths. -/
structure Bracket where
  /-- What stands before the last of the operators between sets, if there are any. -/
  left : Option Nat
  /-- The items after that. -/
  items : List Nat

namespace Bracket

def depth (b : Bracket) : Nat :=
  match b.left with
  | none => together b.items
  | some d => around (max d (together b.items))

/-- The class with one more item. -/
def withItem (b : Bracket) (depth : Nat) : Bracket := { b with items := depth :: b.items }

/-- The class after an operator. Operators bind to the left. -/
def operator (b : Bracket) : Bracket := ⟨some b.depth, []⟩

end Bracket

/-- At most so many hyphens, each of which is an item of depth nought, and what follows
them. -/
def hyphens (m : Mode) : Nat → List Char → List Nat × List Char
  | n + 1, '-' :: r =>
    let (ds, r) := hyphens m n (m.skip r)
    (0 :: ds, r)
  | _, cs => ([], cs)

/-- What may stand once at the opening of a class: a caret, hyphens, of which there are at
most `fuel`, and if there is no hyphen a closing bracket. Gives the class so far and what
follows. -/
def opening? (m : Mode) (fuel : Nat) (cs : List Char) : Option (Bracket × List Char) := do
  let cs ← match m.skip cs with
    | '^' :: r => if m.unicode then some (m.skip r) else none
    | r => some r
  let (items, cs) := match cs with
    | ']' :: r => ([0], m.skip r)
    | r => hyphens m fuel r
  if items = [] || m.hasLetters then some (⟨none, items⟩, cs) else none

/-- A character of a class or several by one name, and what follows. -/
def classItem? (m : Mode) (cs : List Char) : Option (Item × List Char) := do
  let (item, cs) ← match cs with
    | [] => none
    | '\\' :: r => escape? m r
    | c :: r => some (.char c, r)
  match item with
  | .char c => if m.unicode || c ≤ '\x7f' then some (item, cs) else none
  | .oneOf => some (item, cs)
  | .place => none

/-- What seems to stand after a hyphen, when it is to be seen whether the hyphen makes a
range. Blanks count for nothing, and so does the sign of a comment, but not the comment. -/
def glance (m : Mode) (cs : List Char) : Option Char :=
  if m.spaced then
    match cs.dropWhile Text.isSpace with
    | '#' :: r => (r.dropWhile Text.isSpace).head?
    | r => r.head?
  else cs.head?

/-- What follows an item of a class or a range of characters. -/
def classRange? (m : Mode) (cs : List Char) : Option (List Char) := do
  let (first, cs) ← classItem? m cs
  match m.skip cs with
  | '-' :: r =>
    match glance m r with
    | some ']' | some '-' => some ('-' :: r)
    | _ =>
      let (last, r) ← classItem? m (m.skip r)
      match first, last with
      | .char a, .char b => if a ≤ b then some r else none
      | _, _ => none
  | r => some r

/-- The depth of a class, of which `outer` are the classes around it, and what follows
the outermost. It is read in at most `fuel` steps. Only a class without characters is the same regardless of case. -/
def class? (m : Mode) : Nat → Bracket → List Bracket → List Char → Option (Nat × List Char)
  | 0, _, _, _ => none
  | fuel + 1, b, outer, cs =>
    match m.skip cs with
    | [] => none
    | '[' :: r =>
      match asciiClass? r with
      | some (negated, r) =>
        if m.hasLetters && (m.unicode || !negated) then class? m fuel (b.withItem 0) outer r
        else none
      | none => (opening? m fuel r).bind fun (inner, r) => class? m fuel inner (b :: outer) r
    | ']' :: r =>
      match outer with
      | [] => some (around b.depth, r)
      | o :: os => class? m fuel (o.withItem (around b.depth)) os r
    | '&' :: '&' :: r | '-' :: '-' :: r | '~' :: '~' :: r => class? m fuel b.operator outer r
    | r =>
      if m.hasLetters then (classRange? m r).bind (class? m fuel (b.withItem 0) outer)
      else none

/-- The depth of a class, given what stands after its opening bracket, and what follows. -/
def bracketed? (m : Mode) (fuel : Nat) (cs : List Char) : Option (Nat × List Char) :=
  (opening? m fuel cs).bind fun (b, r) => class? m fuel b [] r

/-! ## Groups -/

/-- A group that has been opened, or the pattern as a whole, by depths. -/
structure Group where
  mode : Mode
  /-- The alternatives before this one. -/
  alternatives : List Nat
  /-- What stands in this alternative, the last first. -/
  items : List Nat

namespace Group

def opened (m : Mode) : Group := ⟨m, [], []⟩

def depth (g : Group) : Nat := together (together g.items :: g.alternatives)

/-- The group with one more item. -/
def withItem (g : Group) (depth : Nat) : Group := { g with items := depth :: g.items }

/-- The group with its last item repeated. -/
def repeated (g : Group) : Group :=
  match g.items with
  | [] => g
  | d :: ds => { g with items := around d :: ds }

/-- The group at its next alternative. -/
def next (g : Group) : Group := ⟨g.mode, together g.items :: g.alternatives, []⟩

end Group

/-- Where in a pattern a reader stands. -/
structure Place where
  group : Group
  /-- The groups around it, the innermost first. -/
  outer : List Group
  /-- Whether there is something that can be repeated. -/
  repeatable : Bool
  /-- The names of groups so far. -/
  names : List String

namespace Place

def beginning : Place := ⟨.opened .standard, [], false, []⟩

def mode (p : Place) : Mode := p.group.mode

/-- The place after something that can be repeated. -/
def afterItem (p : Place) (depth : Nat) : Place :=
  { p with group := p.group.withItem depth, repeatable := true }

/-- The place after a change of flags, which is an item, but none to be repeated. -/
def afterFlags (p : Place) (m : Mode) : Place :=
  { p with group := { p.group.withItem 0 with mode := m }, repeatable := false }

/-- The place at the beginning of a group. -/
def inGroup (p : Place) (m : Mode) : Place :=
  { p with group := .opened m, outer := p.group :: p.outer, repeatable := false }

/-- The place after the end of a group, if one is open. -/
def afterGroup? (p : Place) : Option Place :=
  match p.outer with
  | [] => none
  | g :: gs => some ({ p with group := g, outer := gs }.afterItem (around p.group.depth))

end Place

/-- Flags up to their end: the mode that they make, whether they are those of a group,
and what follows. No flag is given twice, nor is the hyphen, after which they are off. -/
def flags? (m : Mode) (given : List Char) : List Char → Option (Mode × Bool × List Char)
  | [] => none
  | ':' :: cs => if given.head? = some '-' then none else some (m, true, cs)
  | ')' :: cs => if given = [] || given.head? = some '-' then none else some (m, false, cs)
  | c :: cs =>
    if given.contains c then none
    else if c = '-' then flags? m (c :: given) cs
    else if Mode.letters.contains c then flags? (m.set c (!given.contains '-')) (c :: given) cs
    else none

/-- Whether a text is the name of a group. -/
def isName : List Char → Bool
  | [] => false
  | c :: cs =>
    (c == '_' || Text.isAlphabetic c) &&
      cs.all fun c => ['_', '.', '[', ']'].contains c || Text.isAlphanumeric c

/-- A group with a name, given what stands before the name. -/
def named? (p : Place) (cs : List Char) : Option (Place × List Char) := do
  let (name, rest) := cs.span (· ≠ '>')
  let '>' :: rest := rest | none
  let text := String.ofList name
  if isName name && !p.names.contains text then
    some ({ p.inGroup p.mode with names := text :: p.names }, rest)
  else none

/-- The beginning of a group or a change of flags, given what stands after a
parenthesis. There is no looking ahead or behind. -/
def group? (p : Place) (cs : List Char) : Option (Place × List Char) :=
  match p.mode.skip cs with
  | '?' :: '<' :: '=' :: _ | '?' :: '<' :: '!' :: _ => none
  | '?' :: 'P' :: '<' :: r | '?' :: '<' :: r => named? p r
  | '?' :: r => do
    let (m, isGroup, r) ← flags? p.mode [] r
    some (if isGroup then p.inGroup m else p.afterFlags m, r)
  | r => some (p.inGroup p.mode, r)

/-! ## Patterns -/

/-- Whether characters can be looked for at a place, which comes after the last of them. -/
def letter? (p : Place) (r : List Char) : Option (Place × List Char) :=
  if p.mode.hasLetters then some (p.afterItem 0, r) else none

/-- One step through a pattern that begins with a character. A class is read in at most
`fuel` steps. A repetition of as little as will do has a question mark right after its
sign. -/
def step (fuel : Nat) (p : Place) : Char → List Char → Option (Place × List Char)
  | '(', r => group? p r
  | ')', r => p.afterGroup?.map (·, r)
  | '|', r => some ({ p with group := p.group.next, repeatable := false }, r)
  | '[', r => (bracketed? p.mode fuel r).map fun (d, r) => (p.afterItem d, r)
  | '?', r | '*', r | '+', r =>
    if p.repeatable then
      some ({ p with group := p.group.repeated }, match r with
        | '?' :: r => r
        | r => r)
    else none
  | '\x7b', _ => none
  | '\\', r => do
    let (item, r) ← escape? p.mode r
    match item with
    | .char _ => letter? p r
    | _ => some (p.afterItem 0, r)
  | '.', r => if p.mode.unicode then some (p.afterItem 0, r) else none
  | '^', r | '$', r => some (p.afterItem 0, r)
  | _, r => letter? p r

/-- Whether the rest of a pattern is well formed. Each step takes a character at least, so
there are no more steps than characters. -/
def isRest : Nat → Place → List Char → Bool
  | 0, _, _ => false
  | fuel + 1, p, cs =>
    match p.mode.skip cs with
    | [] => p.outer.isEmpty && p.group.depth ≤ deepest
    | c :: r =>
      match step fuel p c r with
      | some (p, r) => isRest fuel p r
      | none => false

/-- Whether a pattern is well formed. -/
def isPattern (cs : List Char) : Bool := isRest (cs.length + 1) .beginning cs

end Patchbay.Watch.Pattern
