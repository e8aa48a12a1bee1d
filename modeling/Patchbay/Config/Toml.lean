-- The part of TOML that settings are written in: lines with a key, an equals
-- sign and a string or an integer, and comments. Tables, arrays and values of
-- other kinds are no settings, so text that holds them is refused.
import Patchbay.Text.Digits

namespace Patchbay.Toml

inductive Value where
  | string (s : String)
  | integer (n : Int)
deriving DecidableEq

/-! ## Characters -/

def isBlank (c : Char) : Bool := c == ' ' || c == '\t'

/-- Whether a character may stand in a line. Control characters may not, except tabs. -/
def isInline (c : Char) : Bool := c == '\t' || ('\x20' ≤ c && c ≠ '\x7f')

/-- Whether a character may stand in a key without quotation marks. -/
def isBare (c : Char) : Bool := c.isAlphanum || c == '_' || c == '-'

/-- Whether a character may stand in a value without quotation marks. -/
def isPlain (c : Char) : Bool := isBare c || c == '+' || c == '.' || c == ':'

/-! ## Lines -/

/-- What follows the end of a line. -/
def newline? : List Char → Option (List Char)
  | '\n' :: r => some r
  | '\r' :: '\n' :: r => some r
  | _ => none

/-- What follows a line of which blanks and a comment may be left. -/
def lineEnd? (cs : List Char) : Option (List Char) :=
  let rest := match cs.dropWhile isBlank with
    | '#' :: r => r.dropWhile isInline
    | r => r
  if rest = [] then some [] else newline? rest

/-- Leaves blanks and line ends out. -/
def skipLines : List Char → List Char
  | ' ' :: r => skipLines r
  | '\t' :: r => skipLines r
  | '\n' :: r => skipLines r
  | '\r' :: '\n' :: r => skipLines r
  | r => r

/-- What follows blanks, a line end and more of both, as a backslash joins lines. -/
def joined? (cs : List Char) : Option (List Char) :=
  (newline? (cs.dropWhile isBlank)).map skipLines

theorem length_newline? {cs r : List Char} (h : newline? cs = some r) :
    r.length < cs.length := by
  unfold newline? at h
  split at h
  · simp_all
  · cases h; simp only [List.length_cons]; omega
  · cases h

theorem length_skipLines (cs : List Char) : (skipLines cs).length ≤ cs.length := by
  fun_induction skipLines cs <;> simp_all <;> omega

theorem length_joined? {cs r : List Char} (h : joined? cs = some r) :
    r.length < cs.length := by
  obtain ⟨m, hm, rfl⟩ := Option.map_eq_some_iff.1 h
  have := length_newline? hm
  have := length_skipLines m
  have := (List.dropWhile_sublist (p := isBlank) (l := cs)).length_le
  omega

/-! ## Strings

Each reader starts after the opening quotation marks and gives the text and what
follows the closing ones. -/

/-- The character that a letter after a backslash stands for. -/
def escape? : Char → Option Char
  | 'b' => some '\x08'
  | 't' => some '\t'
  | 'n' => some '\n'
  | 'f' => some '\x0c'
  | 'r' => some '\r'
  | '"' => some '"'
  | '\\' => some '\\'
  | _ => none

/-- The character that begins the text after a backslash, and what follows it. -/
def escaped? : List Char → Option (Char × List Char)
  | 'u' :: a :: b :: c :: d :: r => do
    return (← Text.charOf? (← Text.hexValue? [a, b, c, d]), r)
  | 'U' :: a :: b :: c :: d :: e :: f :: g :: h :: r => do
    return (← Text.charOf? (← Text.hexValue? [a, b, c, d, e, f, g, h]), r)
  | c :: r => (escape? c).map (·, r)
  | [] => none

theorem length_escaped? {cs r : List Char} {c : Char} (h : escaped? cs = some (c, r)) :
    r.length < cs.length := by
  unfold escaped? at h
  split at h
  · simp only [bind, Option.bind_eq_some_iff, pure, Option.some.injEq, Prod.mk.injEq] at h
    obtain ⟨_, _, _, _, _, rfl⟩ := h
    simp only [List.length_cons]; omega
  · simp only [bind, Option.bind_eq_some_iff, pure, Option.some.injEq, Prod.mk.injEq] at h
    obtain ⟨_, _, _, _, _, rfl⟩ := h
    simp only [List.length_cons]; omega
  · obtain ⟨_, _, he⟩ := Option.map_eq_some_iff.1 h
    cases he
    simp
  · cases h

/-- A text and what follows it, with a character before. -/
def before (c : Char) : Option (List Char × List Char) → Option (List Char × List Char) :=
  Option.map fun p => (c :: p.1, p.2)

/-- A string between quotation marks, in one line. -/
def basic? (cs : List Char) : Option (List Char × List Char) :=
  match cs with
  | [] => none
  | '"' :: r => some ([], r)
  | '\\' :: r =>
    match _h : escaped? r with
    | some (c, r') => before c (basic? r')
    | none => none
  | c :: r => if isInline c then before c (basic? r) else none
termination_by cs.length
decreasing_by
  · have := length_escaped? _h
    simp only [List.length_cons]; omega
  · simp

/-- A string between apostrophes, in one line. Nothing in it is escaped. -/
def literal? : List Char → Option (List Char × List Char)
  | [] => none
  | '\x27' :: r => some ([], r)
  | c :: r => if isInline c then before c (literal? r) else none

/-- After three closing marks, one or two more still belong to the text. -/
def closing (mark : Char) : List Char → List Char × List Char
  | a :: b :: r =>
    if a = mark then if b = mark then ([mark, mark], r) else ([mark], b :: r)
    else ([], a :: b :: r)
  | [a] => if a = mark then ([mark], []) else ([], [a])
  | [] => ([], [])

/-- A string between triple quotation marks. A line end in it reads as a line feed. -/
def longBasic? (cs : List Char) : Option (List Char × List Char) :=
  match cs with
  | [] => none
  | '"' :: '"' :: '"' :: r => some (closing '"' r)
  | '\n' :: r => before '\n' (longBasic? r)
  | '\r' :: '\n' :: r => before '\n' (longBasic? r)
  | '\\' :: r =>
    match _h : joined? r with
    | some r' => longBasic? r'
    | none =>
      match _h' : escaped? r with
      | some (c, r') => before c (longBasic? r')
      | none => none
  | c :: r => if isInline c then before c (longBasic? r) else none
termination_by cs.length
decreasing_by
  · simp
  · simp only [List.length_cons]; omega
  · have := length_joined? _h
    simp only [List.length_cons]; omega
  · have := length_escaped? _h'
    simp only [List.length_cons]; omega
  · simp

/-- A string between triple apostrophes. -/
def longLiteral? : List Char → Option (List Char × List Char)
  | [] => none
  | '\x27' :: '\x27' :: '\x27' :: r => some (closing '\x27' r)
  | '\n' :: r => before '\n' (longLiteral? r)
  | '\r' :: '\n' :: r => before '\n' (longLiteral? r)
  | c :: r => if isInline c then before c (longLiteral? r) else none

/-- The text of a long string begins after a line end that follows its opening marks. -/
def trimmed (cs : List Char) : List Char := (newline? cs).getD cs

/-! ## Keys, values and lines -/

/-- A key and what follows it. -/
def key? : List Char → Option (List Char × List Char)
  | '"' :: r => basic? r
  | '\x27' :: r => literal? r
  | cs =>
    let (key, rest) := cs.span isBare
    if key = [] then none else some (key, rest)

/-- A number with no underscore beside another, at the beginning or at the end, without
its underscores. -/
def grouped? : List Char → Option (List Char)
  | [] => none
  | '_' :: _ => none
  | [c] => some [c]
  | c :: '_' :: r => (grouped? r).map (c :: ·)
  | c :: r => (grouped? r).map (c :: ·)

/-- The greatest number without a sign that an integer can have. It is that of the least
integer. -/
def greatest : Nat := 9223372036854775808

/-- A number without a sign: decimal without leading zeros, or with the sign of another
base before it. -/
def natural? : List Char → Option Nat
  | '0' :: 'x' :: r => (grouped? r).bind (Text.upTo? 16 greatest)
  | '0' :: 'o' :: r => (grouped? r).bind (Text.upTo? 8 greatest)
  | '0' :: 'b' :: r => (grouped? r).bind (Text.upTo? 2 greatest)
  | cs => do
    let ds ← grouped? cs
    if ds.head? = some '0' ∧ ds ≠ ['0'] then none else Text.upTo? 10 greatest ds

/-- A decimal number after a sign. -/
def signed? (cs : List Char) : Option Nat :=
  if cs.any (fun c => !c.isDigit && c != '_') then none else natural? cs

/-- An integer, which must fit 64 bits. -/
def integer? (cs : List Char) : Option Int :=
  let n := match cs with
    | '+' :: r => (signed? r).map Int.ofNat
    | '-' :: r => (signed? r).map fun n => -Int.ofNat n
    | _ => (natural? cs).map Int.ofNat
  n.filter fun n => -9223372036854775808 ≤ n ∧ n ≤ 9223372036854775807

/-- A text as a value. -/
def asString (p : List Char × List Char) : Value × List Char := (.string (String.ofList p.1), p.2)

/-- A value and what follows it. -/
def value? : List Char → Option (Value × List Char)
  | '"' :: '"' :: '"' :: r => (longBasic? (trimmed r)).map asString
  | '"' :: r => (basic? r).map asString
  | '\x27' :: '\x27' :: '\x27' :: r => (longLiteral? (trimmed r)).map asString
  | '\x27' :: r => (literal? r).map asString
  | cs =>
    let (token, rest) := cs.span isPlain
    (integer? token).map fun n => (.integer n, rest)

/-- A key with its value, and the lines after it. -/
def entry? (cs : List Char) : Option ((String × Value) × List Char) := do
  let (key, rest) ← key? cs
  let '=' :: rest := rest.dropWhile isBlank | none
  let (value, rest) ← value? (rest.dropWhile isBlank)
  return ((String.ofList key, value), ← lineEnd? rest)

/-- The entries of a text, read line by line in at most `fuel` lines. -/
def entriesFrom : Nat → List Char → Option (List (String × Value))
  | 0, _ => none
  | fuel + 1, cs =>
    let cs := cs.dropWhile isBlank
    if cs = [] then some []
    else match lineEnd? cs with
      | some rest => entriesFrom fuel rest
      | none => do
        let (entry, rest) ← entry? cs
        return entry :: (← entriesFrom fuel rest)

/-- The entries of a text, in order. A byte order mark before them is left out. -/
def entries? (s : String) : Option (List (String × Value)) :=
  let cs := match s.toList with
    | '\ufeff' :: r => r
    | cs => cs
  entriesFrom (cs.length + 1) cs

end Patchbay.Toml
