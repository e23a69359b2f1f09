/-!
TOML strings: reading the four kinds of them, and writing a text in the first kind that holds it. A basic
string has escapes and a literal one has none; either may run over several lines, where a newline right after
the opening is left out.
-/

namespace FieldLogger.Toml

/-! ### Reading -/

/-- Characters that comments hold, and strings as they are: no control but the tab. -/
def isPlain (c : Char) : Bool := c == '\t' || (0x20 ≤ c.toNat && c.toNat != 0x7F)

def isSpace (c : Char) : Bool := c == ' ' || c == '\t'

/-- The value of a hexadecimal digit. -/
def hexValue? (c : Char) : Option Nat :=
  if '0' ≤ c ∧ c ≤ '9' then some (c.toNat - '0'.toNat)
  else if 'a' ≤ c ∧ c ≤ 'f' then some (c.toNat - 'a'.toNat + 10)
  else if 'A' ≤ c ∧ c ≤ 'F' then some (c.toNat - 'A'.toNat + 10)
  else none

/-- The character of a code point, surrogates being none. -/
def scalar? (n : Nat) : Option Char := if n.isValidChar then some (Char.ofNat n) else none

/-- The character that an escape of one letter writes. -/
def escaped? : Char → Option Char
  | 'b' => some '\x08'
  | 't' => some '\t'
  | 'n' => some '\n'
  | 'f' => some '\x0c'
  | 'r' => some '\r'
  | '"' => some '"'
  | '\\' => some '\\'
  | _ => none

/-- The number of hexadecimal digits after the letter of an escape. -/
def hexLength? : Char → Option Nat
  | 'u' => some 4
  | 'U' => some 8
  | _ => none

/-- What was read of a string, and where the reader stands in it. -/
inductive Place where
  /-- Among its characters, after so many quotes that could begin its end. -/
  | body (quotes : Nat)
  /-- After a carriage return. -/
  | carriageReturn
  /-- After a backslash. -/
  | escape
  /-- Before `left + 1` more digits of a code point. -/
  | hex (left : Nat) (value : Nat)
  /-- After a backslash and spaces, before the end of the line. -/
  | beforeLineEnd
  /-- After a carriage return at such a place. -/
  | lineEndReturn
  /-- In the blank space that a backslash at the end of a line leaves out. -/
  | trimming
  deriving DecidableEq, Repr

/-- Adds characters in front of what is read after them. -/
def before (cs : List Char) : Option (List Char × List Char) → Option (List Char × List Char) :=
  Option.map fun (text, rest) => (cs ++ text, rest)

/-- The rest of a one-line basic string, and what follows it. -/
def basicBody : Place → List Char → Option (List Char × List Char)
  | _, [] => none
  | .escape, c :: rest =>
    match escaped? c, hexLength? c with
    | some e, _ => before [e] (basicBody (.body 0) rest)
    | none, some n => basicBody (.hex (n - 1) 0) rest
    | none, none => none
  | .hex left value, c :: rest =>
    match hexValue? c, left with
    | none, _ => none
    | some d, 0 =>
      match scalar? (value * 16 + d) with
      | some e => before [e] (basicBody (.body 0) rest)
      | none => none
    | some d, left + 1 => basicBody (.hex left (value * 16 + d)) rest
  | _, c :: rest =>
    if c = '"' then some ([], rest)
    else if c = '\\' then basicBody .escape rest
    else if isPlain c then before [c] (basicBody (.body 0) rest)
    else none

/-- The end of a string of several lines after its third quote: up to two quotes more belong to the text. -/
def closing (quote : Char) (rest : List Char) : List Char × List Char :=
  let more := (rest.take 2).takeWhile (· == quote)
  (more, rest.drop more.length)

/-- The rest of a basic string of several lines, and what follows it. -/
def longBasicBody : Place → List Char → Option (List Char × List Char)
  | _, [] => none
  | .escape, c :: rest =>
    match escaped? c, hexLength? c with
    | some e, _ => before [e] (longBasicBody (.body 0) rest)
    | none, some n => longBasicBody (.hex (n - 1) 0) rest
    | none, none =>
      if isSpace c then longBasicBody .beforeLineEnd rest
      else if c = '\n' then longBasicBody .trimming rest
      else if c = '\r' then longBasicBody .lineEndReturn rest
      else none
  | .hex left value, c :: rest =>
    match hexValue? c, left with
    | none, _ => none
    | some d, 0 =>
      match scalar? (value * 16 + d) with
      | some e => before [e] (longBasicBody (.body 0) rest)
      | none => none
    | some d, left + 1 => longBasicBody (.hex left (value * 16 + d)) rest
  | .carriageReturn, c :: rest => if c = '\n' then before ['\n'] (longBasicBody (.body 0) rest) else none
  | .beforeLineEnd, c :: rest =>
    if isSpace c then longBasicBody .beforeLineEnd rest
    else if c = '\n' then longBasicBody .trimming rest
    else if c = '\r' then longBasicBody .lineEndReturn rest
    else none
  | .lineEndReturn, c :: rest => if c = '\n' then longBasicBody .trimming rest else none
  | place, c :: rest =>
    let quotes := match place with
      | .body q => q
      | _ => 0
    if place = .trimming ∧ (isSpace c ∨ c = '\n') then longBasicBody .trimming rest
    else if place = .trimming ∧ c = '\r' then longBasicBody .lineEndReturn rest
    else if c = '"' then
      if quotes = 2 then some (closing '"' rest) else longBasicBody (.body (quotes + 1)) rest
    else
      before (List.replicate quotes '"') <|
        if c = '\\' then longBasicBody .escape rest
        else if c = '\n' then before ['\n'] (longBasicBody (.body 0) rest)
        else if c = '\r' then longBasicBody .carriageReturn rest
        else if isPlain c then before [c] (longBasicBody (.body 0) rest)
        else none

/-- The rest of a one-line literal string, and what follows it. -/
def literalBody : List Char → Option (List Char × List Char)
  | [] => none
  | c :: rest =>
    if c = '\'' then some ([], rest)
    else if isPlain c then before [c] (literalBody rest)
    else none

/-- The rest of a literal string of several lines, after so many quotes, and what follows it. -/
def longLiteralBody : Nat → List Char → Option (List Char × List Char)
  | _, [] => none
  | quotes, '\r' :: '\n' :: rest =>
    before (List.replicate quotes '\'' ++ ['\n']) (longLiteralBody 0 rest)
  | quotes, c :: rest =>
    if c = '\'' then
      if quotes = 2 then some (closing '\'' rest) else longLiteralBody (quotes + 1) rest
    else if c = '\n' ∨ isPlain c then
      before (List.replicate quotes '\'' ++ [c]) (longLiteralBody 0 rest)
    else none

/-- A text without the newline that it starts with. -/
def dropNewline : List Char → List Char
  | '\n' :: rest => rest
  | '\r' :: '\n' :: rest => rest
  | cs => cs

/-- A string on one line and what follows it. -/
def shortString? : List Char → Option (List Char × List Char)
  | '"' :: rest => basicBody (.body 0) rest
  | '\'' :: rest => literalBody rest
  | _ => none

/-- A string of any kind and what follows it. -/
def string? : List Char → Option (List Char × List Char)
  | '"' :: '"' :: '"' :: rest => longBasicBody (.body 0) (dropNewline rest)
  | '\'' :: '\'' :: '\'' :: rest => longLiteralBody 0 (dropNewline rest)
  | cs => shortString? cs

/-! ### Writing -/

/-- A control that no kind of string holds as it is, apart from the newline. -/
def isCode (c : Char) : Bool := !isPlain c && c != '\n'

/-- Some three characters in a row are all `quote`. -/
def hasThree (quote : Char) : List Char → Bool
  | a :: b :: c :: rest => (a == quote && b == quote && c == quote) || hasThree quote (b :: c :: rest)
  | _ => false

/-- A code point of four hexadecimal digits in upper case. -/
def codeEscape (c : Char) : List Char :=
  let ds := (Nat.toDigits 16 c.toNat).map Char.toUpper
  ['\\', 'u'] ++ List.replicate (4 - ds.length) '0' ++ ds

/-- A character of a basic string. -/
def basicChar (long : Bool) (c : Char) : List Char :=
  if c = '\x08' then ['\\', 'b']
  else if c = '\t' then ['\\', 't']
  else if c = '\n' then if long then [c] else ['\\', 'n']
  else if c = '\x0c' then ['\\', 'f']
  else if c = '\r' then ['\\', 'r']
  else if c = '\\' then ['\\', '\\']
  else if isCode c then codeEscape c
  else [c]

/-- The characters of a basic string; a quote that would be one too many in a row is escaped, after `run`
quotes in a row that were not. -/
def basicChars (long : Bool) : Nat → List Char → List Char
  | _, [] => []
  | run, c :: cs =>
    if c = '"' then
      if run < (if long then 2 else 0) then c :: basicChars long (run + 1) cs
      else '\\' :: c :: basicChars long 0 cs
    else basicChar long c ++ basicChars long 0 cs

/-- The newline that follows the opening of a string of several lines. -/
def opening (cs : List Char) : List Char := if cs.contains '\n' then ['\n'] else []

def between (quotes : List Char) (cs : List Char) : List Char := quotes ++ cs ++ quotes

/-- A text as a string: on one line where no quote or backslash speaks against it, then over several lines,
without escapes before with them. -/
def writeString (cs : List Char) : List Char :=
  let codes := cs.any isCode
  let newline := cs.contains '\n'
  let quotes (c : Char) := List.replicate 3 c
  if !codes && !newline && !cs.contains '\\' && !cs.contains '"' then
    between ['"'] (basicChars false 0 cs)
  else if !codes && !newline && !cs.contains '\'' then between ['\''] cs
  else if !codes && !cs.contains '\\' && !hasThree '"' cs then
    between (quotes '"') (opening cs ++ basicChars true 0 cs)
  else if !codes && !hasThree '\'' cs then between (quotes '\'') (opening cs ++ cs)
  else if newline then between (quotes '"') (opening cs ++ basicChars true 0 cs)
  else between ['"'] (basicChars false 0 cs)

end FieldLogger.Toml
