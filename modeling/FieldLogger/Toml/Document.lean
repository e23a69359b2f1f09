import FieldLogger.Toml.Literal
import FieldLogger.Toml.Quoted

/-!
TOML documents. A document is read into statements, headers and key-value pairs, which are then carried out
on the tree of tables in order. Values nest to a fixed depth, and each loop runs at most once per character.
-/

namespace FieldLogger.Toml

/-! ### Blank space -/

/-- The text without the spaces and tabs that it starts with. -/
def skipSpaces (cs : List Char) : List Char := cs.dropWhile isSpace

/-- The rest of a line that holds nothing more than a comment, and the lines after it. -/
def endLine? (cs : List Char) : Option (List Char) :=
  let rest := match skipSpaces cs with
    | '#' :: comment => comment.dropWhile isPlain
    | rest => rest
  match rest with
  | [] => some []
  | '\n' :: rest => some rest
  | '\r' :: '\n' :: rest => some rest
  | _ => none

/-- The text without the blank space, line ends and comments that it starts with; `comment` tells that it
starts inside a comment. -/
def skipLines (comment : Bool) : List Char → List Char
  | [] => []
  | '\r' :: '\n' :: rest => skipLines false rest
  | c :: rest =>
    if c = '\n' then skipLines false rest
    else if comment then if isPlain c then skipLines true rest else c :: rest
    else if isSpace c then skipLines false rest
    else if c = '#' then skipLines true rest
    else c :: rest

/-! ### Keys -/

/-- Characters of a key without quotes. -/
def isKeyChar (c : Char) : Bool := c.isAlphanum || c == '_' || c == '-'

/-- One key, with or without quotes, and what follows it. -/
def simpleKey? (cs : List Char) : Option (String × List Char) :=
  match shortString? cs with
  | some (key, rest) => some (String.ofList key, rest)
  | none =>
    let key := cs.takeWhile isKeyChar
    if key.isEmpty then none else some (String.ofList key, cs.drop key.length)

/-- Keys between dots, with blank space around each. -/
def dottedKeys? : Nat → List Char → Option (List String × List Char)
  | 0, _ => none
  | fuel + 1, cs =>
    match simpleKey? (skipSpaces cs) with
    | none => none
    | some (key, rest) =>
      match skipSpaces rest with
      | '.' :: rest => (dottedKeys? fuel rest).map fun (keys, rest) => (key :: keys, rest)
      | rest => some ([key], rest)

/-- The most levels that values and keys nest to. -/
def maxDepth : Nat := 80

/-- A dotted key and what follows it. -/
def key? (cs : List Char) : Option (List String × List Char) :=
  (dottedKeys? cs.length cs).filter fun (keys, _) => keys.length < maxDepth

/-! ### Values -/

/-- Reads a value from the start of a text and gives what follows it. -/
abbrev ValueReader := List Char → Option (Value × List Char)

/-- A string, number, boolean or date. -/
def scalarValue? : ValueReader := fun cs =>
  match cs with
  | '"' :: _ | '\'' :: _ => (string? cs).map fun (s, rest) => (.string (String.ofList s), rest)
  | _ =>
    let (word, rest) := takeWord cs
    (ofWord? word).map fun v => (v, rest)

/-- The items of an array after its opening, and what follows its end. -/
def arrayItems? (item : ValueReader) : Nat → List Char → Option (List Value × List Char)
  | 0, _ => none
  | fuel + 1, cs =>
    match skipLines false cs with
    | ']' :: rest => some ([], rest)
    | cs =>
      match item cs with
      | none => none
      | some (v, rest) =>
        match skipLines false rest with
        | ',' :: rest => (arrayItems? item fuel rest).map fun (vs, rest) => (v :: vs, rest)
        | ']' :: rest => some ([v], rest)
        | _ => none

/-- One `key = value`, and what follows it. -/
def pair? (value : ValueReader) (cs : List Char) : Option ((List String × Value) × List Char) :=
  match key? cs with
  | some (keys, '=' :: rest) => (value (skipSpaces rest)).map fun (v, rest) => ((keys, v), rest)
  | _ => none

/-- The pairs of an inline table after its opening, at least one, and what follows its end. -/
def inlinePairs? (value : ValueReader) : Nat → List Char → Option (List (List String × Value) × List Char)
  | 0, _ => none
  | fuel + 1, cs =>
    match pair? value cs with
    | none => none
    | some (p, rest) =>
      match skipSpaces rest with
      | ',' :: rest => (inlinePairs? value fuel rest).map fun (ps, rest) => (p :: ps, rest)
      | '}' :: rest => some ([p], rest)
      | _ => none

/-- Adds a pair with a dotted key. -/
def addPair (es : Entries) (pair : List String × Value) : Option Entries :=
  match pair.1.getLast? with
  | none => none
  | some key => es.insert key pair.2 pair.1.dropLast

/-- A value that nests to at most so many levels. -/
def value? : Nat → ValueReader
  | 0 => scalarValue?
  | depth + 1 => fun cs =>
    match cs with
    | '[' :: rest =>
      (arrayItems? (value? depth) (rest.length + 1) rest).map fun (vs, rest) => (.array vs, rest)
    | '{' :: rest =>
      match skipSpaces rest with
      | '}' :: rest => some (.table .inline [], rest)
      | rest =>
        match inlinePairs? (value? depth) (rest.length + 1) rest with
        | none => none
        | some (pairs, rest) => (pairs.foldlM addPair []).map fun es => (.table .inline es, rest)
    | _ => scalarValue? cs

/-! ### Statements -/

/-- A line of a document that says something. -/
inductive Statement where
  /-- The header of a table. -/
  | table (path : List String)
  /-- The header of a further table of an array. -/
  | row (path : List String)
  | pair (keys : List String) (value : Value)

/-- The statement that a text starts with, and what follows it on its line. -/
def statement? (cs : List Char) : Option (Statement × List Char) :=
  match cs with
  | '[' :: '[' :: rest =>
    match key? rest with
    | some (path, ']' :: ']' :: rest) => some (.row path, rest)
    | _ => none
  | '[' :: rest =>
    match key? rest with
    | some (path, ']' :: rest) => some (.table path, rest)
    | _ => none
  | _ => (pair? (value? (maxDepth - 1)) cs).map fun ((keys, v), rest) => (.pair keys v, rest)

def statements? : Nat → List Char → Option (List Statement)
  | 0, _ => none
  | fuel + 1, cs =>
    match skipLines false cs with
    | [] => some []
    | cs =>
      match statement? cs with
      | none => none
      | some (s, rest) =>
        match endLine? rest with
        | none => none
        | some rest => (statements? fuel rest).map (s :: ·)

/-! ### Carrying out statements -/

/-- The tree so far, and the table that pairs go into. -/
structure Builder where
  root : Entries
  current : List String

/-- Opens a header: all but its last key are gone through, and `open?` opens the last. -/
def Builder.header (b : Builder) (path : List String) (open? : String → Entries → Option Entries) :
    Option Builder :=
  match path.getLast? with
  | none => none
  | some key => (b.root.update (open? key) path.dropLast).map fun root => ⟨root, path⟩

def Builder.step (b : Builder) : Statement → Option Builder
  | .table path => b.header path Entries.openTable
  | .row path => b.header path Entries.openRow
  | .pair keys v => (b.root.update (fun es => addPair es (keys, v)) b.current).map fun root => { b with root }

def byteOrderMark : Char := '\uFEFF'

/-- The tables of a document, after a byte order mark if there is one. -/
def parse? (text : String) : Option Entries :=
  let cs := match text.toList with
    | c :: rest => if c = byteOrderMark then rest else c :: rest
    | [] => []
  match statements? (cs.length + 1) cs with
  | none => none
  | some ss => (ss.foldlM Builder.step ⟨[], []⟩).map Builder.root

end FieldLogger.Toml
