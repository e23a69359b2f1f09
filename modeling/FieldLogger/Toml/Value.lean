/-!
TOML values, and the rules by which keys and headers build a tree of tables. A table remembers how it came to
be, since that decides what may still be added to it: a table with a header of its own has one header, a
table made by dotted keys takes more dotted keys, and a table written inline takes nothing.
-/

namespace FieldLogger.Toml

/-- How a table came to be. -/
inductive TableOrigin where
  /-- Written inline. -/
  | inline
  /-- Under a header of its own. -/
  | header
  /-- Named on the way to another header. -/
  | implied
  /-- Named on the way to a dotted key. -/
  | dotted
  deriving DecidableEq, Repr

/-- A value. Floats and dates keep their text. -/
inductive Value where
  | string (s : String)
  | integer (i : Int)
  | float (literal : String)
  | boolean (b : Bool)
  | date (literal : String)
  | array (items : List Value)
  | table (origin : TableOrigin) (entries : List (String × Value))
  /-- An array of tables, each under its own header. -/
  | tables (rows : List (List (String × Value)))

/-- Keys and values in the order in which they came. -/
abbrev Entries := List (String × Value)

namespace Entries

def get? (key : String) : Entries → Option Value
  | [] => none
  | (k, v) :: rest => if k = key then some v else get? key rest

/-- Puts a value under a key, in place of the one there. -/
def put (key : String) (value : Value) : Entries → Entries
  | [] => [(key, value)]
  | (k, v) :: rest => if k = key then (k, value) :: rest else (k, v) :: put key value rest

/-- Changes the last of some rows. -/
def modifyLast (f : Entries → Option Entries) : List Entries → Option (List Entries)
  | [] => none
  | [row] => (f row).map ([·])
  | row :: rows => (modifyLast f rows).map (row :: ·)

/-- Adds `key = value` below the tables that a dotted key names on its way. Those tables have no header of
their own, the last of them was made by dotted keys, and the key is new. -/
def insert (key : String) (value : Value) : List String → Entries → Option Entries
  | [], es => if (es.get? key).isSome then none else some (es.put key value)
  | k :: ks, es =>
    match es.get? k with
    | none => (insert key value ks []).map fun sub => es.put k (.table .dotted sub)
    | some (.table origin sub) =>
      if origin = .dotted ∨ (origin = .implied ∧ ks ≠ []) then
        (insert key value ks sub).map fun sub => es.put k (.table origin sub)
      else none
    | some (.tables rows) =>
      if ks = [] then none
      else (modifyLast (insert key value ks) rows).map fun rows => es.put k (.tables rows)
    | some _ => none

/-- Goes through the tables that a header names, making those that do not exist, and changes the last. -/
def update (f : Entries → Option Entries) : List String → Entries → Option Entries
  | [], es => f es
  | k :: ks, es =>
    match es.get? k with
    | none => (update f ks []).map fun sub => es.put k (.table .implied sub)
    | some (.table origin sub) =>
      if origin = .inline then none
      else (update f ks sub).map fun sub => es.put k (.table origin sub)
    | some (.tables rows) => (modifyLast (update f ks) rows).map fun rows => es.put k (.tables rows)
    | some _ => none

/-- Opens a table under a header: new, or so far only named by longer headers. -/
def openTable (key : String) (es : Entries) : Option Entries :=
  match es.get? key with
  | none => some (es.put key (.table .header []))
  | some (.table .implied sub) => some (es.put key (.table .header sub))
  | some _ => none

/-- Opens a further table of an array of tables. -/
def openRow (key : String) (es : Entries) : Option Entries :=
  match es.get? key with
  | none => some (es.put key (.tables [[]]))
  | some (.tables rows) => some (es.put key (.tables (rows ++ [[]])))
  | some _ => none

end Entries
end FieldLogger.Toml
