import FieldLogger.Text.Blank

/-!
What reaches the terminal: keys, lines, and the signals of entering and leaving a screen. A line of one known
key is that key, in either case; any other line is entered as it stands, or as nothing if it is blank.
-/

namespace FieldLogger

/-- What a terminal session can edit. -/
inductive Field where
  | name
  | timeAndDate
  | filePeriod
  | measurement
  | transmission
  | report
  deriving DecidableEq, Repr

/-- The keys of the terminal. -/
inductive Key where
  | info
  | config
  | back
  /-- Asks for a new value of a field. -/
  | edit (f : Field)
  | save
  deriving DecidableEq, Repr

/-- What a screen is told. -/
inductive Signal where
  /-- The screen is shown. -/
  | entry
  /-- The screen is left. -/
  | leave
  | key (k : Key)
  /-- A line that is no key. -/
  | enter
  deriving DecidableEq, Repr

def Key.ofChar? (c : Char) : Option Key :=
  match c.toUpper with
  | 'I' => some .info
  | 'C' => some .config
  | 'B' => some .back
  | 'N' => some (.edit .name)
  | 'T' => some (.edit .timeAndDate)
  | 'F' => some (.edit .filePeriod)
  | 'M' => some (.edit .measurement)
  | 'P' => some (.edit .transmission)
  | 'R' => some (.edit .report)
  | 'S' => some .save
  | _ => none

/-- The key that a line without its end consists of. -/
def Key.ofLine? (line : List Char) : Option Key :=
  match Text.trim line with
  | [c] => Key.ofChar? c
  | _ => none

/-- The signal of a typed line, and the text that goes with it. -/
def Signal.ofLine (typed : String) : Signal × Option String :=
  let line := Text.dropWhileEnd (fun c => c == '\r' || c == '\n') typed.toList
  match Key.ofLine? line with
  | some k => (.key k, none)
  | none => (.enter, if (Text.trim line).isEmpty then none else some (String.ofList line))

end FieldLogger
