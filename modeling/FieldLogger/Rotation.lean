import FieldLogger.Calendar.Clock

/-!
Names of measurement files. A name is made of the device name, with what is unsafe in a file name replaced, and
of the day, week, month or year that the file covers.
-/

namespace FieldLogger

namespace Rotation

/-- Characters that every file system takes in a name. -/
def isPortable (c : Char) : Bool := c.isAlphanum || c == '-' || c == '_'

/-- The device name with `_` for every character that is not portable; a name of its own for an empty one. -/
def baseName (name : String) : List Char :=
  let cs := name.toList.map fun c => if isPortable c then c else '_'
  if cs.isEmpty then ['l', 'o', 'g', 'g', 'e', 'r'] else cs

/-- What the date adds to the name. -/
def dateSuffix (date : Date) : FilePeriod → List Char
  | .daily => '_' :: yearChars date.year ++ Text.padded 2 date.month ++ Text.padded 2 date.day
  | .weekly => '_' :: Text.paddedInt 4 date.weekYear ++ ['-', 'W'] ++ Text.padded 2 date.week
  | .monthly => '_' :: yearChars date.year ++ Text.padded 2 date.month
  | .yearly => '_' :: yearChars date.year
  | .once => []

/-- The file for measurements of that date. -/
def fileName (name : String) (period : FilePeriod) (date : Date) : String :=
  String.ofList (baseName name ++ dateSuffix date period ++ ['.', 'c', 's', 'v'])

end Rotation
end FieldLogger
