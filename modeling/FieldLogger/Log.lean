import FieldLogger.Text.Quoted

/-!
Records of the log. A record is one line: controls that could steer the terminal of its reader are written by
their codes, and what a message has after its first line break follows the record as plain lines.
-/

namespace FieldLogger

/-- A record and the plain lines that follow it. -/
structure LogRecord where
  line : String
  tail : String
  deriving DecidableEq, Repr

namespace LogRecord

/-- The bell, the backspace, the form feed, the escape and the delete. -/
def steeringControls : List Char := ['\x07', '\x08', '\x0c', '\x1b', '\x7f']

/-- A control of the second block, `U+0080` to `U+009F`. -/
def isHighControl (c : Char) : Bool := 0x80 ≤ c.toNat && c.toNat ≤ 0x9F

/-- A character as records show it. -/
def shown (c : Char) : List Char :=
  if c ∈ steeringControls then ['\\', 'x', Nat.digitChar (c.toNat / 16), Nat.digitChar (c.toNat % 16)]
  else if isHighControl c then Text.codePoint c
  else [c]

def ofMessage (message : String) : LogRecord :=
  let cs := message.toList.flatMap shown
  let line := cs.takeWhile (· != '\n')
  let tail := match cs.drop line.length with
    | [] => []
    | _ :: rest => rest ++ ['\n']
  ⟨String.ofList line, String.ofList tail⟩

end LogRecord
end FieldLogger
