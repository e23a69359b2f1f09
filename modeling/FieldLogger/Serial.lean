import FieldLogger.Text.Utf8

/-!
The serial line: bytes become lines, and lines wait in a short queue for the superloop. The reader reads each line
into the same buffer and never waits; a line that finds the queue full is dropped. The end of the input, or a line
that is no text, ends the reader and closes its end of the queue.
-/

namespace FieldLogger.Serial

/-! ### The reader -/

/-- What is left of the input, and the buffer that lines are read into. -/
structure Reader where
  input : Bytes
  buffer : String
  deriving DecidableEq, Repr

/-- The bytes up to and with the first newline, or all of them if there is none, and the rest. -/
def cutLine : Bytes → Bytes × Bytes
  | [] => ([], [])
  | b :: bs =>
    if b = 10 then ([b], bs)
    else
      let (line, rest) := cutLine bs
      (b :: line, rest)

namespace Reader

def clear (r : Reader) : Reader := { r with buffer := "" }

/-- Adds a line of the input to the buffer and tells its size in bytes, 0 at the end of the input. A line that is no
text is left out of the buffer and has no size. -/
def readLine (r : Reader) : Option Nat × Reader :=
  let (line, rest) := cutLine r.input
  match Utf8.decode? line with
  | some text => (some line.length, ⟨rest, r.buffer ++ text⟩)
  | none => (none, { r with input := rest })

end Reader

/-! ### The line -/

def capacity : Nat := 16

/-- The reader and what waits. -/
structure Line where
  reader : Reader
  /-- Oldest first. -/
  queue : List String
  /-- The reader holds its end of the queue. -/
  isOpen : Bool
  deriving DecidableEq, Repr

/-- What asking for a line brings. -/
inductive Answer where
  | line (text : String)
  /-- No line came in time. -/
  | timeout
  | closed
  deriving DecidableEq, Repr

/-- Something that happens on the line. -/
inductive Event where
  /-- The reader goes round once. -/
  | round
  /-- The superloop asks for a line. -/
  | receive
  deriving DecidableEq, Repr

namespace Line

/-- A line whose reader is about to start on an input. -/
def ofInput (input : Bytes) : Line := ⟨⟨input, ""⟩, [], true⟩

/-- The line when more of its input has come. -/
def feed (l : Line) (bytes : Bytes) : Line := { l with reader := { l.reader with input := l.reader.input ++ bytes } }

/-- Adds a text to the queue if there is room. -/
def send (l : Line) (text : String) : Line :=
  if l.queue.length < capacity then { l with queue := l.queue ++ [text] } else l

def close (l : Line) : Line := { l with isOpen := false }

/-- Reads a line and sends it; a reader that has ended does nothing. -/
def round (l : Line) : Line :=
  if l.isOpen then
    match l.reader.clear.readLine with
    | (none, reader) | (some 0, reader) => { l with reader }.close
    | (some _, reader) => { l with reader }.send reader.buffer
  else l

def receive (l : Line) : Answer × Line :=
  match l.queue with
  | text :: rest => (.line text, { l with queue := rest })
  | [] => (if l.isOpen then .timeout else .closed, l)

def step (l : Line) : Event → Line
  | .round => l.round
  | .receive => l.receive.2

def run (l : Line) (events : List Event) : Line := events.foldl step l

/-- The line after the reader has come to its end while nobody received: each of its rounds but the last takes a byte
at least. -/
def readToEnd (l : Line) : Line := l.run (List.replicate (l.reader.input.length + 1) .round)

end Line
end FieldLogger.Serial
