import Relift.Error
import Relift.Text.Lines

/-!
# Files of lines

Interchange files hold one entry a line.  A reader of lines tells for each line
whether it is blank, an entry or malformed; the first malformed line refuses
the file and is reported with its number, counting from 1 and counting blank
lines, and with its content as it stands.
-/

namespace Relift

variable {α : Type}

/-- What a line can be. -/
inductive LineReading (α : Type) where
  | blank
  | entry (value : α)
  | malformed

/-- The entries of lines, the first of which has the given number. -/
def readEntries (readLine : List Char → LineReading α) (path : String) (number : Nat) :
    List (List Char) → Except Error (List α)
  | [] => .ok []
  | line :: rest =>
    match readLine line with
    | .blank => readEntries readLine path (number + 1) rest
    | .entry value =>
      (readEntries readLine path (number + 1) rest).map fun values => value :: values
    | .malformed => .error (.malformedLine path number (String.ofList line))

/-- The entries of a text; the path is for messages. -/
def readText (readLine : List Char → LineReading α) (path body : String) :
    Except Error (List α) :=
  readEntries readLine path 1 (Text.lines body.toList)

end Relift
