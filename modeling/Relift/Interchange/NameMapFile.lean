import Relift.Interchange.LineFile
import Relift.Symbol.Table
import Relift.Text.Blank

/-!
# Name-map files

One symbol a line: the two words of its descriptor and its name, parted by
single spaces.  The name is the rest of the line, spaces included, and must not
be empty.  Blank lines are skipped.
-/

namespace Relift

/-- The text before the first space and the text after it, if there is a
space. -/
def splitAtSpace : List Char → Option (List Char × List Char)
  | [] => none
  | c :: rest =>
    if c = ' ' then some ([], rest)
    else (splitAtSpace rest).map fun (before, after) => (c :: before, after)

/-- The symbol that a line of a name-map file gives. -/
def NameMapFile.entry? (line : List Char) : Option (Descriptor × String) := do
  let (first, afterFirst) ← splitAtSpace line
  let (second, name) ← splitAtSpace afterFirst
  let primary ← Text.wordOfDecimal? first
  let secondary ← Text.wordOfDecimal? second
  if name.isEmpty then none else some (⟨primary, secondary⟩, String.ofList name)

/-- One line of a name-map file. -/
def NameMapFile.readLine (line : List Char) : LineReading (Descriptor × String) :=
  if line.all Text.isBlank then .blank
  else
    match NameMapFile.entry? line with
    | some entry => .entry entry
    | none => .malformed

/-- The symbols of a name-map file, repetitions kept. -/
def NameMapFile.parse (path body : String) : Except Error (List (Descriptor × String)) :=
  readText NameMapFile.readLine path body

/-- The line of one symbol. -/
def NameMapFile.renderEntry (entry : Descriptor × String) : List Char :=
  Text.decimal entry.1.primary.toNat ++ ' ' :: Text.decimal entry.1.secondary.toNat ++
    ' ' :: entry.2.toList ++ ['\n']

/-- The name-map file of a name map. -/
def NameMapFile.render (names : NameMap) : String :=
  String.ofList (names.toList.flatMap NameMapFile.renderEntry)

end Relift
