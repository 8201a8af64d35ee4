/-!
# Lines

A text is cut after every line feed.  The line feed is not part of its line,
nor is one carriage return directly before it; a carriage return at the end of
a last line without line feed stays.  The empty text has no lines, and a final
line feed starts no further line.
-/

namespace Relift.Text

/-- A line under construction, last character first, once its line feed has
been met: one carriage return at its end is dropped. -/
def closeLine : List Char → List Char
  | '\r' :: before => before.reverse
  | line => line.reverse

/-- The lines of a text, the first of which has already been read up to
`current`, last character first. -/
def linesFrom (current : List Char) : List Char → List (List Char)
  | [] => if current.isEmpty then [] else [current.reverse]
  | c :: rest =>
    if c = '\n' then closeLine current :: linesFrom [] rest
    else linesFrom (c :: current) rest

/-- The lines of a text. -/
def lines (text : List Char) : List (List Char) :=
  linesFrom [] text

end Relift.Text
