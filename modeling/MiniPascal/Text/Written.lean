/-
# Written lines

The lines that a text makes where it is written with a line feed behind it.  A line ends at a line
feed and nowhere else, so a carriage return is a character of its line.
-/

namespace MiniPascal

/-- The lines of the text, behind the characters of an unfinished line, the latest one first. -/
def writtenLinesFrom (unfinished : List Char) : List Char → List String
  | [] => [String.ofList unfinished.reverse]
  | c :: rest =>
    if c = '\n' then String.ofList unfinished.reverse :: writtenLinesFrom [] rest
    else writtenLinesFrom (c :: unfinished) rest

/-- The lines that the text makes. -/
def writtenLines (text : String) : List String := writtenLinesFrom [] text.toList

end MiniPascal
