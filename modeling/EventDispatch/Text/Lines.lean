import EventDispatch.Text.Split

/-!
# Lines

A program prints lines one after the other, each with a line break behind it, and
whoever reads its output takes it apart at the line breaks.
-/

namespace EventDispatch.Text

/-- The text that comes of printing lines. -/
def printed (lines : List String) : String :=
  String.join (lines.map (· ++ "\n"))

/-- The lines of a text.  Behind the last line break there is one more, unless the text
ends there. -/
def lines (text : String) : List String :=
  let pieces := split '\n' text.toList
  (if pieces.getLast? = some [] then pieces.dropLast else pieces).map String.ofList

end EventDispatch.Text
