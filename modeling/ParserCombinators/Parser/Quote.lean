import ParserCombinators.Parser.Alternative
import ParserCombinators.Parser.Run
import ParserCombinators.Text.Quoted

/-!
# Quoted text

The value of quoted text is the text with its escapes undone, the input consumed is the text as it
was written, quotes included.
-/

namespace ParserCombinators.Parser

open Text.Quoted

/-- Reads text between two quotes, in which a quote may stand behind a backslash. -/
def quoted (quote : Char) : Parser Text :=
  (((char quote).keepRight (scan (insideQuotes quote))).keepLeft (char quote)).map (unescape quote)

/-- Reads text between single quotes or between double quotes. -/
def quotedString : Parser Text := (quoted '\'').orElse (quoted '"')

end ParserCombinators.Parser
