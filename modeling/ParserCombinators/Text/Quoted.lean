import ParserCombinators.Text.Basic

/-!
# Text between quotes

Between two quotes, a quote that belongs to the text is written with a backslash before it.  That
is the only escape: every other backslash stands for itself.
-/

namespace ParserCombinators.Text.Quoted

/-- Puts a backslash before every quote. -/
def escape (quote : Char) : Text → Text
  | [] => []
  | c :: rest => if c = quote then '\\' :: quote :: escape quote rest else c :: escape quote rest

/-- Takes away the backslash before every quote that has one, from left to right. -/
def unescape (quote : Char) : Text → Text
  | '\\' :: c :: rest =>
      if c = quote then quote :: unescape quote rest else '\\' :: unescape quote (c :: rest)
  | c :: rest => c :: unescape quote rest
  | [] => []

/-- What has been read so far does not reach the closing quote: it does not end in a quote, or
that quote has a backslash before it. -/
def insideQuotes (quote : Char) (window : Text) : Bool :=
  ['\\', quote].isSuffixOf window || !([quote].isSuffixOf window)

end ParserCombinators.Text.Quoted
