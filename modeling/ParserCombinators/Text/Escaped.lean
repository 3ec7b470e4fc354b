import ParserCombinators.CharClass.Basic
import ParserCombinators.Text.Basic

/-!
# Text shown in messages

A text that is part of a message is put between double quotes, and everything in it that could not
be told apart by eye is escaped: the double quote and the backslash, the common controls by a
letter, and any other character without a printed form of its own by its code point.
-/

namespace ParserCombinators.Text

/-- A code point in lower-case hexadecimal digits, between braces. -/
def codePoint (c : Char) : Text :=
  ['\\', 'u', '\x7b'] ++ Nat.toDigits 16 c.toNat ++ ['\x7d']

/-- How one character is shown between double quotes. -/
def showChar (c : Char) : Text :=
  match c with
  | '"' => ['\\', '"']
  | '\\' => ['\\', '\\']
  | '\n' => ['\\', 'n']
  | '\r' => ['\\', 'r']
  | '\t' => ['\\', 't']
  | '\x00' => ['\\', '0']
  | _ => if CharClass.isShown c then [c] else codePoint c

/-- How a text is shown, with the double quotes. -/
def showQuoted (text : Text) : Text := ['"'] ++ text.flatMap showChar ++ ['"']

end ParserCombinators.Text
