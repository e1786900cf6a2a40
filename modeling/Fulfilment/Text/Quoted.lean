import Fulfilment.Text.Printable

/-!
Quoted text as diagnostics show it: the text between double quotes, with `\0 \t \r \n \\ \"`
for those characters, `\u` and braces around the lowercase hex code point for grapheme
extenders and for characters that are not printable, and every other character as itself.
-/

namespace Fulfilment.Text

def hexLower (n : Nat) : String :=
  String.ofList (Nat.toDigits 16 n)

def codePointEscape (c : Char) : String := "\\u\x7b" ++ hexLower c.toNat ++ "\x7d"

def quotedChar (c : Char) : String :=
  if c = '\x00' then "\\0"
  else if c = '\t' then "\\t"
  else if c = '\r' then "\\r"
  else if c = '\n' then "\\n"
  else if c = '\\' then "\\\\"
  else if c = '"' then "\\\""
  else if isGraphemeExtend c then codePointEscape c
  else if isPrintable c then String.singleton c
  else codePointEscape c

/-- A character between single quotes, escaped as in quoted text except that the single quote
is escaped and the double quote is not. -/
def quotedCharacter (c : Char) : String :=
  "'" ++ (if c = '\'' then "\\'" else if c = '"' then "\"" else quotedChar c) ++ "'"

def quoted (s : String) : String := "\"" ++ String.join (s.toList.map quotedChar) ++ "\""

end Fulfilment.Text
