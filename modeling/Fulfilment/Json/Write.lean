import Fulfilment.Json.Value
import Fulfilment.Number.FloatText

/-!
Compact JSON text: no blanks, members in the order of the value, strings with `"` and `\`
escaped, the control characters below U+0020 written as `\b \t \n \f \r` or `\u00xx` with
lowercase hex, and every other character written as itself. Floats use the `json` layout.
-/

namespace Fulfilment.Json

def hexDigit (n : Nat) : Char :=
  if n < 10 then Char.ofNat (48 + n) else Char.ofNat (87 + n)

def escapeChar (c : Char) : String :=
  if c = '"' then "\\\""
  else if c = '\\' then "\\\\"
  else if c.toNat < 0x20 then
    match c.toNat with
    | 0x08 => "\\b"
    | 0x09 => "\\t"
    | 0x0A => "\\n"
    | 0x0C => "\\f"
    | 0x0D => "\\r"
    | n => "\\u00" ++ String.ofList [hexDigit (n / 16), hexDigit (n % 16)]
  else String.singleton c

def quote (s : String) : String :=
  "\"" ++ String.join (s.toList.map escapeChar) ++ "\""

def Number.render : Number → String
  | .int i => toString i
  | .float b => FloatText.json b

mutual
def Value.render : Value → String
  | .null => "null"
  | .bool true => "true"
  | .bool false => "false"
  | .num n => n.render
  | .str s => quote s
  | .arr xs => "[" ++ renderItems xs ++ "]"
  | .obj ms => "\x7b" ++ renderMembers ms ++ "\x7d"

def renderItems : List Value → String
  | [] => ""
  | [x] => x.render
  | x :: xs => x.render ++ "," ++ renderItems xs

def renderMembers : List (String × Value) → String
  | [] => ""
  | [(k, v)] => quote k ++ ":" ++ v.render
  | (k, v) :: ms => quote k ++ ":" ++ v.render ++ "," ++ renderMembers ms
end

end Fulfilment.Json
