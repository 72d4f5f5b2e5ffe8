import ClassSwap.Bytes
import ClassSwap.Unicode.Category

namespace ClassSwap.Quoted

def hexText (n : Nat) : String :=
  String.ofList ((Nat.toDigits 16 n))

def escaped (c : Char) : String :=
  if c == '\x00' then "\\0"
  else if c == '\t' then "\\t"
  else if c == '\r' then "\\r"
  else if c == '\n' then "\\n"
  else if c == '\\' then "\\\\"
  else if c == '"' then "\\\""
  else if Unicode.extendsGrapheme c || !Unicode.isPrintable c then
    "\\u\x7b" ++ hexText c.toNat ++ "\x7d"
  else c.toString

def text (s : String) : String := "\"" ++ String.join (s.toList.map escaped) ++ "\""

end ClassSwap.Quoted
