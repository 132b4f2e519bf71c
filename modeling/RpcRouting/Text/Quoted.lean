import RpcRouting.Text.Hidden
/-! Texts in double quotes, where everything that would not show as itself is escaped. -/
namespace RpcRouting.Text

def hexDigits (n : Nat) : String := String.ofList (Nat.toDigits 16 n)

/-- The form of a character between double quotes. -/
def escape (c : Char) : String :=
  if c = '"' then "\\\""
  else if c = '\\' then "\\\\"
  else if c = '\n' then "\\n"
  else if c = '\r' then "\\r"
  else if c = '\t' then "\\t"
  else if c = '\x00' then "\\0"
  else if isHidden c then "\\u\x7b" ++ hexDigits c.toNat ++ "\x7d"
  else c.toString

def quoted (text : String) : String := "\"" ++ String.join (text.toList.map escape) ++ "\""

end RpcRouting.Text
