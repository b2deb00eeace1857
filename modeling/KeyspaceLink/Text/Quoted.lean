import KeyspaceLink.Text.Formless

/-! Texts shown inside messages: between double quotes, with escapes for the
quote, the backslash and every character that has no form of its own. -/

namespace KeyspaceLink

def hexDigits (n : Nat) : List Char := Nat.toDigits 16 n

def quotedChar (c : Char) : List Char :=
  if c == '"' then ['\\', '"']
  else if c == '\\' then ['\\', '\\']
  else if c == '\n' then ['\\', 'n']
  else if c == '\r' then ['\\', 'r']
  else if c == '\t' then ['\\', 't']
  else if c.toNat == 0 then ['\\', '0']
  else if isFormless c then
    ['\\', 'u', '\x7b'] ++ hexDigits c.toNat ++ ['\x7d']
  else [c]

def quoted (s : String) : String :=
  .ofList ('"' :: s.toList.flatMap quotedChar ++ ['"'])

end KeyspaceLink
