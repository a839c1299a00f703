import NodeConsole.Text.Visible
/-!
A text between quotation marks, as messages show it. Hidden characters appear by their code point,
so two different texts never look alike.
-/

namespace NodeConsole.Text

private def hexDigits (n : Nat) : List Char :=
  Nat.toDigits 16 n

def quotedChar (c : Char) : List Char :=
  if c = '\x00' then ['\\', '0']
  else if c = '\t' then ['\\', 't']
  else if c = '\r' then ['\\', 'r']
  else if c = '\n' then ['\\', 'n']
  else if c = '\\' then ['\\', '\\']
  else if c = '"' then ['\\', '"']
  else if isVisible c then [c]
  else '\\' :: 'u' :: '\x7b' :: hexDigits c.toNat ++ ['\x7d']

def quoted (text : String) : String :=
  String.ofList ('"' :: text.toList.flatMap quotedChar ++ ['"'])

example : quoted "a\"\u0007é" = "\"a\\\"\\u\x7b7\x7dé\"" := by decide +kernel

end NodeConsole.Text
