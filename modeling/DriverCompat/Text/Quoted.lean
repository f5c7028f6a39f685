import DriverCompat.Text.Hex
import DriverCompat.Text.Invisible

/-! # Quoted texts

A text that a message shows in quotes: quotes and backslashes get a backslash, the common
controls their letter, and what cannot be seen its code point in braces.
-/

namespace DriverCompat.Text

/-- The code point of a character in braces, as `\\u\x7b1f600\x7d`. -/
def codePoint (c : Char) : List Char := ['\\', 'u', '{'] ++ hexDigits c.toNat ++ ['}']

def quotedChar (c : Char) : List Char :=
  match c with
  | '"' => ['\\', '"']
  | '\\' => ['\\', '\\']
  | '\n' => ['\\', 'n']
  | '\r' => ['\\', 'r']
  | '\t' => ['\\', 't']
  | '\x00' => ['\\', '0']
  | c =>
    if c.toNat < 0x20 then codePoint c
    else if c.toNat < 0x7F then [c]
    else if isInvisible c then codePoint c
    else [c]

/-- The text with its quotes. -/
def quoted (text : String) : String :=
  String.ofList ('"' :: (text.toList.flatMap quotedChar ++ ['"']))

/-- The text between single backquotes, as messages name a field or a value. -/
def ticked (text : String) : String := "\x60" ++ text ++ "\x60"

end DriverCompat.Text
