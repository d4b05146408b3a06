import Rulebook.Text.Printable

/-!
# Quoted texts

The form in which messages show a text: in single quotes, or in double quotes when it has a single
quote and no double one; with the backslash, the quote in use, the usual controls and every
character that is not printable escaped.
-/

namespace Rulebook.Text

/-- A hexadecimal digit in lower case. -/
private def hexDigitChar (value : Nat) : Char :=
  if value < 10 then Char.ofNat ('0'.toNat + value) else Char.ofNat ('a'.toNat + (value - 10))

/-- The last `width` hexadecimal digits of a number. -/
def hexDigits : (width : Nat) → Nat → List Char
  | 0, _ => []
  | width + 1, value => hexDigits width (value / 16) ++ [hexDigitChar (value % 16)]

/-- The quote around a text: double when the text has a single quote and no double one. -/
def quoteFor (text : List Char) : Char :=
  if text.contains '\'' && !text.contains '"' then '"' else '\''

/-- A character as it stands between quotes. -/
def quoteChar (quote c : Char) : List Char :=
  if c = quote || c = '\\' then ['\\', c]
  else if c = '\t' then ['\\', 't']
  else if c = '\n' then ['\\', 'n']
  else if c = '\r' then ['\\', 'r']
  else if isPrintable c then [c]
  else if c.toNat < 0x100 then '\\' :: 'x' :: hexDigits 2 c.toNat
  else if c.toNat < 0x10000 then '\\' :: 'u' :: hexDigits 4 c.toNat
  else '\\' :: 'U' :: hexDigits 8 c.toNat

/-- A text in quotes. -/
def quote (text : List Char) : List Char :=
  let mark := quoteFor text
  mark :: text.flatMap (quoteChar mark) ++ [mark]

/-- A string in quotes. -/
def quoted (text : String) : String :=
  String.ofList (quote text.toList)

/-- A byte as it stands between quotes: ASCII as a character, anything else as two digits. -/
def quoteByte (quote : Char) (byte : UInt8) : List Char :=
  if byte.toNat < 128 then
    let c := Char.ofNat byte.toNat
    if c = quote || c = '\\' then ['\\', c]
    else if c = '\t' then ['\\', 't']
    else if c = '\n' then ['\\', 'n']
    else if c = '\r' then ['\\', 'r']
    else if isPrintable c then [c]
    else '\\' :: 'x' :: hexDigits 2 byte.toNat
  else '\\' :: 'x' :: hexDigits 2 byte.toNat

/-- A sequence of bytes in quotes, marked by a leading `b`. -/
def quotedBytes (bytes : List UInt8) : String :=
  let chars := bytes.map fun byte => Char.ofNat byte.toNat
  let mark := quoteFor chars
  String.ofList ('b' :: mark :: bytes.flatMap (quoteByte mark) ++ [mark])

end Rulebook.Text
