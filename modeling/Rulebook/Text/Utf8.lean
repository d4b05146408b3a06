/-!
# UTF-8

Texts from bytes.  The reading goes on behind bytes that encode no character: a character that
breaks off counts as one failure, and so does each byte that cannot start a character.
-/

namespace Rulebook.Text

/-- A character of which some bytes are still to come. -/
structure OpenChar where
  /-- The bits of the bytes so far. -/
  bits : Nat
  /-- How many bytes are still to come. -/
  missing : Nat
  /-- The least value of the next byte. -/
  low : Nat := 0x80
  /-- The greatest value of the next byte. -/
  high : Nat := 0xBF
  deriving DecidableEq, Repr

namespace OpenChar

/-- What the first byte of a character starts: overlong forms, surrogates and numbers that are no
code points are kept out by the range of the second byte. -/
def ofFirst? (byte : Nat) : Option OpenChar :=
  if byte < 0xC2 then none
  else if byte < 0xE0 then some { bits := byte - 0xC0, missing := 1 }
  else if byte = 0xE0 then some { bits := 0, missing := 2, low := 0xA0 }
  else if byte = 0xED then some { bits := 0xD, missing := 2, high := 0x9F }
  else if byte < 0xF0 then some { bits := byte - 0xE0, missing := 2 }
  else if byte = 0xF0 then some { bits := 0, missing := 3, low := 0x90 }
  else if byte < 0xF4 then some { bits := byte - 0xF0, missing := 3 }
  else if byte = 0xF4 then some { bits := 4, missing := 3, high := 0x8F }
  else none

/-- Whether a byte continues the character. -/
def accepts (char : OpenChar) (byte : Nat) : Bool := char.low ≤ byte && byte ≤ char.high

/-- The bits with those of one more byte. -/
def bitsWith (char : OpenChar) (byte : Nat) : Nat := char.bits * 64 + byte % 64

end OpenChar

/-- A byte between characters, and what follows it. -/
def startChar (byte : Nat) (next : Option OpenChar → List (Option Char)) : List (Option Char) :=
  if byte < 0x80 then some (Char.ofNat byte) :: next none
  else match OpenChar.ofFirst? byte with
    | some char => next (some char)
    | none => none :: next none

/-- The characters that bytes encode, behind the start of an open character; `none` stands for
bytes that encode none. -/
def utf8Chars : (openChar : Option OpenChar) → List UInt8 → List (Option Char)
  | none, [] => []
  | some _, [] => [none]
  | none, byte :: rest => startChar byte.toNat fun started => utf8Chars started rest
  | some char, byte :: rest =>
      if char.accepts byte.toNat then
        let bits := char.bitsWith byte.toNat
        if char.missing = 1 then some (Char.ofNat bits) :: utf8Chars none rest
        else utf8Chars (some { bits, missing := char.missing - 1 }) rest
      else none :: startChar byte.toNat fun started => utf8Chars started rest

/-- The text that bytes encode, when they encode one. -/
def utf8? (bytes : List UInt8) : Option String :=
  ((utf8Chars none bytes).mapM id).map String.ofList

/-- The text that bytes encode, with a replacement character for each failure. -/
def utf8Replacing (bytes : List UInt8) : String :=
  String.ofList ((utf8Chars none bytes).map (·.getD '\uFFFD'))

end Rulebook.Text
