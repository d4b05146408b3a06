import Rulebook.Number.Numeral
import Rulebook.Pattern.Cursor
import Rulebook.Text.CharacterName
import Rulebook.Text.Quoted

/-!
# Escapes and character sets

What a backslash and the characters behind it stand for, inside a character set and outside, and
the reading of a character set between brackets.
-/

namespace Rulebook.Pattern

namespace Reader

/-- Whether the character is an octal digit. -/
def isOctalDigit (c : Char) : Bool := '0' ≤ c && c ≤ '7'

/-- Whether the character is an ASCII letter. -/
def isAsciiLetter (c : Char) : Bool := c.isAlpha

/-- The number that octal digits stand for. -/
def octalValue (digits : List Char) : Nat :=
  digits.foldl (fun value c => 8 * value + (c.toNat - '0'.toNat)) 0

/-- The characters that letters behind a backslash stand for. -/
def controlEscape? : Char → Option Nat
  | 'a' => some 7
  | 'b' => some 8
  | 'f' => some 12
  | 'n' => some 10
  | 'r' => some 13
  | 't' => some 9
  | 'v' => some 11
  | '\\' => some 92
  | _ => none

/-- The classes of characters that letters behind a backslash stand for. -/
def classEscape? : Char → Option SetItem
  | 'd' => some (.named false .digit)
  | 'D' => some (.named true .digit)
  | 's' => some (.named false .space)
  | 'S' => some (.named true .space)
  | 'w' => some (.named false .word)
  | 'W' => some (.named true .word)
  | _ => none

/-- The places that letters behind a backslash stand for. -/
def anchorEscape? : Char → Option Anchor
  | 'A' => some .textStart
  | 'Z' => some .textFinish
  | 'b' => some (.wordBoundary false)
  | 'B' => some (.wordBoundary true)
  | _ => none

/-- Fails at an escape that starts at a position. -/
def failEscape {α : Type} (start : Nat) (problem : String) (escape : List Char) : Reader α :=
  failAt start (problem ++ String.ofList escape)

/-- The number from which on a hexadecimal escape is not even compared with the code points. -/
def comparablePoints : Nat := Nat.pow 2 31

/-- A code point given by exactly `count` hexadecimal digits. -/
def hexEscape (start : Nat) (letter : Char) (count : Nat) : Reader Nat := do
  let digits ← takeWhile Text.isHexDigit count
  let escape := '\\' :: letter :: digits
  if digits.length ≠ count then failEscape start "incomplete escape " escape
  else
    let point := Text.hexValue digits
    if comparablePoints ≤ point then throw .codePointTooLarge
    else if 0x110000 ≤ point then failEscape start "bad escape " escape else return point

/-- A code point given by the name of its character. -/
def namedEscape (start : Nat) : Reader Nat := do
  if !(← accept '{') then failHere "missing \x7b"
  else
    let name ← takeName '}' "character name"
    match Text.characterNamed? name with
    | some point => return point
    | none => failAt start ("undefined character name " ++ Text.quoted (String.ofList name))

/-- A code point given by octal digits, all of which have been taken. -/
def octalEscape (start : Nat) (digits : List Char) : Reader Nat :=
  let point := octalValue digits
  if 0o377 < point then
    failAt start ("octal escape value \\" ++ String.ofList digits ++
      " outside of range 0-0o377")
  else return point

/-- The code point of an escape that means the same in a set and outside; `none` when the
character is no such escape. -/
def pointEscape? (start : Nat) (c : Char) : Reader (Option Nat) := do
  if c = 'x' then return some (← hexEscape start c 2)
  else if c = 'u' then return some (← hexEscape start c 4)
  else if c = 'U' then return some (← hexEscape start c 8)
  else if c = 'N' then return some (← namedEscape start)
  else return none

/-- An escape of a character that stands for itself. -/
def plainEscape (start : Nat) (c : Char) : Reader Nat :=
  if isAsciiLetter c || c.isDigit then failEscape start "bad escape " ['\\', c]
  else return c.toNat

/-- An escape inside a character set. -/
def setEscape (start : Nat) (c : Char) : Reader SetItem := do
  match controlEscape? c, classEscape? c with
  | some point, _ => return .point point
  | none, some item => return item
  | none, none =>
      match ← pointEscape? start c with
      | some point => return .point point
      | none =>
          if isOctalDigit c then
            return .point (← octalEscape start (c :: (← takeWhile isOctalDigit 2)))
          else
            return .point (← plainEscape start c)

/-- A reference to a group by number. -/
def groupReference (start group : Nat) : Reader Piece := do
  if (← groupCount) < group then
    failAt (start + 1) ("invalid group reference " ++ toString group)
  else
    match ← closedWidth? group with
    | none => failAt start "cannot refer to an open group"
    | some width =>
        checkLookBehind group
        return .reference group width

/-- An escape that starts with a digit other than zero: three octal digits, or a reference to a
group by one or two digits. -/
def digitEscape (start : Nat) (c : Char) : Reader Piece := do
  match ← takeWhile Char.isDigit 1 with
  | [d] =>
      let third ← if isOctalDigit c && isOctalDigit d then takeWhile isOctalDigit 1 else pure []
      if third.isEmpty then groupReference start (Text.decimalNumber [c, d])
      else return .point (← octalEscape start (c :: d :: third))
  | _ => groupReference start (Text.decimalNumber [c])

/-- An escape outside of character sets. -/
def escape (start : Nat) (c : Char) : Reader Piece := do
  match anchorEscape? c, classEscape? c, controlEscape? c with
  | some condition, _, _ => return .anchor condition
  | none, some item, _ => return .set { negated := false, items := [item] }
  | none, none, some point => return .point point
  | none, none, none =>
      match ← pointEscape? start c with
      | some point => return .point point
      | none =>
          if c = '0' then return .point (octalValue (← takeWhile isOctalDigit 2))
          else if c.isDigit then digitEscape start c
          else return .point (← plainEscape start c)

/-- One member of a character set, or an end of an interval. -/
def setMember (start : Nat) : Token → Reader SetItem
  | .plain c => return .point c.toNat
  | .escaped c => setEscape start c

/-- Reads a character set whose opening bracket is at `start`.  A bracket that would close an
empty set is a member of it, and a hyphen next to the closing bracket stands for itself. -/
def setItems (start : Nat) : (steps : Nat) → (items : List SetItem) → Reader (List SetItem)
  | 0, _ => failAt start "unterminated character set"
  | steps + 1, items => do
      let place ← position
      match ← take with
      | none => failAt start "unterminated character set"
      | some token =>
          if token = .plain ']' && !items.isEmpty then return items
          else
            let low ← setMember place token
            if !(← accept '-') then setItems start steps (items ++ [low])
            else
              let place ← position
              match ← take with
              | none => failAt start "unterminated character set"
              | some last =>
                  if last = .plain ']' then return items ++ [low, .point '-'.toNat]
                  else
                    let high ← setMember place last
                    let width := token.chars.length + 1 + last.chars.length
                    let bad := "bad character range " ++
                      String.ofList (token.chars ++ '-' :: last.chars)
                    match low, high with
                    | .point low, .point high =>
                        if high < low then failBefore width bad
                        else setItems start steps (items ++ [.interval low high])
                    | _, _ => failBefore width bad

/-- Reads a character set behind its opening bracket. -/
def charSet (start : Nat) : Reader Piece := do
  let negated ← accept '^'
  let items := (← setItems start (← remaining) []).eraseDups
  match items with
  | [.point value] => return if negated then .otherThan value else .point value
  | _ => return .set { negated, items }

end Reader

end Rulebook.Pattern
