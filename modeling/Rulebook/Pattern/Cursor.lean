import Rulebook.Pattern.Width
import Rulebook.Text.CodePoints

/-!
# Moving through the text of a pattern

The text is taken in tokens: single characters, and a backslash together with the character behind
it.  One token is always looked at in advance, so a lone backslash at the end is noticed as soon
as the token before it has been taken.
-/

namespace Rulebook.Pattern

/-- A character of a pattern text, or a backslash and the character behind it. -/
inductive Token where
  | plain (character : Char)
  | escaped (character : Char)
  deriving DecidableEq, Repr

/-- The characters of a token. -/
def Token.chars : Token → List Char
  | plain character => [character]
  | escaped character => ['\\', character]

/-- A place in the text of a pattern. -/
structure Cursor where
  /-- The token that comes next. -/
  next : Option Token
  /-- The number of characters before that token. -/
  position : Nat
  /-- The text behind that token. -/
  rest : List Char
  deriving DecidableEq, Repr

namespace Cursor

/-- The place where a token starts. -/
def at? (position : Nat) : List Char → Except Failure Cursor
  | [] => .ok { next := none, position, rest := [] }
  | '\\' :: c :: rest => .ok { next := some (.escaped c), position, rest }
  | ['\\'] =>
      .error (.defect { reason := "bad escape (end of pattern)", position := some position })
  | c :: rest => .ok { next := some (.plain c), position, rest }

/-- The place behind the next token. -/
def advance (cursor : Cursor) : Except Failure Cursor :=
  match cursor.next with
  | some token => at? (cursor.position + token.chars.length) cursor.rest
  | none => .ok cursor

end Cursor

/-- What is known while a pattern is read. -/
structure Reading where
  cursor : Cursor
  flags : Flags := []
  names : List (String × Nat) := []
  /-- The widths of the groups from the first one on; an open group has none yet. -/
  widths : List (Option Width) := []
  /-- The first group that the look-behind under way may not refer to. -/
  lookBehindLimit : Option Nat := none
  /-- The groups that conditions refer to by number, with the place of the first reference. -/
  conditions : List (Nat × Nat) := []
  deriving Repr

/-- A step of reading a pattern. -/
abbrev Reader := StateT Reading (Except Failure)

namespace Reader

/-- The token that comes next. -/
def peek : Reader (Option Token) := do return (← get).cursor.next

/-- The position of the next token. -/
def position : Reader Nat := do return (← get).cursor.position

/-- Takes the next token. -/
def take : Reader (Option Token) := do
  let reading ← get
  let cursor ← reading.cursor.advance
  set { reading with cursor }
  return reading.cursor.next

/-- Takes the next token when it is the given character. -/
def accept (expected : Char) : Reader Bool := do
  if (← peek) = some (.plain expected) then
    let _ ← take
    return true
  else
    return false

/-- Goes back to a place. -/
def moveTo (cursor : Cursor) : Reader Unit :=
  modify fun reading => { reading with cursor }

/-- Fails at a position. -/
def failAt {α : Type} (position : Nat) (reason : String) : Reader α :=
  throw (.defect { reason, position := some position })

/-- Fails so many characters before the next token. -/
def failBefore {α : Type} (offset : Nat) (reason : String) : Reader α := do
  failAt ((← position) - offset) reason

/-- Fails at the next token. -/
def failHere {α : Type} (reason : String) : Reader α := failBefore 0 reason

/-- Takes up to `count` characters of a class. -/
def takeWhile (inClass : Char → Bool) : (count : Nat) → Reader (List Char)
  | 0 => return []
  | count + 1 => do
      match ← peek with
      | some (.plain c) =>
          if inClass c then
            let _ ← take
            return c :: (← takeWhile inClass count)
          else
            return []
      | _ => return []

/-- The number of tokens that are left, at most. -/
def remaining : Reader Nat := do return (← get).cursor.rest.length + 1

/-- Fails at the end of the pattern inside a name, of which a part has been taken. -/
def failName {α : Type} (closing : Char) (what : String) (name : List Char) : Reader α :=
  if name.isEmpty then failHere ("missing " ++ what)
  else failBefore name.length ("missing " ++ String.ofList [closing] ++ ", unterminated name")

/-- Takes the rest of a name, of which a part has been taken, up to a closing character. -/
def takeNameRest (closing : Char) (what : String) :
    (steps : Nat) → (name : List Char) → Reader (List Char)
  | 0, name => failName closing what name
  | steps + 1, name => do
      match ← take with
      | none => failName closing what name
      | some token =>
          if token = .plain closing then
            if name.isEmpty then failBefore 1 ("missing " ++ what) else return name
          else takeNameRest closing what steps (name ++ token.chars)

/-- Takes a name up to a closing character.  `what` says what the name is for. -/
def takeName (closing : Char) (what : String) : Reader (List Char) := do
  takeNameRest closing what (← remaining) []

/-- The number of groups opened so far. -/
def groupCount : Reader Nat := do return (← get).widths.length

/-- The width of a group that is closed. -/
def closedWidth? (group : Nat) : Reader (Option Width) := do
  if group = 0 then return none
  else return (← get).widths[group - 1]?.join

/-- Fails when a look-behind may not refer to the group. -/
def checkLookBehind (group : Nat) : Reader Unit := do
  match (← get).lookBehindLimit with
  | none => return ()
  | some limit =>
      if (← closedWidth? group).isNone then failHere "cannot refer to an open group"
      else if limit ≤ group then
        failHere "cannot refer to group defined in the same lookbehind subpattern"

/-- Opens the next group and gives its number. -/
def openGroup : Reader Nat := do
  let reading ← get
  set { reading with widths := reading.widths ++ [none] }
  return reading.widths.length + 1

/-- Closes a group whose content has been read. -/
def closeGroup (group : Nat) (body : List Piece) : Reader Unit :=
  modify fun reading =>
    { reading with widths := reading.widths.set (group - 1) (some (widthOf body)) }

end Reader

end Rulebook.Pattern
