import Rulebook.Pattern.Escape
import Rulebook.Text.Letter

/-!
# Reading patterns

The grammar of patterns: alternatives of sequences of pieces.  Alternatives that start with the
same simple piece share it, and alternatives of one character each make a character set.
-/

namespace Rulebook.Pattern

namespace Reader

/-- The letters of the flags. -/
def flagOf? : Token → Option Flag
  | .plain 'i' => some .ignoreCase
  | .plain 'm' => some .multiline
  | .plain 's' => some .dotAll
  | .plain 'x' => some .verbose
  | .plain 'a' => some .ascii
  | .plain 'u' => some .unicode
  | .plain 't' => some .template
  | _ => none

/-- Whether the token is the letter of a flag, among them one that texts cannot use. -/
def isFlagLetter (token : Token) : Bool :=
  token = .plain 'L' || (flagOf? token).isSome

/-- Whether the token is a letter. -/
def isLetterToken : Token → Bool
  | .plain c => Text.isLetter c
  | .escaped _ => false

/-- Fails at a token, just taken, that is no flag. -/
def failFlag {α : Type} (token : Token) (otherwise : String) : Reader α :=
  failBefore token.chars.length (if isLetterToken token then "unknown flag" else otherwise)

/-- The flags to be added, of which `token` is the first, and the token behind them. -/
def addedFlags : (steps : Nat) → (added : Flags) → Token → Reader (Flags × Token)
  | 0, _, _ => failHere "missing -, : or )"
  | steps + 1, added, token =>
      match flagOf? token with
      | none => failHere "bad inline flags: cannot use 'L' flag with a str pattern"
      | some flag => do
          let added := Flags.including added flag
          if Flags.choosesAlphabet flag && (added.filter Flags.choosesAlphabet) != [flag] then
            failHere "bad inline flags: flags 'a', 'u' and 'L' are incompatible"
          else
            match ← take with
            | none => failHere "missing -, : or )"
            | some token =>
                if token = .plain ')' || token = .plain '-' || token = .plain ':' then
                  return (added, token)
                else if isFlagLetter token then addedFlags steps added token
                else failFlag token "missing -, : or )"

/-- The flags to be removed, of which `token` is the first, up to a colon. -/
def removedFlags : (steps : Nat) → (removed : Flags) → Token → Reader Flags
  | 0, _, _ => failHere "missing :"
  | steps + 1, removed, token => do
      match flagOf? token with
      | none => failHere "bad inline flags: cannot turn off flags 'a', 'u' and 'L'"
      | some flag =>
          if Flags.choosesAlphabet flag then
            failHere "bad inline flags: cannot turn off flags 'a', 'u' and 'L'"
          else
            let removed := Flags.including removed flag
            match ← take with
            | none => failHere "missing :"
            | some token =>
                if token = .plain ':' then return removed
                else if isFlagLetter token then removedFlags steps removed token
                else failFlag token "missing :"

/-- Reads the flags of a group from its first token on: those added and removed in the group, or
`none` when they hold for the whole pattern. -/
def groupFlags (token : Token) : Reader (Option (Flags × Flags)) := do
  let steps ← remaining
  let (added, token) ←
    if token = .plain '-' then pure ([], token) else addedFlags steps [] token
  if token = .plain ')' then
    modify fun reading => { reading with flags := added.foldl Flags.including reading.flags }
    return none
  else if added.contains .template then
    failBefore 1 "bad inline flags: cannot turn on global flag"
  else if token = .plain ':' then return some (added, [])
  else
    match ← take with
    | none => failHere "missing flag"
    | some token =>
        if !isFlagLetter token then failFlag token "missing flag"
        else
          let removed ← removedFlags steps [] token
          if removed.contains .template then
            failBefore 1 "bad inline flags: cannot turn off global flag"
          else if added.any removed.contains then
            failBefore 1 "bad inline flags: flag turned on and off"
          else return some (added, removed)

/-- Fails unless a name, just taken with its closing character, is an identifier. -/
def checkGroupName (name : List Char) : Reader Unit :=
  if Text.isIdentifier name then return ()
  else failBefore (name.length + 1)
    ("bad character in group name " ++ Text.quoted (String.ofList name))

/-- The number of the group with a name, just taken with its closing character. -/
def namedGroup (name : List Char) : Reader Nat := do
  let text := String.ofList name
  match (← get).names.lookup text with
  | some group => return group
  | none => failBefore (name.length + 1) ("unknown group name " ++ Text.quoted text)

/-- A reference to a group by name. -/
def nameReference : Reader Piece := do
  let name ← takeName ')' "group name"
  checkGroupName name
  let group ← namedGroup name
  match ← closedWidth? group with
  | none => failBefore (name.length + 1) "cannot refer to an open group"
  | some width =>
      checkLookBehind group
      return .reference group width

/-- The greatest number of a group, and one more. -/
def groupNumberLimit : Nat := 1073741823

/-- Remembers where a condition first refers to a group by number. -/
def noteCondition (group place : Nat) : Reader Unit :=
  modify fun reading =>
    if reading.conditions.any (·.1 == group) then reading
    else { reading with conditions := reading.conditions ++ [(group, place)] }

/-- The group with a number, just taken with its closing character. -/
def numberedGroup (name : List Char) : Reader Nat := do
  let offset := name.length + 1
  match Numeral.integer? name with
  | .ok (.ofNat 0) => failBefore offset "bad group number"
  | .ok (.ofNat group) =>
      if groupNumberLimit ≤ group then
        failBefore offset ("invalid group reference " ++ toString group)
      else
        noteCondition group ((← position) - offset)
        return group
  | _ =>
      failBefore offset ("bad character in group name " ++ Text.quoted (String.ofList name))

/-- The group that a condition refers to, by name or by number. -/
def conditionGroup : Reader Nat := do
  let name ← takeName ')' "group name"
  let group ← if Text.isIdentifier name then namedGroup name else numberedGroup name
  checkLookBehind group
  return group

/-- Opens a group, with a name when it has one. -/
def openNamedGroup (name : Option (List Char)) : Reader Nat := do
  let group ← openGroup
  match name with
  | none => return group
  | some name =>
      let text := String.ofList name
      match (← get).names.lookup text with
      | some earlier =>
          failBefore (name.length + 1)
            ("redefinition of group name " ++ Text.quoted text ++ " as group " ++
              toString group ++ "; was group " ++ toString earlier)
      | none =>
          modify fun reading => { reading with names := reading.names ++ [(text, group)] }
          return group

/-- One more than the greatest count of a repetition. -/
def repetitionLimit : Nat := 4294967295

/-- The count of a repetition. -/
def repetitionCount (digits : List Char) : Reader Nat :=
  if Numeral.digitLimit < digits.length then throw (.numeralTooLong digits.length)
  else
    let count := Text.decimalNumber digits
    if repetitionLimit ≤ count then throw .repetitionTooLarge else return count

/-- Reads the bounds of a repetition behind its opening brace.  Without a closing brace there are
no bounds, and the brace stands for itself. -/
def bounds? : Reader (Option (Nat × Option Nat)) := do
  let start := (← get).cursor
  if start.next = some (.plain '}') then return none
  else
    let low ← takeWhile Char.isDigit (← remaining)
    let high ← if ← accept ',' then takeWhile Char.isDigit (← remaining) else pure low
    if !(← accept '}') then
      moveTo start
      return none
    else
      let least ← if low.isEmpty then pure 0 else repetitionCount low
      if high.isEmpty then return some (least, none)
      else
        let most ← repetitionCount high
        if most < least then
          failAt start.position "min repeat greater than max repeat"
        else return some (least, some most)

/-- Whether two pieces are the same simple piece. -/
def samePiece : Piece → Piece → Bool
  | .point left, .point right => left == right
  | .otherThan left, .otherThan right => left == right
  | .anyChar, .anyChar => true
  | .set left, .set right => left == right
  | .anchor left, .anchor right => left == right
  | .reference left _, .reference right _ => left == right
  | _, _ => false

/-- Whether an alternative starts with a simple piece. -/
def startsWith (piece : Piece) : List Piece → Bool
  | first :: _ => samePiece piece first
  | [] => false

/-- The simple piece that all alternatives start with. -/
def commonStart? : List (List Piece) → Option Piece
  | (piece :: pieces) :: rest =>
      if ((piece :: pieces) :: rest).all (startsWith piece) then some piece else none
  | _ => none

/-- Moves the pieces that all alternatives start with in front of them.  `steps` bounds their
number. -/
def factor : (steps : Nat) → List (List Piece) → List Piece × List (List Piece)
  | 0, alternatives => ([], alternatives)
  | steps + 1, alternatives =>
      match commonStart? alternatives with
      | some piece =>
          let (front, rest) := factor steps (alternatives.map List.tail)
          (piece :: front, rest)
      | none => ([], alternatives)

/-- The members of an alternative that is a single character or a set. -/
def setItems? : List Piece → Option (List SetItem)
  | [.point value] => some [.point value]
  | [.set { negated := false, items }] => some items
  | _ => none

/-- The pattern for several alternatives. -/
def alternatives : List (List Piece) → List Piece
  | [pieces] => pieces
  | several =>
      let (front, rest) := factor ((several.head?.map List.length).getD 0) several
      match rest.mapM setItems? with
      | some sets => front ++ [.set { negated := false, items := sets.flatten.eraseDups }]
      | none => front ++ [.choice rest]

/-- A sequence with the content of every group that has neither number nor flags put in its
place. -/
def unwrapped (pieces : List Piece) : List Piece :=
  pieces.flatMap fun
    | .group none [] [] body => body
    | piece => [piece]

/-- The last piece of a sequence, read backwards, repeated. -/
def repeatLast (start : Nat) (greed : Greed) (least : Nat) (most : Option Nat) :
    List Piece → Reader (List Piece)
  | [] => failAt start "nothing to repeat"
  | .anchor _ :: _ => failAt start "nothing to repeat"
  | .repeated .. :: _ => failAt start "multiple repeat"
  | .group none [] [] body :: earlier => return .repeated greed least most body :: earlier
  | piece :: earlier => return .repeated greed least most [piece] :: earlier

/-- The greed that a character behind the bounds chooses. -/
def greed : Reader Greed := do
  if ← accept '?' then return .reluctant
  else if ← accept '+' then return .possessive
  else return .greedy

/-- The bounds that a repetition sign stands for. -/
def signBounds? : Char → Option (Nat × Option Nat)
  | '?' => some (0, some 1)
  | '*' => some (0, none)
  | '+' => some (1, none)
  | _ => none

/-- Passes the rest of a line. -/
def passLine : (steps : Nat) → Reader Unit
  | 0 => return ()
  | steps + 1 => do
      match ← take with
      | none => return ()
      | some token => if token = .plain '\n' then return () else passLine steps

/-- Passes a comment group that opened at `start`. -/
def passComment (start : Nat) : (steps : Nat) → Reader Unit
  | 0 => failAt start "missing ), unterminated comment"
  | steps + 1 => do
      match ← take with
      | none => failAt start "missing ), unterminated comment"
      | some token => if token = .plain ')' then return () else passComment start steps

/-- Passes the closing parenthesis of a group that opened at `start`. -/
def close (start : Nat) : Reader Unit := do
  if !(← accept ')') then failAt start "missing ), unterminated subpattern"

/-- The opening of a group. -/
inductive Opening where
  /-- A group of its own; `none` for a group without number. -/
  | plain (name : Option (List Char))
  | modified (added removed : Flags)
  | atomic
  | look (behind negated : Bool)
  | condition
  | comment
  | reference (piece : Piece)
  /-- Flags for the whole pattern. -/
  | globalFlags
  | unnumbered

/-- Reads what follows the opening parenthesis at `start`. -/
def opening : Reader Opening := do
  if !(← accept '?') then return .plain none
  else
    match ← take with
    | none => failHere "unexpected end of pattern"
    | some (.plain 'P') =>
        if ← accept '<' then
          let name ← takeName '>' "group name"
          checkGroupName name
          return .plain (some name)
        else if ← accept '=' then return .reference (← nameReference)
        else
          match ← take with
          | none => failHere "unexpected end of pattern"
          | some token =>
              failBefore (token.chars.length + 2)
                ("unknown extension ?P" ++ String.ofList token.chars)
    | some (.plain ':') => return .unnumbered
    | some (.plain '#') => return .comment
    | some (.plain '=') => return .look false false
    | some (.plain '!') => return .look false true
    | some (.plain '<') =>
        match ← take with
        | none => failHere "unexpected end of pattern"
        | some (.plain '=') => return .look true false
        | some (.plain '!') => return .look true true
        | some token =>
            failBefore (token.chars.length + 2)
              ("unknown extension ?<" ++ String.ofList token.chars)
    | some (.plain '(') => return .condition
    | some (.plain '>') => return .atomic
    | some token =>
        if isFlagLetter token || token = .plain '-' then
          match ← groupFlags token with
          | some (added, removed) => return .modified added removed
          | none => return .globalFlags
        else
          failBefore (token.chars.length + 1)
            ("unknown extension ?" ++ String.ofList token.chars)

mutual

/-- Reads alternatives up to the end of the pattern or a closing parenthesis.  `outermost` holds
for the pattern as a whole, where flags for the whole pattern may stand at the start. -/
def readChoice : (steps : Nat) → (verbose outermost : Bool) → Reader (List Piece)
  | 0, _, _ => failHere "pattern is too long"
  | steps + 1, verbose, outermost => do
      let first ← readSequence steps verbose outermost []
      let rest ← readRest steps verbose outermost
      return alternatives (first :: rest)

/-- Reads the alternatives behind the first one. -/
def readRest : (steps : Nat) → (verbose outermost : Bool) → Reader (List (List Piece))
  | 0, _, _ => failHere "pattern is too long"
  | steps + 1, verbose, outermost => do
      if ← accept '|' then
        let wholeVerbose := (← get).flags.contains .verbose
        let verbose := if outermost then wholeVerbose else verbose
        let next ← readSequence steps verbose false []
        let rest ← readRest steps verbose outermost
        return next :: rest
      else
        return []

/-- Reads pieces up to a bar, a closing parenthesis or the end; `pieces` holds those already read,
the last one first. -/
def readSequence : (steps : Nat) → (verbose atStart : Bool) → (pieces : List Piece) →
    Reader (List Piece)
  | 0, _, _, _ => failHere "pattern is too long"
  | steps + 1, verbose, atStart, pieces => do
      let start ← position
      let token ← peek
      if token = none || token = some (.plain '|') || token = some (.plain ')') then
        return unwrapped pieces.reverse
      else
        match ← take with
        | none => return unwrapped pieces.reverse
        | some (.escaped c) =>
            let piece ← escape start c
            readSequence steps verbose atStart (piece :: pieces)
        | some (.plain c) =>
            if verbose && Text.isAsciiBlank c then readSequence steps verbose atStart pieces
            else if verbose && c = '#' then
              passLine (← remaining)
              readSequence steps verbose atStart pieces
            else if c = '[' then
              let piece ← charSet start
              readSequence steps verbose atStart (piece :: pieces)
            else if c = '(' then
              readGroup steps verbose atStart start pieces
            else if c = '{' then
              match ← bounds? with
              | some (least, most) =>
                  readRepetition steps verbose atStart start least most pieces
              | none => readSequence steps verbose atStart (.point c.toNat :: pieces)
            else
              match signBounds? c with
              | some (least, most) =>
                  readRepetition steps verbose atStart start least most pieces
              | none =>
                  let piece : Piece :=
                    if c = '.' then .anyChar
                    else if c = '^' then .anchor .start
                    else if c = '$' then .anchor .finish
                    else .point c.toNat
                  readSequence steps verbose atStart (piece :: pieces)

/-- Repeats the last piece and goes on.  The piece is checked before the greed is read. -/
def readRepetition : (steps : Nat) → (verbose atStart : Bool) → (start least : Nat) →
    (most : Option Nat) → (pieces : List Piece) → Reader (List Piece)
  | 0, _, _, _, _, _, _ => failHere "pattern is too long"
  | steps + 1, verbose, atStart, start, least, most, pieces => do
      let _ ← repeatLast start .greedy least most pieces
      let pieces ← repeatLast start (← greed) least most pieces
      readSequence steps verbose atStart pieces

/-- Reads a group behind its opening parenthesis at `start` and goes on. -/
def readGroup : (steps : Nat) → (verbose atStart : Bool) → (start : Nat) →
    (pieces : List Piece) → Reader (List Piece)
  | 0, _, _, _, _ => failHere "pattern is too long"
  | steps + 1, verbose, atStart, start, pieces => do
      match ← opening with
      | .comment =>
          passComment start (← remaining)
          readSequence steps verbose atStart pieces
      | .globalFlags =>
          let verbose := (← get).flags.contains .verbose
          if !atStart || !pieces.isEmpty then
            failAt start "global flags not at the start of the expression"
          else
            readSequence steps verbose atStart pieces
      | .reference piece => readSequence steps verbose atStart (piece :: pieces)
      | .look behind negated =>
          let outer := (← get).lookBehindLimit
          if behind && outer.isNone then
            modify fun reading =>
              { reading with lookBehindLimit := some (reading.widths.length + 1) }
          let body ← readChoice steps verbose false
          if behind then modify fun reading => { reading with lookBehindLimit := outer }
          close start
          readSequence steps verbose atStart (.look behind negated body :: pieces)
      | .condition =>
          let group ← conditionGroup
          let matched ← readSequence steps verbose false []
          let unmatched ←
            if ← accept '|' then
              let unmatched ← readSequence steps verbose false []
              if (← peek) = some (.plain '|') then
                failHere "conditional backref with more than two branches"
              else pure unmatched
            else pure []
          close start
          readSequence steps verbose atStart (.conditional group matched unmatched :: pieces)
      | .atomic =>
          let body ← readChoice steps verbose false
          close start
          readSequence steps verbose atStart (.atomic body :: pieces)
      | .unnumbered =>
          let body ← readChoice steps verbose false
          close start
          readSequence steps verbose atStart (.group none [] [] body :: pieces)
      | .modified added removed =>
          let inner := (verbose || added.contains .verbose) && !removed.contains .verbose
          let body ← readChoice steps inner false
          close start
          readSequence steps verbose atStart (.group none added removed body :: pieces)
      | .plain name =>
          let group ← openNamedGroup name
          let body ← readChoice steps verbose false
          close start
          closeGroup group body
          readSequence steps verbose atStart (.group (some group) [] [] body :: pieces)

end

end Reader

end Rulebook.Pattern
