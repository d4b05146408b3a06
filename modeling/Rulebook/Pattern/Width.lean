import Rulebook.Pattern.Syntax

/-!
# Widths of patterns

How many characters a pattern can match.  A look-behind is allowed only where the two bounds agree.
-/

namespace Rulebook.Pattern

namespace Width

/-- The bound beyond which widths are not told apart. -/
def limit : Nat := Nat.pow 2 64

/-- The width of nothing. -/
def zero : Width := ⟨0, 0⟩

/-- The width of one character. -/
def one : Width := ⟨1, 1⟩

/-- The width of a sequence of two parts. -/
def add (left right : Width) : Width := ⟨left.least + right.least, left.most + right.most⟩

/-- The width of either of two parts. -/
def union (left right : Width) : Width := ⟨min left.least right.least, max left.most right.most⟩

/-- The width of a repetition. -/
def times (width : Width) (least : Nat) (most : Option Nat) : Width :=
  { least := width.least * least
    most := match most with
      | some most => width.most * most
      | none => if width.most = 0 then 0 else limit }

/-- A width with its bounds cut off at the limit. -/
def limited (width : Width) : Width := ⟨min width.least limit, min width.most limit⟩

end Width

mutual

/-- The width of one piece. -/
def Piece.width : Piece → Width
  | .point _ | .otherThan _ | .anyChar | .set _ => .one
  | .anchor _ | .look .. => .zero
  | .group _ _ _ body | .atomic body => (totalWidth body).limited
  | .repeated _ least most body => (totalWidth body).limited.times least most
  | .choice alternatives => widthOfChoice alternatives
  | .reference _ width => width
  | .conditional _ matched unmatched =>
      (totalWidth matched).limited.union (totalWidth unmatched).limited

/-- The sum of the widths of a sequence. -/
def totalWidth : List Piece → Width
  | [] => .zero
  | piece :: pieces => piece.width.add (totalWidth pieces)

/-- The width of a choice. -/
def widthOfChoice : List (List Piece) → Width
  | [] => ⟨Width.limit, 0⟩
  | pieces :: rest => (totalWidth pieces).limited.union (widthOfChoice rest)

end

/-- The width of a sequence. -/
def widthOf (pieces : List Piece) : Width :=
  (totalWidth pieces).limited

end Rulebook.Pattern
