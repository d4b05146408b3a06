import Rulebook.Condition.Apply
import Rulebook.Proofs.Calendar.DateText
import Rulebook.Proofs.Text.Split
import Rulebook.Rule.Portable

/-!
# Reading written operands

The portable form writes the native dates among the operands of a condition as texts, and fixed
sequences as lists.  A text, and a point in time up to the fraction of a second that its offset may
have, reads the same in both forms; a number or a truth value is never read from a native date, and
is refused for another reason when the date has become a text.
-/

namespace Rulebook

namespace Value

/-- The text that the portable form has in place of a native date. -/
def written? : Value → Option String
  | date value => some value.isoText
  | dateTime value => some value.isoText
  | _ => none

theorem portable_of_written {value : Value} {written : String}
    (native : value.written? = some written) : value.portable = .text written := by
  cases value <;> cases native <;> rfl

@[simp]
theorem isNull_portable (value : Value) : value.portable.isNull = value.isNull := by
  cases value <;> rfl

end Value

/-- Whether the offset of a point in time, if it has one, is nothing or at least a second. -/
def DateTime.hasWholeOffset (moment : DateTime) : Bool :=
  moment.offset.all fun offset => offset.micros = 0 || 1000000 ≤ offset.micros.natAbs

namespace Value

/-- Whether an operand reads as a type in the same way when it is written in portable form. -/
def rereadsAs (value : Value) : ValueType → Bool
  | .string => true
  | .date =>
      match value with
      | dateTime moment => moment.hasWholeOffset
      | _ => true
  | .number | .boolean | .unknown => value.written?.isNone

end Value

/-! ## Texts of dates -/

theorem trim_of_isDateChar {chars : List Char} (written : ∀ c ∈ chars, isDateChar c = true) :
    Text.trim (String.ofList chars) = String.ofList chars := by
  rw [Text.trim, String.toList_ofList,
    Text.trimWhile_eq_self fun c member => isBlank_of_isDateChar (written c member)]

theorem isEmpty_ofList_cons (c : Char) (chars : List Char) :
    (String.ofList (c :: chars)).isEmpty = false := by
  rw [Bool.eq_false_iff, ne_eq, String.isEmpty_iff, ← String.toList_inj, String.toList_ofList]
  exact List.cons_ne_nil c chars

namespace DateTime

theorem readBack_withOffset {moment : DateTime} (whole : moment.hasWholeOffset = true) :
    moment.readBack.withOffset = moment.withOffset := by
  obtain ⟨date, time, offset⟩ := moment
  cases offset with
  | none => rfl
  | some offset =>
      have kept : offset.readBack = offset := by
        rw [UtcOffset.readBack]
        split
        · rename_i short
          obtain ⟨micros, inDay⟩ := offset
          simp only [hasWholeOffset, Option.all_some, Bool.or_eq_true, decide_eq_true_eq] at whole
          have zero : micros = 0 := whole.resolve_right (Nat.not_le.mpr short)
          cases zero
          rfl
        · rfl
      simp only [readBack, withOffset, Option.map_some, kept]

end DateTime

namespace Value

theorem momentOfText_of_read? {chars : List Char} {moment : DateTime}
    (written : ∀ c ∈ chars, isDateChar c = true) (read : DateText.read? chars = some moment) :
    momentOfText (String.ofList chars) = .ok moment := by
  have given : (String.ofList chars).isEmpty = false := by
    cases chars with
    | nil => cases read
    | cons c chars => exact isEmpty_ofList_cons c chars
  rw [momentOfText, trim_of_isDateChar written]
  simp only [given, String.toList_ofList, read]
  rfl

theorem toMoment_isoText_date (date : Date) :
    (text date.isoText).toMoment = .ok (DateTime.ofDate date).withOffset := by
  have read := momentOfText_of_read? (fun c => date.isDateChar_of_mem) (DateText.read?_date date)
  rw [toMoment, Date.isoText]
  rw [read]
  rfl

theorem toMoment_isoText_dateTime (moment : DateTime) :
    (text moment.isoText).toMoment = .ok moment.readBack.withOffset := by
  have read := momentOfText_of_read? (fun c => moment.isDateChar_of_mem)
    (DateText.read?_dateTime moment)
  rw [toMoment, DateTime.isoText]
  rw [read]
  rfl

theorem toText_portable (value : Value) : value.portable.toText = value.toText := by
  cases value <;> rfl

theorem toMoment_portable {value : Value} (kept : value.rereadsAs .date = true) :
    value.portable.toMoment = value.toMoment := by
  cases value with
  | date value => exact toMoment_isoText_date value
  | dateTime moment =>
      rw [portable, toMoment_isoText_dateTime, DateTime.readBack_withOffset kept]
      rfl
  | _ => rfl

end Value

theorem portable_tuple_or_eq {value : Value} (plain : value.written? = none) :
    (∃ items, value = .tuple items) ∨ value.portable = value := by
  cases value with
  | date value => cases plain
  | dateTime value => cases plain
  | tuple items => exact .inl ⟨items, rfl⟩
  | _ => exact .inr rfl

/-- An operand that rereads as a type is read as that type in the same way. -/
theorem ValueType.read_portable {type : ValueType} {value : Value}
    (kept : value.rereadsAs type = true) : type.read value.portable = type.read value := by
  cases type with
  | string => rw [read, read, Value.toText_portable]
  | date => rw [read, read, Value.toMoment_portable kept]
  | _ =>
      rcases portable_tuple_or_eq (Option.isNone_iff_eq_none.mp kept) with ⟨items, rfl⟩ | same
      · rfl
      · rw [same]

/-! ## Written dates are no numbers -/

theorem toAsciiDigit_of_isDateChar {c : Char} (written : isDateChar c = true) :
    Text.toAsciiDigit c = c := by
  simp only [isDateChar, Bool.or_eq_true, decide_eq_true_eq] at written
  rcases written with ((((digit | rfl) | rfl) | rfl) | rfl) | rfl
  · have range := Char.isDigit_iff_toNat.mp digit
    have low : 48 ≤ c.toNat := range.1
    have high : c.toNat ≤ 57 := range.2
    have value : Text.decimalValue? c = some (c.toNat - 48) := by
      rw [Text.decimalValue?, Text.decimalZeros, List.findSome?_cons]
      simp [low, high]
    have whole : '0'.toNat + (c.toNat - 48) = c.toNat := by
      rw [show '0'.toNat = 48 from rfl]
      omega
    rw [Text.toAsciiDigit, value]
    dsimp only
    rw [Text.asciiDigit, whole, Char.ofNat_toNat]
  all_goals rfl

theorem normalized_of_isDateChar {chars : List Char} (written : ∀ c ∈ chars, isDateChar c = true) :
    Numeral.normalized chars = chars := by
  rw [Numeral.normalized,
    Text.trimWhile_eq_self fun c member => isBlank_of_isDateChar (written c member)]
  calc chars.map Text.toAsciiDigit = chars.map id :=
        List.map_congr_left fun c member => toAsciiDigit_of_isDateChar (written c member)
    _ = chars := List.map_id chars

theorem splitSign_of_isDigit {first : Char} (digit : first.isDigit = true) (text : List Char) :
    Numeral.splitSign (first :: text) = (false, first :: text) := by
  have minus : first ≠ '-' := ne_of_isDigit digit rfl
  have plus : first ≠ '+' := ne_of_isDigit digit rfl
  simp [Numeral.splitSign, minus, plus]

theorem word?_of_length {negative : Bool} {text : List Char} (long : 8 < text.length) :
    Numeral.word? negative text = none := by
  have other (word : List Char) (short : word.length ≤ 8) : text.map Char.toLower ≠ word := by
    intro same
    have width := congrArg List.length same
    rw [List.length_map] at width
    omega
  have inf := other "inf".toList (by simp)
  have infinity := other "infinity".toList (by simp)
  have nan := other "nan".toList (by simp)
  unfold Numeral.word?
  rw [if_neg (by simp only [inf, infinity, decide_false, Bool.or_self]; decide), if_neg nan]

theorem decimal?_hyphen {negative : Bool} {digits behind : List Char} (given : digits ≠ [])
    (all : ∀ c ∈ digits, c.isDigit = true) :
    Numeral.decimal? negative (digits ++ '-' :: behind) = none := by
  have whole : (digits ++ '-' :: behind).takeWhile Char.isDigit = digits := by
    rw [List.takeWhile_append_of_pos all, List.takeWhile_cons_of_neg (by decide), List.append_nil]
  have empty : digits.isEmpty = false := by
    rw [Bool.eq_false_iff, ne_eq, List.isEmpty_iff]
    exact given
  rw [Numeral.decimal?, whole]
  simp [empty]

/-- A year with a hyphen behind it is not the start of a number. -/
theorem float?_date (date : Date) {rest : List Char}
    (written : ∀ c ∈ rest, isDateChar c = true) :
    Numeral.float? (date.isoChars ++ rest) = none := by
  have all : ∀ c ∈ date.isoChars ++ rest, isDateChar c = true := by
    intro c member
    rcases List.mem_append.mp member with inDate | behind
    · exact date.isDateChar_of_mem inDate
    · exact written c behind
  have noScores : (date.isoChars ++ rest).filter (· != '_') = date.isoChars ++ rest := by
    rw [List.filter_eq_self]
    intro c member
    rw [bne_iff_ne]
    rintro rfl
    cases all '_' member
  have long : 8 < (date.isoChars ++ rest).length := by
    rw [List.length_append, date.length_isoChars]
    omega
  obtain ⟨first, digits, year⟩ : ∃ first digits, paddedDigits 4 date.year = first :: digits :=
    ⟨_, _, rfl⟩
  have areDigits : ∀ c ∈ first :: digits, c.isDigit = true := by
    rw [← year]
    exact fun c => isDigit_of_mem_paddedDigits
  have form : date.isoChars ++ rest = first :: digits ++ '-' ::
      (paddedDigits 2 date.month ++ '-' :: paddedDigits 2 date.day ++ rest) := by
    rw [Date.isoChars, year, List.append_assoc, List.append_assoc]
    rfl
  have signless : Numeral.splitSign (date.isoChars ++ rest) = (false, date.isoChars ++ rest) := by
    rw [form]
    exact splitSign_of_isDigit (areDigits first List.mem_cons_self) _
  have noDecimal : Numeral.decimal? false (date.isoChars ++ rest) = none := by
    rw [form]
    exact decimal?_hyphen (List.cons_ne_nil _ _) areDigits
  rw [Numeral.float?, normalized_of_isDateChar all, noScores, signless]
  dsimp only
  rw [word?_of_length long, noDecimal]
  exact ite_self _

namespace Value

/-- The text of a native date is refused as a number. -/
theorem toNumber_of_written {value : Value} {written : String}
    (native : value.written? = some written) :
    (text written).toNumber = refuse (.badText written .number) := by
  have unread : Numeral.float? written.toList = none := by
    cases value with
    | date date =>
        cases native
        have none := float?_date date (List.forall_mem_nil (isDateChar · = true))
        rwa [List.append_nil, ← String.toList_ofList (l := date.isoChars)] at none
    | dateTime moment =>
        cases native
        have parts : moment.isoCharsWith 'T' = moment.date.isoChars ++
            ('T' :: moment.time.isoChars ++ IsoText.offsetChars moment.offset) :=
          List.append_assoc _ _ _
        rw [DateTime.isoText, String.toList_ofList, parts]
        refine float?_date moment.date fun c member => moment.isDateChar_of_mem ?_
        rw [parts]
        exact List.mem_append_right _ member
    | _ => cases native
  rw [toNumber, unread]
  rfl

theorem toNumber_native {value : Value} (native : value.written?.isSome = true) :
    value.toNumber = refuse (.wrongKind .other .number) := by
  cases value <;> cases native <;> rfl

end Value

/-! ## Lists -/

/-- The members of a list are read alike in both forms, and passed over alike. -/
theorem readable_portableItems {type : ValueType} (isNumber : type = .string ∨ type = .number)
    (items : List Value) : readable type (Value.portableItems items) = readable type items := by
  induction items with
  | nil => rfl
  | cons item items ih =>
      rw [Value.portableItems, readable, readable, ih]
      by_cases kept : item.rereadsAs type = true
      · rw [ValueType.read_portable kept]
      · rcases isNumber with rfl | rfl
        · exact (kept rfl).elim
        · rw [Value.rereadsAs, Option.isNone_iff_eq_none, ← ne_eq, Option.ne_none_iff_exists']
            at kept
          obtain ⟨written, native⟩ := kept
          rw [ValueType.read, ValueType.read, Value.portable_of_written native,
            Value.toNumber_of_written native,
            Value.toNumber_native (Option.isSome_of_eq_some native)]
          rfl

end Rulebook
