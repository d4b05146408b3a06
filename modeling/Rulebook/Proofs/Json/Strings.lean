import Rulebook.Json.Reader
import Rulebook.Json.Writer

/-!
# Strings that are read back

A text is read back from its JSON string, whatever follows it: every character is read back from
what stands for it between the quotes.
-/

namespace Rulebook.Json

/-- The escapes of control characters have four hexadecimal digits, which stand for them. -/
theorem hexDigits_facts : ∀ point < 0x20, (Text.hexDigits 4 point).length = 4 ∧
    (Text.hexDigits 4 point).all Text.isHexDigit = true ∧
      Text.hexValue (Text.hexDigits 4 point) = point := by
  decide

theorem readCode_hexDigits {point : Nat} (control : point < 0x20) (c : Char) (rest : List Char) :
    readCode ('u' :: Text.hexDigits 4 point ++ c :: rest) = .ok (Char.ofNat point, c :: rest) := by
  obtain ⟨four, hexadecimal, value⟩ := hexDigits_facts point control
  generalize Text.hexDigits 4 point = digits at four hexadecimal value
  have quad : hexQuad? (digits ++ c :: rest) = some (point, c :: rest) := by
    rcases digits with _ | ⟨d₁, _ | ⟨d₂, _ | ⟨d₃, _ | ⟨d₄, _ | ⟨d₅, digits⟩⟩⟩⟩⟩
    case cons.cons.cons.cons.nil =>
      rw [← value, List.cons_append, List.cons_append, List.cons_append, List.cons_append,
        List.nil_append, hexQuad?, if_pos hexadecimal]
    all_goals simp at four
  have low : ¬ 0xD800 ≤ point := by omega
  rw [readCode, List.cons_append, List.tail_cons, quad]
  simp [charOf, low]

/-- What stands for a character between quotes is an escape with a letter, an escape with
hexadecimal digits, or the character itself. -/
theorem escapeChar_cases (c : Char) :
    (∃ letter, escaped? letter = some c ∧ escapeChar c = ['\\', letter]) ∨
      (c.toNat < 0x20 ∧ escapeChar c = '\\' :: 'u' :: Text.hexDigits 4 c.toNat) ∨
        c ≠ '"' ∧ c ≠ '\\' ∧ ¬ c.toNat < 0x20 ∧ escapeChar c = [c] := by
  have numbered {point : Nat} (same : c.toNat = point) : Char.ofNat point = c := by
    rw [← same, Char.ofNat_toNat]
  fun_cases escapeChar c with
  | case1 same => exact .inl ⟨'"', congrArg some same.symm, rfl⟩
  | case2 _ same => exact .inl ⟨'\\', congrArg some same.symm, rfl⟩
  | case3 _ _ same => exact .inl ⟨'n', congrArg some same.symm, rfl⟩
  | case4 _ _ _ same => exact .inl ⟨'r', congrArg some same.symm, rfl⟩
  | case5 _ _ _ _ same => exact .inl ⟨'t', congrArg some same.symm, rfl⟩
  | case6 _ _ _ _ _ same => exact .inl ⟨'b', congrArg some (numbered same), rfl⟩
  | case7 _ _ _ _ _ _ same => exact .inl ⟨'f', congrArg some (numbered same), rfl⟩
  | case8 _ _ _ _ _ _ _ control => exact .inr (.inl ⟨control, rfl⟩)
  | case9 noQuote noBackslash _ _ _ _ _ noControl =>
      exact .inr (.inr ⟨noQuote, noBackslash, noControl, rfl⟩)

/-- What stands for a character between quotes is read as the character. -/
theorem readChars_escapeChar (opening : List Char) (steps : Nat) (taken : List Char) (c : Char)
    {behind : List Char} (more : behind ≠ []) :
    readChars opening (steps + 1) taken (escapeChar c ++ behind) =
      readChars opening steps (c :: taken) behind := by
  obtain ⟨next, rest, rfl⟩ := List.exists_cons_of_ne_nil more
  rcases escapeChar_cases c with
    ⟨letter, stands, form⟩ | ⟨control, form⟩ | ⟨noQuote, noBackslash, noControl, form⟩
  · have noCode : letter ≠ 'u' := by
      rintro rfl
      cases stands
    rw [form, List.cons_append, List.cons_append, List.nil_append, readChars]
    · rw [stands]
    · exact noCode
  · have read := readCode_hexDigits control next rest
    rw [Char.ofNat_toNat] at read
    rw [form, List.cons_append, List.cons_append, readChars]
    rw [← List.cons_append, read]
  · rw [form, List.cons_append, List.nil_append, readChars]
    · rw [if_neg noControl]
    · exact noQuote
    · exact noBackslash

/-- The characters of a text are read up to the closing quote. -/
theorem readChars_flatMap (opening rest : List Char) {steps : Nat} (taken : List Char)
    {characters : List Char} (enough : characters.length < steps) :
    readChars opening steps taken (characters.flatMap escapeChar ++ '"' :: rest) =
      .ok (String.ofList (taken.reverse ++ characters), rest) := by
  induction characters generalizing steps taken with
  | nil =>
      obtain ⟨steps, rfl⟩ := Nat.exists_eq_add_of_lt enough
      rw [List.flatMap_nil, List.nil_append, readChars, List.append_nil]
  | cons c characters ih =>
      obtain ⟨steps, rfl⟩ : ∃ fewer, steps = fewer + 1 :=
        Nat.exists_eq_add_of_le' (Nat.le_trans (Nat.le_add_left 1 _) enough)
      rw [List.flatMap_cons, List.append_assoc, readChars_escapeChar _ _ _ _ (by simp),
        ih _ (Nat.lt_of_succ_lt_succ enough), List.reverse_cons, List.append_assoc,
        List.singleton_append]

theorem length_le_length_flatMap (characters : List Char) :
    characters.length ≤ (characters.flatMap escapeChar).length := by
  induction characters with
  | nil => exact Nat.le_refl 0
  | cons c characters ih =>
      have one : 1 ≤ (escapeChar c).length := by
        rcases escapeChar_cases c with ⟨letter, -, form⟩ | ⟨-, form⟩ | ⟨-, -, -, form⟩ <;>
          simp [form]
      rw [List.length_cons, List.flatMap_cons, List.length_append]
      omega

/-- A text is read back from its string. -/
theorem readText_writeText (text : String) (rest : List Char) :
    readText (writeText text ++ rest) = .ok (text, rest) := by
  have form : writeText text ++ rest =
      '"' :: (text.toList.flatMap escapeChar ++ '"' :: rest) := by
    simp [writeText]
  have enough : text.toList.length < (writeText text ++ rest).length := by
    have long := length_le_length_flatMap text.toList
    rw [form, List.length_cons, List.length_append]
    omega
  rw [readText, form, List.tail_cons, ← form, readChars_flatMap _ _ _ enough, List.reverse_nil,
    List.nil_append, String.ofList_toList]

end Rulebook.Json
