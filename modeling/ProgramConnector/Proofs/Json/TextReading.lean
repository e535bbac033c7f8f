import ProgramConnector.Json.Printer
import ProgramConnector.Json.Reader

/-!
# Reading printed texts

A text that is printed between quotes is read back as it is, whatever characters it holds and
whatever stands behind it.
-/

namespace ProgramConnector.Json

/-- The value of a printed hexadecimal digit. -/
theorem hexValue?_hexDigit (n : Nat) : hexValue? (hexDigit n) = some (n % 16) := by
  have hall : ∀ m < 16, hexValue? (Nat.digitChar m) = some m := by decide
  exact hall (n % 16) (Nat.mod_lt n (by decide))

/-- The value of the code of a character below the space. -/
theorem hexQuad?_of_lt {n : Nat} (h : n < 32) :
    hexQuad? '0' '0' (hexDigit (n / 16)) (hexDigit n) = some n := by
  have hzero : hexValue? '0' = some 0 := by decide
  have hhigh : n / 16 % 16 = n / 16 := Nat.mod_eq_of_lt (by omega)
  unfold hexQuad?
  rw [hzero, hexValue?_hexDigit, hexValue?_hexDigit, hhigh]
  simp only [Option.bind_eq_bind, Option.bind_some, Option.pure_def, Option.some.injEq]
  omega

/-- A hexadecimal digit is a letter or a digit, so it is no other character. -/
theorem hexDigit_ne {c : Char} (h : c.isAlphanum = false) (n : Nat) : hexDigit n ≠ c := by
  have hall : ∀ m < 16, (Nat.digitChar m).isAlphanum = true := by decide
  rintro rfl
  have hdigit : (hexDigit n).isAlphanum = true := hall (n % 16) (Nat.mod_lt n (by decide))
  rw [h] at hdigit
  exact Bool.false_ne_true hdigit

/-- A character is printed as a backslash and a letter that stands for it, as its code, or as
itself. -/
theorem escapedChar_cases (c : Char) :
    (∃ letter, letter ≠ 'u' ∧ letterEscape? letter = some c ∧ escapedChar c = ['\\', letter]) ∨
    (c.toNat < 32 ∧ escapedChar c =
      ['\\', 'u', '0', '0', hexDigit (c.toNat / 16), hexDigit c.toNat]) ∨
    (c ≠ '"' ∧ c ≠ '\\' ∧ ¬c.toNat < 32 ∧ escapedChar c = [c]) := by
  by_cases hletter : c ∈ ['"', '\\', '\x08', '\x0c', '\n', '\r', '\t']
  · left
    simp only [List.mem_cons, List.not_mem_nil, or_false] at hletter
    rcases hletter with rfl | rfl | rfl | rfl | rfl | rfl | rfl
    · exact ⟨'"', by decide, rfl, rfl⟩
    · exact ⟨'\\', by decide, rfl, rfl⟩
    · exact ⟨'b', by decide, rfl, rfl⟩
    · exact ⟨'f', by decide, rfl, rfl⟩
    · exact ⟨'n', by decide, rfl, rfl⟩
    · exact ⟨'r', by decide, rfl, rfl⟩
    · exact ⟨'t', by decide, rfl, rfl⟩
  · right
    simp only [List.mem_cons, List.not_mem_nil, or_false, not_or] at hletter
    by_cases hcode : c.toNat < 32
    · exact .inl ⟨hcode, by simp [escapedChar, hletter, hcode]⟩
    · exact .inr ⟨hletter.1, hletter.2.1, hcode, by simp [escapedChar, hletter, hcode]⟩

section Characters

variable {c : Char} {rest : List Char}

/-- A character that is escaped by a letter is read back. -/
theorem textBody_letterEscape {letter : Char} (hletter : letter ≠ 'u')
    (h : letterEscape? letter = some c) :
    textBody none ('\\' :: letter :: rest) = prepend c (textBody none rest) :=
  textBody.eq_5 letter rest c (fun _ _ _ _ _ hu _ => hletter hu) hletter h

/-- A character that is escaped by its code is read back. -/
theorem textBody_codeEscape (h : c.toNat < 32) :
    textBody none ('\\' :: 'u' :: '0' :: '0' :: hexDigit (c.toNat / 16) :: hexDigit c.toNat ::
      rest) = prepend c (textBody none rest) := by
  have hlow : isLowSurrogate c.toNat = false := by
    unfold isLowSurrogate
    rw [Bool.and_eq_false_iff, decide_eq_false_iff_not]
    exact .inl (by omega)
  have hhigh : isHighSurrogate c.toNat = false := by
    unfold isHighSurrogate
    rw [Bool.and_eq_false_iff, decide_eq_false_iff_not]
    exact .inl (by omega)
  rw [textBody]
  simp only [hexQuad?_of_lt h, hlow, hhigh, Bool.false_eq_true, if_false, Char.ofNat_toNat]

/-- A character that is not escaped is read back. -/
theorem textBody_plain (hquote : c ≠ '"') (hslash : c ≠ '\\') (hspace : ¬c.toNat < 32) :
    textBody none (c :: rest) = prepend c (textBody none rest) := by
  rw [textBody.eq_7 none c rest (fun h => absurd h hslash) (fun _ _ _ _ _ h => absurd h hslash)
    (fun _ h => absurd h hslash) fun _ _ h => absurd h hslash]
  simp [hquote, hspace]

/-- A printed character is read back. -/
theorem textBody_escapedChar (c : Char) (rest : List Char) :
    textBody none (escapedChar c ++ rest) = prepend c (textBody none rest) := by
  rcases escapedChar_cases c with ⟨letter, hu, hletter, heq⟩ | ⟨hcode, heq⟩ | ⟨hquote, hslash, hcode,
    heq⟩
  · rw [heq]
    exact textBody_letterEscape hu hletter
  · rw [heq]
    exact textBody_codeEscape hcode
  · rw [heq]
    exact textBody_plain hquote hslash hcode

end Characters

/-- A printed text is read back, up to the quote that closes it. -/
theorem textBody_flatMap_escapedChar (body rest : List Char) :
    textBody none (body.flatMap escapedChar ++ '"' :: rest) = .ok (body, rest) := by
  induction body with
  | nil => rfl
  | cons c body ih =>
    rw [List.flatMap_cons, List.append_assoc, textBody_escapedChar, ih]
    rfl

/-- What is printed for a text is read as this text, with all that stands behind it left. -/
theorem text_of_toText (value : String) (rest : List Char) : ∃ printed,
    (Json.str value).toText.toList = '"' :: printed ∧
      text (printed ++ rest) = .ok (value, rest) := by
  refine ⟨value.toList.flatMap escapedChar ++ ['"'], String.toList_ofList, ?_⟩
  unfold text
  rw [List.append_assoc, List.singleton_append, textBody_flatMap_escapedChar]
  exact congrArg (fun read => Except.ok (read, rest)) String.ofList_toList

end ProgramConnector.Json
