import Switchboard.Json.Strings
import Switchboard.Json.Printer
import Switchboard.Proofs.Json.Tokens
import Switchboard.Proofs.Text.Digits

/-!
Reading strings. A character has many spellings inside a string; the reader takes each of them for the
character, and the printer writes one of them.
-/

namespace Switchboard.Json

/-- The ways to write a character inside a string. -/
inductive CharSpelling : List Char → Char → Prop
  | plain (c : Char) : 0x20 ≤ c.toNat → c ≠ '"' → c ≠ '\\' → CharSpelling [c] c
  | simple (letter c : Char) : Cursor.simpleEscape? letter = some c → CharSpelling ['\\', letter] c
  | unicode (digits : List Char) (n : Nat) :
    digits.length = 4 → hexNumber? digits = some n → n < 0xd800 ∨ 0xdfff < n →
      CharSpelling ('\\' :: 'u' :: digits) (Char.ofNat n)
  /-- A character beyond the first plane is written as two halves. -/
  | pair (upper lower : List Char) (high low : Nat) :
    upper.length = 4 → hexNumber? upper = some high → 0xd800 ≤ high → high ≤ 0xdbff →
    lower.length = 4 → hexNumber? lower = some low → 0xdc00 ≤ low → low ≤ 0xdfff →
      CharSpelling ('\\' :: 'u' :: (upper ++ '\\' :: 'u' :: lower))
        (Char.ofNat (0x10000 + (high - 0xd800) * 0x400 + (low - 0xdc00)))

theorem CharSpelling.ne_nil {spelled : List Char} {c : Char} (spelling : CharSpelling spelled c) :
    spelled ≠ [] := by
  cases spelling <;> exact List.cons_ne_nil _ _

/-- The ways to write the characters of a string. -/
inductive TextSpelling : List Char → List Char → Prop
  | nil : TextSpelling [] []
  | cons {spelled more : List Char} {c : Char} {text : List Char} :
    CharSpelling spelled c → TextSpelling more text → TextSpelling (spelled ++ more) (c :: text)

theorem TextSpelling.length_le {spelled text : List Char} (spelling : TextSpelling spelled text) :
    text.length ≤ spelled.length := by
  induction spelling with
  | nil => exact Nat.le_refl 0
  | cons char _ ih =>
      have := List.length_pos_iff.mpr char.ne_nil
      rw [List.length_cons, List.length_append]
      omega

theorem length_le_byteLength (chars : List Char) : chars.length ≤ byteLength chars := by
  have each (chars : List Char) (n : Nat) :
      n + chars.length ≤ chars.foldl (fun n c => n + c.utf8Size) n := by
    induction chars generalizing n with
    | nil => exact Nat.le_refl n
    | cons c rest ih =>
        have size := Char.utf8Size_pos c
        have rest := ih (n + c.utf8Size)
        rw [List.foldl_cons, List.length_cons]
        omega
  simpa [byteLength] using each chars 0

namespace Cursor

variable {at' : Cursor} {more : List Char}

theorem fourHexDigits_eq {digits : List Char} {n : Nat} (length : digits.length = 4)
    (number : hexNumber? digits = some n) (h : at'.rest = digits ++ more) :
    ∃ next : Cursor, next.rest = more ∧ at'.fourHexDigits = .ok (n, next) := by
  have four : at'.rest.take 4 = digits := by rw [h, ← length, List.take_left']; rfl
  have rest : at'.rest.drop 4 = more := by rw [h, ← length, List.drop_left']; rfl
  have enough : ¬byteLength digits < 4 := by
    have := length_le_byteLength digits
    omega
  refine ⟨⟨more, at'.offset + 4⟩, rfl, ?_⟩
  simp only [fourHexDigits, four, rest, number, if_neg enough]

theorem pairMark_eq {mark : Char} (h : at'.rest = mark :: more) :
    ∃ next : Cursor, next.rest = more ∧ pairMark mark at' = .ok next := by
  refine ⟨at'.advance, advance_rest h, ?_⟩
  simp only [pairMark, h, BEq.rfl, if_true]

theorem unicodeEscape_eq {digits : List Char} {n : Nat} (length : digits.length = 4)
    (number : hexNumber? digits = some n) (whole : n < 0xd800 ∨ 0xdfff < n)
    (h : at'.rest = digits ++ more) :
    ∃ next : Cursor, next.rest = more ∧ at'.unicodeEscape = .ok (Char.ofNat n, next) := by
  obtain ⟨next, rest, read⟩ := fourHexDigits_eq length number h
  refine ⟨next, rest, ?_⟩
  have notLow : ¬(0xdc00 ≤ n ∧ n ≤ 0xdfff) := by omega
  have notHigh : n < 0xd800 ∨ 0xdbff < n := by omega
  simp only [unicodeEscape, read, if_neg notLow, if_pos notHigh]

theorem unicodeEscape_pair {upper lower : List Char} {high low : Nat} (length : upper.length = 4)
    (number : hexNumber? upper = some high) (atLeast : 0xd800 ≤ high) (atMost : high ≤ 0xdbff)
    (length' : lower.length = 4) (number' : hexNumber? lower = some low) (atLeast' : 0xdc00 ≤ low)
    (atMost' : low ≤ 0xdfff) (h : at'.rest = upper ++ '\\' :: 'u' :: (lower ++ more)) :
    ∃ next : Cursor, next.rest = more ∧ at'.unicodeEscape =
      .ok (Char.ofNat (0x10000 + (high - 0xd800) * 0x400 + (low - 0xdc00)), next) := by
  obtain ⟨next, rest, read⟩ := fourHexDigits_eq length number h
  obtain ⟨slash, rest, mark⟩ := pairMark_eq rest
  obtain ⟨letter, rest, mark'⟩ := pairMark_eq rest
  obtain ⟨last, rest, read'⟩ := fourHexDigits_eq length' number' rest
  refine ⟨last, rest, ?_⟩
  have notLow : ¬(0xdc00 ≤ high ∧ high ≤ 0xdfff) := by omega
  have isHigh : ¬(high < 0xd800 ∨ 0xdbff < high) := by omega
  have isLow : ¬(low < 0xdc00 ∨ 0xdfff < low) := by omega
  simp only [unicodeEscape, read, if_neg notLow, if_neg isHigh, mark, mark', read', if_neg isLow]

theorem escape_simple {letter c : Char} (stands : simpleEscape? letter = some c)
    (h : at'.rest = letter :: more) :
    ∃ next : Cursor, next.rest = more ∧ at'.escape = .ok (c, next) := by
  refine ⟨at'.advance, advance_rest h, ?_⟩
  have noUnicode : letter ≠ 'u' := by
    rintro rfl
    cases stands
  rw [escape, h]
  split
  case h_1 heq => cases heq
  case h_2 heq =>
    cases heq
    exact absurd rfl noUnicode
  case h_3 heq =>
    cases heq
    simp only [stands]

theorem escape_unicode {next : Cursor} {c : Char} (h : at'.rest = 'u' :: more)
    (read : at'.advance.unicodeEscape = .ok (c, next)) : at'.escape = .ok (c, next) := by
  simp only [escape, h, read]

theorem stringTail_char {spelled : List Char} {c : Char} (spelling : CharSpelling spelled c)
    (h : at'.rest = spelled ++ more) (fuel : Nat) (before : List Char) :
    ∃ next : Cursor, next.rest = more ∧
      stringTail (fuel + 1) before at' = stringTail fuel (c :: before) next := by
  -- Every spelling but the plain one starts with a backslash.
  have escaped {letters : List Char} {c : Char} (h : at'.rest = '\\' :: letters)
      (read : ∃ next : Cursor, next.rest = more ∧ at'.advance.escape = .ok (c, next)) :
      ∃ next : Cursor, next.rest = more ∧
        stringTail (fuel + 1) before at' = stringTail fuel (c :: before) next := by
    obtain ⟨next, rest, read⟩ := read
    refine ⟨next, rest, ?_⟩
    simp only [stringTail, h, read]
  cases spelling with
  | plain _ printable noQuote noSlash =>
      refine ⟨at'.advance, advance_rest h, ?_⟩
      rw [stringTail, h]
      split
      case h_1 heq => cases heq
      case h_2 heq =>
        cases heq
        exact absurd rfl noQuote
      case h_3 heq =>
        cases heq
        exact absurd rfl noSlash
      case h_4 heq =>
        cases heq
        rw [if_neg (by omega)]
  | simple letter _ stands => exact escaped h (escape_simple stands (advance_rest h))
  | unicode digits n length number whole =>
      have rest := advance_rest h
      obtain ⟨next, left, read⟩ := unicodeEscape_eq length number whole (advance_rest rest)
      exact escaped h ⟨next, left, escape_unicode rest read⟩
  | pair upper lower high low length number atLeast atMost length' number' atLeast' atMost' =>
      have rest := advance_rest h
      have halves := advance_rest rest
      rw [List.append_eq, List.append_assoc] at halves
      obtain ⟨next, left, read⟩ := unicodeEscape_pair length number atLeast atMost length' number'
        atLeast' atMost' halves
      exact escaped h ⟨next, left, escape_unicode rest read⟩

theorem stringTail_eq {spelled text : List Char} (spelling : TextSpelling spelled text)
    {at' : Cursor} (h : at'.rest = spelled ++ '"' :: more) {fuel : Nat}
    (enough : text.length < fuel) (before : List Char) :
    ∃ next : Cursor, next.rest = more ∧
      stringTail fuel before at' = .ok (String.ofList (before.reverse ++ text), next) := by
  induction spelling generalizing at' fuel before with
  | nil =>
      obtain ⟨fuel, rfl⟩ : ∃ n, fuel = n + 1 := ⟨fuel - 1, by simp at enough; omega⟩
      refine ⟨at'.advance, advance_rest h, ?_⟩
      simp only [stringTail, h, List.nil_append, List.append_nil]
  | cons char _ ih =>
      obtain ⟨fuel, rfl⟩ : ∃ n, fuel = n + 1 := ⟨fuel - 1, by simp at enough; omega⟩
      rw [List.append_assoc] at h
      obtain ⟨next, left, step⟩ := stringTail_char char h fuel before
      obtain ⟨last, rest, read⟩ := ih left (by simpa using enough) (_ :: before)
      refine ⟨last, rest, ?_⟩
      rw [step, read, List.reverse_cons, List.append_assoc]
      rfl

theorem string_eq {spelled text : List Char} (spelling : TextSpelling spelled text)
    (h : at'.rest = '"' :: (spelled ++ '"' :: more)) :
    ∃ next : Cursor, next.rest = more ∧ at'.string = .ok (String.ofList text, next) := by
  have enough : text.length < at'.rest.length + 1 := by
    have := spelling.length_le
    rw [h, List.length_cons, List.length_append]
    omega
  exact stringTail_eq spelling (advance_rest h) enough []

end Cursor

theorem charSpelling_escapeChar (c : Char) : CharSpelling (escapeChar c) c := by
  unfold escapeChar
  split
  case h_8 noQuote noSlash _ _ _ _ _ =>
    split
    case isTrue low =>
      have high := hexDigitValue?_digitChar (c.toNat / 16) (by omega)
      have last := hexDigitValue?_digitChar (c.toNat % 16) (by omega)
      have number : hexNumber? ['0', '0', Nat.digitChar (c.toNat / 16), Nat.digitChar (c.toNat % 16)] =
          some c.toNat := by
        have zero : hexDigitValue? '0' = some 0 := by decide
        simp only [hexNumber?, List.foldl_cons, List.foldl_nil, Option.bind_some, Option.map_some,
          zero, high, last]
        exact congrArg some (by omega)
      have spelling := CharSpelling.unicode _ _ rfl number (.inl (by omega))
      rw [Char.ofNat_toNat] at spelling
      exact spelling
    case isFalse printable => exact .plain c (by omega) noQuote noSlash
  all_goals exact .simple _ _ (by decide)

theorem textSpelling_flatMap (text : List Char) :
    TextSpelling (text.flatMap escapeChar) text := by
  induction text with
  | nil => exact .nil
  | cons c rest ih => exact .cons (charSpelling_escapeChar c) ih

namespace Cursor

theorem string_stringChars {at' : Cursor} {more : List Char} {s : String}
    (h : at'.rest = stringChars s ++ more) :
    ∃ next : Cursor, next.rest = more ∧ at'.string = .ok (s, next) := by
  rw [stringChars, List.cons_append, List.append_assoc] at h
  obtain ⟨next, rest, read⟩ := string_eq (textSpelling_flatMap s.toList) h
  refine ⟨next, rest, ?_⟩
  rw [read, String.ofList_toList]

end Cursor

end Switchboard.Json
