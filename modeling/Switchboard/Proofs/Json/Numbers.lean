import Switchboard.Json.Decoder
import Switchboard.Proofs.Json.Values
import Switchboard.Proofs.Text.Digits

/-!
Reading natural numbers: the decimal digits of a number are read back as that number, as long as it stays
within 64 bits.
-/

namespace Switchboard.Json

section digits

variable {n : Nat}

theorem le_greatestSignificand (small : n < UInt64.size) : n ≤ greatestSignificand :=
  Nat.le_sub_one_of_lt small

theorem le_ofDigitChars (digits : List Char) (start : Nat) :
    start ≤ Nat.ofDigitChars 10 digits start := by
  induction digits generalizing start with
  | nil => exact Nat.le_refl start
  | cons c more ih =>
      have next := ih (10 * start + (c.toNat - '0'.toNat))
      exact Nat.le_trans (by omega) next

/-- All digits are taken while the number they make stays within the bound. -/
theorem extend_eq {bound start : Nat} {digits : List Char}
    (enough : Nat.ofDigitChars 10 digits start ≤ bound) :
    extend bound start digits = (Nat.ofDigitChars 10 digits start, []) := by
  induction digits generalizing start with
  | nil => rfl
  | cons c more ih =>
      have next : ¬bound < 10 * start + Decimal.digitValue c :=
        Nat.not_lt_of_le (Nat.le_trans (le_ofDigitChars more _) enough)
      rw [extend, if_neg next]
      exact ih enough

end digits

/-- A character that may follow a value goes on with no number. -/
theorem Delimits.stops {c : Char} {more : List Char} (h : Delimits (c :: more)) :
    c.isDigit = false ∧ c ≠ '.' ∧ c ≠ 'e' ∧ c ≠ 'E' := by
  rcases h c rfl with rfl | rfl | rfl | space
  · decide
  · decide
  · decide
  · simp only [isSpace, Bool.or_eq_true, beq_iff_eq] at space
    rcases space with ((rfl | rfl) | rfl) | rfl <;> decide

namespace Cursor

variable {at' : Cursor}

theorem skipSpaces_skipSpaces (rest : List Char) (offset : Nat) :
    (skipSpaces rest offset).token = skipSpaces rest offset := by
  induction rest generalizing offset with
  | nil => rfl
  | cons c more ih =>
      rw [skipSpaces]
      split
      case isTrue _ => exact ih _
      case isFalse solid => rw [token, skipSpaces, if_neg solid]

theorem token_token (at' : Cursor) : at'.token.token = at'.token :=
  skipSpaces_skipSpaces at'.rest at'.offset

/-- A reader that begins with the next token takes spaces before a text, too. -/
theorem reads_after_spaces {α : Type} {read : Cursor → Reading α} {x : α} {blank more : List Char}
    {c : Char} (skips : ∀ at', read at'.token = read at') (blanks : AllSpaces blank)
    (solid : isSpace c = false) (h : Reads read (c :: more) x) : Reads read (blank ++ c :: more) x := by
  intro at' rest ends here
  rw [List.append_assoc] at here
  obtain ⟨next, left, read'⟩ := h at'.token rest ends (token_rest blanks solid here)
  exact ⟨next, left, by rw [← skips, read']⟩

/-- All digits in front of another character are taken. -/
theorem digits_run {digits rest : List Char} (all : ∀ c ∈ digits, c.isDigit = true)
    (stops : ∀ c ∈ rest.head?, c.isDigit = false) (here : at'.rest = digits ++ rest) :
    ∃ next : Cursor, next.rest = rest ∧ at'.digits = (digits, next) := by
  refine ⟨⟨rest, at'.offset + digits.length⟩, rfl, ?_⟩
  simp only [Cursor.digits, here, takeWhile_run all stops, dropWhile_run all stops]

theorem digits_eq {digits rest : List Char} (all : ∀ c ∈ digits, c.isDigit = true) (ends : Delimits rest)
    (here : at'.rest = digits ++ rest) :
    ∃ next : Cursor, next.rest = rest ∧ at'.digits = (digits, next) := by
  refine digits_run all ?_ here
  cases rest with
  | nil => nofun
  | cons c more =>
      intro d first
      cases first
      exact ends.stops.1

theorem wholeDigits_eq {n : Nat} {rest : List Char} (ends : Delimits rest)
    (here : at'.rest = Nat.toDigits 10 n ++ rest) :
    ∃ next : Cursor, next.rest = rest ∧ at'.wholeDigits = .ok (Nat.toDigits 10 n, next) := by
  obtain ⟨next, left, digits⟩ := digits_eq (fun c => isDigit_of_mem) ends here
  refine ⟨next, left, ?_⟩
  obtain ⟨c, more, split, isDigit⟩ := exists_digit n
  have noZero : (c == '0' && (Nat.toDigits 10 n).length != 1) = false := by
    by_cases zero : c = '0'
    · rw [zero] at split
      rw [split, eq_nil_of_zero split, zero]
      rfl
    · simp [zero]
  rw [split, List.cons_append] at here
  simp only [wholeDigits, here, isDigit, digits, noZero]
  rfl

/-- The digits of a number are read as its integer; after a minus sign, as long as that is no double. -/
theorem number_eq {n : Nat} {rest : List Char} (negative : Bool) (fits : n ≤ greatestSignificand)
    (ends : Delimits rest) (here : at'.rest = Nat.toDigits 10 n ++ rest) :
    ∃ next : Cursor, next.rest = rest ∧ number negative at' =
      if !negative then .ok (.integer n, next)
      else if n == 0 || Nat.pow 2 63 < n then .ok (.double (Binary64.ofNat n).neg, next)
      else .ok (.integer (-n), next) := by
  obtain ⟨next, left, whole⟩ := wholeDigits_eq ends here
  refine ⟨next, left, ?_⟩
  have value : Nat.ofDigitChars 10 (Nat.toDigits 10 n) 0 = n :=
    Nat.ofDigitChars_toDigits (by decide) (by decide)
  have extended : extend greatestSignificand 0 (Nat.toDigits 10 n) = (n, []) := by
    rw [extend_eq (by rw [value]; exact fits), value]
  rw [number, whole]
  simp only [extended]
  split
  case h_1 heq =>
    rw [left] at heq
    exact absurd rfl (heq ▸ ends).stops.2.1
  case h_2 heq =>
    rw [left] at heq
    exact absurd rfl (heq ▸ ends).stops.2.2.1
  case h_3 heq =>
    rw [left] at heq
    exact absurd rfl (heq ▸ ends).stops.2.2.2
  case h_4 => rfl

theorem reads_number {n : Nat} (fits : n ≤ greatestSignificand) :
    Reads (number false) (Nat.toDigits 10 n) (.integer n) := by
  intro at' rest ends here
  obtain ⟨next, left, read⟩ := number_eq false fits ends here
  exact ⟨next, left, read⟩

theorem reads_negative {n : Nat} (some : n ≠ 0) (fits : n ≤ Nat.pow 2 63) :
    Reads (number true) (Nat.toDigits 10 n) (.integer (-n)) := by
  intro at' rest ends here
  have whole : n ≤ greatestSignificand := Nat.le_trans fits (by decide)
  obtain ⟨next, left, read⟩ := number_eq true whole ends here
  have within : ¬(n == 0 || decide (Nat.pow 2 63 < n)) = true := by
    simpa [some] using fits
  rw [if_neg (by decide), if_neg within] at read
  exact ⟨next, left, read⟩

/-- A digit is none of the characters with which another kind of value begins. -/
theorem starts_of_digit {c : Char} (h : c.isDigit = true) :
    isSpace c = false ∧ c ∉ ['[', '\x7b', 'n', 't', 'f', '"', '-', ']'] := by
  have apart (other : Char) (no : other.isDigit = false) : c ≠ other := by
    rintro rfl
    exact absurd (h.symm.trans no) nofun
  constructor
  · simp [isSpace, apart ' ' rfl, apart '\n' rfl, apart '\t' rfl, apart '\r' rfl]
  · simp only [List.mem_cons, List.not_mem_nil, or_false, not_or]
    exact ⟨apart _ rfl, apart _ rfl, apart _ rfl, apart _ rfl, apart _ rfl, apart _ rfl, apart _ rfl,
      apart _ rfl⟩

theorem reads_signedNumber {n : Nat} (fits : n ≤ greatestSignificand) :
    Reads signedNumber (Nat.toDigits 10 n) (.integer n) := by
  intro at' rest ends here
  obtain ⟨next, left, read⟩ := reads_number fits at' rest ends here
  obtain ⟨c, more, split, isDigit⟩ := exists_digit n
  refine ⟨next, left, ?_⟩
  rw [split, List.cons_append] at here
  rw [signedNumber]
  split
  case h_1 heq =>
    rw [here] at heq
    cases heq
    exact absurd isDigit nofun
  case h_2 => exact read

theorem value_token (depth : Nat) (at' : Cursor) : value depth at'.token = value depth at' := by
  cases depth <;> simp only [value, token_token]

theorem chars_integer (n : Nat) : (Value.number (.integer n)).chars = Nat.toDigits 10 n :=
  Nat.toList_repr

theorem startsItem_integer (n : Nat) : StartsItem (Value.number (.integer n)).chars := by
  obtain ⟨c, more, split, isDigit⟩ := exists_digit n
  obtain ⟨solid, apart⟩ := starts_of_digit isDigit
  refine ⟨c, more, by rw [chars_integer, split], solid, ?_⟩
  rintro rfl
  exact absurd apart (by decide)

/-- The token at a number begins with a digit and is read as that number. -/
theorem signedNumber_token {n : Nat} {rest : List Char} (fits : n ≤ greatestSignificand)
    (ends : Delimits rest) (here : at'.rest = (Value.number (.integer n)).chars ++ rest) :
    ∃ (c : Char) (more : List Char) (next : Cursor), at'.token.rest = c :: more ∧ c.isDigit = true ∧
      next.rest = rest ∧ at'.token.signedNumber = .ok (.integer n, next) := by
  rw [chars_integer] at here
  obtain ⟨c, more, split, isDigit⟩ := exists_digit n
  have token : at'.token.rest = Nat.toDigits 10 n ++ rest := by
    rw [split] at here ⊢
    exact token_rest allSpaces_nil (starts_of_digit isDigit).1 here
  obtain ⟨next, left, read⟩ := reads_signedNumber fits at'.token rest ends token
  rw [split, List.cons_append] at token
  exact ⟨c, more ++ rest, next, token, isDigit, left, read⟩

theorem reads_value_integer (depth : Nat) {n : Nat} (fits : n ≤ greatestSignificand) :
    Reads (value depth) (Value.number (.integer n)).chars (.number (.integer n)) := by
  intro at' rest ends here
  obtain ⟨c, more, next, token, isDigit, left, read⟩ := signedNumber_token fits ends here
  refine ⟨next, left, ?_⟩
  have apart := (starts_of_digit isDigit).2
  simp only [List.mem_cons, List.not_mem_nil, or_false, not_or] at apart
  rw [value_scalar depth token apart.1 apart.2.1, scalar, token]
  simp [apart, isDigit, read]
  rfl

theorem chars_negative (m : Nat) :
    (Value.number (.integer (Int.negSucc m))).chars = '-' :: Nat.toDigits 10 (m + 1) := by
  have written : toString (Int.negSucc m) = "-" ++ Nat.repr (m + 1) := rfl
  rw [Value.chars, numberText, written, String.toList_append, Nat.toList_repr]
  rfl

theorem reads_value_negative (depth : Nat) {m : Nat} (fits : m + 1 ≤ Nat.pow 2 63) :
    Reads (value depth) (Value.number (.integer (Int.negSucc m))).chars
      (.number (.integer (Int.negSucc m))) := by
  intro at' rest ends here
  rw [chars_negative, List.cons_append] at here
  have token : at'.token.rest = '-' :: (Nat.toDigits 10 (m + 1) ++ rest) :=
    token_rest allSpaces_nil (by decide) here
  obtain ⟨next, left, read⟩ :=
    reads_negative (Nat.succ_ne_zero m) fits at'.token.advance rest ends (advance_rest token)
  refine ⟨next, left, ?_⟩
  have signed : at'.token.signedNumber = .ok (.integer (Int.negSucc m), next) := by
    simp only [signedNumber, token, read]
    rfl
  rw [value_scalar depth token (by decide) (by decide), scalar, token]
  simp only [signed]
  rfl

/-- An integer within 64 bits, signed or not, is read back from its numeral. -/
theorem reads_value_number (depth : Nat) {n : Int} (low : -(Nat.pow 2 63 : Int) ≤ n)
    (high : n < (Nat.pow 2 64 : Int)) :
    Reads (value depth) (Value.number (.integer n)).chars (.number (.integer n)) := by
  cases n with
  | ofNat n =>
      have small : n < UInt64.size := Int.ofNat_lt.mp high
      exact reads_value_integer depth (le_greatestSignificand small)
  | negSucc m =>
      have fits : m + 1 ≤ Nat.pow 2 63 := by omega
      exact reads_value_negative depth fits

end Cursor

section natural

variable {bits n : Nat}

theorem integerOf_natural (small : n < Nat.pow 2 bits) :
    Decoder.integerOf (.unsigned bits) (.integer n) = .ok n := by
  have within : (IntWidth.unsigned bits).holds n = true := by
    simpa [IntWidth.holds] using Int.ofNat_lt.mpr small
  exact if_pos within

theorem ofValue_natural (surplus : Surplus) (small : n < Nat.pow 2 bits) :
    (Decoder.natural bits).ofValue surplus (.number (.integer n)) = .ok n := by
  simp only [Decoder.natural, Decoder.map, Decoder.integer, integerOf_natural small]
  rfl

theorem reads_natural (fits : n ≤ greatestSignificand) (small : n < Nat.pow 2 bits) :
    Reads (Decoder.natural bits).read (Value.number (.integer n)).chars n := by
  intro at' rest ends here
  obtain ⟨c, more, next, token, isDigit, left, read⟩ := Cursor.signedNumber_token fits ends here
  refine ⟨next, left, ?_⟩
  simp only [Decoder.natural, Decoder.map, Decoder.integer, token, isDigit, Bool.or_true, if_true, read,
    integerOf_natural small]
  rfl

theorem reads_word (narrow : bits ≤ 64) (small : n < Nat.pow 2 bits) :
    Reads (Decoder.natural bits).read (Value.number (.integer n)).chars n :=
  have within : n < Nat.pow 2 64 := Nat.lt_of_lt_of_le small (Nat.pow_le_pow_right (by decide) narrow)
  reads_natural (le_greatestSignificand within) small

theorem natural_token (bits : Nat) (at' : Cursor) :
    (Decoder.natural bits).read at'.token = (Decoder.natural bits).read at' := by
  simp only [Decoder.natural, Decoder.map, Decoder.integer, Cursor.token_token]

end natural

end Switchboard.Json
