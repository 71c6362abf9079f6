import Switchboard.Json.Skip
import Switchboard.Proofs.Json.Numbers
import Switchboard.Proofs.Json.Values

/-!
Passing over values without brackets: the literals, numbers of any size, and strings with any escapes, also
those that are half of a surrogate pair.
-/

namespace Switchboard.Json

/-- The ways to write what stands between the quotes of a string that is not read. -/
inductive QuotedText : List Char → Prop
  | nil : QuotedText []
  | plain (c : Char) {more : List Char} :
    0x20 ≤ c.toNat → c ≠ '"' → c ≠ '\\' → QuotedText more → QuotedText (c :: more)
  | simple (letter : Char) {more : List Char} :
    (Cursor.simpleEscape? letter).isSome = true → QuotedText more → QuotedText ('\\' :: letter :: more)
  | unicode (digits : List Char) (n : Nat) {more : List Char} :
    digits.length = 4 → hexNumber? digits = some n → QuotedText more →
      QuotedText ('\\' :: 'u' :: (digits ++ more))

/-- One digit or more. -/
def Digits (text : List Char) : Prop :=
  text ≠ [] ∧ ∀ c ∈ text, c.isDigit = true

instance (text : List Char) : Decidable (Digits text) :=
  decidable_of_iff (text ≠ [] ∧ text.all Char.isDigit = true) (and_congr_right' List.all_eq_true)

/-- The ways to write what may follow the whole digits of a number: a point with digits, or nothing. -/
inductive FractionText : List Char → Prop
  | none : FractionText []
  | some {digits : List Char} : Digits digits → FractionText ('.' :: digits)

inductive ExponentText : List Char → Prop
  | none : ExponentText []
  | some {letter : Char} {sign digits : List Char} :
    letter = 'e' ∨ letter = 'E' → sign = [] ∨ sign = ['+'] ∨ sign = ['-'] → Digits digits →
      ExponentText (letter :: (sign ++ digits))

/-- The ways to write a number without its sign; no zero stands before other whole digits. -/
inductive UnsignedText : List Char → Prop
  | parts {whole fraction exponent : List Char} :
    Digits whole → (whole.head? = some '0' → whole = ['0']) → FractionText fraction → ExponentText exponent →
      UnsignedText (whole ++ (fraction ++ exponent))

/-- The ways to write a value that is no list and no object. -/
inductive ScalarText : List Char → Prop
  | literal {text : List Char} :
    text ∈ [['n', 'u', 'l', 'l'], ['t', 'r', 'u', 'e'], ['f', 'a', 'l', 's', 'e']] → ScalarText text
  | positive {text : List Char} : UnsignedText text → ScalarText text
  | negative {text : List Char} : UnsignedText text → ScalarText ('-' :: text)
  | string {spelled : List Char} : QuotedText spelled → ScalarText ('"' :: (spelled ++ ['"']))

theorem UnsignedText.starts {text : List Char} (number : UnsignedText text) :
    ∃ c more, text = c :: more ∧ c.isDigit = true := by
  cases number with
  | @parts whole fraction exponent some _ _ _ =>
      obtain ⟨c, others, split⟩ := List.exists_cons_of_ne_nil some.1
      exact ⟨c, others ++ (fraction ++ exponent), by rw [split]; rfl, some.2 c (split ▸ List.mem_cons_self)⟩

/-- A value that is no list and no object begins with none of the brackets. -/
theorem ScalarText.starts {text : List Char} (scalar : ScalarText text) :
    ∃ c more, text = c :: more ∧ isSpace c = false ∧ c ≠ '[' ∧ c ≠ '\x7b' ∧ c ≠ ']' := by
  cases scalar with
  | literal literal =>
      simp only [List.mem_cons, List.not_mem_nil, or_false] at literal
      rcases literal with rfl | rfl | rfl
      all_goals exact ⟨_, _, rfl, by decide, by decide, by decide, by decide⟩
  | positive number =>
      obtain ⟨c, more, first, digit⟩ := number.starts
      obtain ⟨solid, apart⟩ := Cursor.starts_of_digit digit
      simp only [List.mem_cons, List.not_mem_nil, or_false, not_or] at apart
      exact ⟨c, more, first, solid, apart.1, apart.2.1, apart.2.2.2.2.2.2.2⟩
  | negative _ => exact ⟨_, _, rfl, by decide, by decide, by decide, by decide⟩
  | string _ => exact ⟨_, _, rfl, by decide, by decide, by decide, by decide⟩

namespace Cursor

variable {at' : Cursor} {text more rest : List Char}

section strings

theorem skipEscape_simple {letter : Char} (stands : (simpleEscape? letter).isSome = true)
    (here : at'.rest = letter :: more) : ∃ next : Cursor, next.rest = more ∧ at'.skipEscape = .ok next := by
  refine ⟨at'.advance, advance_rest here, ?_⟩
  have noUnicode : letter ≠ 'u' := by
    rintro rfl
    cases stands
  rw [skipEscape, here]
  split
  case h_1 heq => cases heq
  case h_2 heq =>
    cases heq
    exact absurd rfl noUnicode
  case h_3 heq =>
    cases heq
    rw [if_pos stands]

theorem skipEscape_unicode {digits : List Char} {n : Nat} (length : digits.length = 4)
    (number : hexNumber? digits = some n) (here : at'.rest = 'u' :: (digits ++ more)) :
    ∃ next : Cursor, next.rest = more ∧ at'.skipEscape = .ok next := by
  obtain ⟨next, left, read⟩ := fourHexDigits_eq length number (advance_rest here)
  refine ⟨next, left, ?_⟩
  simp only [skipEscape, here, read]
  rfl

theorem skipStringTail_eq {spelled : List Char} (quoted : QuotedText spelled) {at' : Cursor}
    (here : at'.rest = spelled ++ '"' :: more) {fuel : Nat} (enough : spelled.length < fuel) :
    ∃ next : Cursor, next.rest = more ∧ skipStringTail fuel at' = .ok next := by
  induction quoted generalizing at' fuel with
  | nil =>
      obtain ⟨fuel, rfl⟩ : ∃ n, fuel = n + 1 := ⟨fuel - 1, by omega⟩
      refine ⟨at'.advance, advance_rest here, ?_⟩
      simp only [skipStringTail, here, List.nil_append]
  | plain c printable noQuote noSlash _ ih =>
      obtain ⟨fuel, rfl⟩ : ∃ n, fuel = n + 1 := ⟨fuel - 1, by omega⟩
      obtain ⟨next, left, skip⟩ := ih (advance_rest here) (by simpa using enough)
      refine ⟨next, left, ?_⟩
      rw [skipStringTail, here]
      split
      case h_1 heq => cases heq
      case h_2 heq =>
        cases heq
        exact absurd rfl noQuote
      case h_3 heq =>
        cases heq
        exact absurd rfl noSlash
      case h_4 heq =>
        cases heq
        rw [if_neg (by omega), skip]
  | simple letter stands _ ih =>
      obtain ⟨fuel, rfl⟩ : ∃ n, fuel = n + 1 := ⟨fuel - 1, by omega⟩
      obtain ⟨next, left, escape⟩ := skipEscape_simple stands (advance_rest here)
      simp only [List.length_cons] at enough
      obtain ⟨last, left, skip⟩ := ih left (show _ < fuel by omega)
      refine ⟨last, left, ?_⟩
      simp only [skipStringTail, here, List.cons_append, escape, skip]
  | unicode digits n length number _ ih =>
      obtain ⟨fuel, rfl⟩ : ∃ n, fuel = n + 1 := ⟨fuel - 1, by omega⟩
      rw [List.cons_append, List.cons_append, List.append_assoc] at here
      obtain ⟨next, left, escape⟩ := skipEscape_unicode length number (advance_rest here)
      simp only [List.length_cons, List.length_append] at enough
      obtain ⟨last, left, skip⟩ := ih left (show _ < fuel by omega)
      refine ⟨last, left, ?_⟩
      simp only [skipStringTail, here, escape, skip]

theorem skipString_eq {spelled : List Char} (quoted : QuotedText spelled)
    (here : at'.rest = '"' :: (spelled ++ '"' :: more)) :
    ∃ next : Cursor, next.rest = more ∧ at'.skipString = .ok next := by
  have enough : spelled.length < at'.rest.length + 1 := by
    rw [here, List.length_cons, List.length_append]
    omega
  exact skipStringTail_eq quoted (advance_rest here) enough

end strings

section numbers

theorem skipExponent_eq {sign digits : List Char} (signs : sign = [] ∨ sign = ['+'] ∨ sign = ['-'])
    (some : Digits digits) (ends : Delimits rest) (here : at'.rest = sign ++ (digits ++ rest)) :
    ∃ next : Cursor, next.rest = rest ∧ at'.skipExponent = .ok next := by
  obtain ⟨c, others, split⟩ := List.exists_cons_of_ne_nil some.1
  have digit : c.isDigit = true := some.2 c (split ▸ List.mem_cons_self)
  have first : at'.exponentSign.2.rest = digits ++ rest := by
    rcases signs with rfl | rfl | rfl
    · have noSign : c ≠ '+' ∧ c ≠ '-' := by
        constructor <;> rintro rfl <;> cases digit
      rw [List.nil_append, split, List.cons_append] at here
      rw [exponentSign, here]
      split
      case h_1 heq =>
        cases heq
        exact absurd rfl noSign.1
      case h_2 heq =>
        cases heq
        exact absurd rfl noSign.2
      case h_3 => rw [here, split, List.cons_append]
    · simp only [exponentSign, here, List.singleton_append]
      exact advance_rest here
    · simp only [exponentSign, here, List.singleton_append]
      exact advance_rest here
  obtain ⟨next, left, read⟩ := digits_eq some.2 ends first
  refine ⟨next, left, ?_⟩
  rw [split, List.cons_append] at first
  simp only [skipExponent, first, digit, if_true, read]

theorem skipAfterDigits_eq (exponent : ExponentText text) (ends : Delimits rest)
    (here : at'.rest = text ++ rest) :
    ∃ next : Cursor, next.rest = rest ∧ at'.skipAfterDigits = .ok next := by
  cases exponent with
  | none =>
      refine ⟨at', here, ?_⟩
      rw [skipAfterDigits]
      split
      case h_1 heq =>
        rw [here, List.nil_append] at heq
        exact absurd rfl (heq ▸ ends).stops.2.2.1
      case h_2 heq =>
        rw [here, List.nil_append] at heq
        exact absurd rfl (heq ▸ ends).stops.2.2.2
      case h_3 => rfl
  | @some letter sign digits letters signs some =>
      rw [List.cons_append, List.append_assoc] at here
      obtain ⟨next, left, skip⟩ := skipExponent_eq signs some ends (advance_rest here)
      refine ⟨next, left, ?_⟩
      rcases letters with rfl | rfl
      · simp only [skipAfterDigits, here, skip]
      · simp only [skipAfterDigits, here, skip]

/-- Where an exponent may stand, neither a digit nor a point comes next. -/
theorem exponent_ahead {exponent : List Char} (hasExponent : ExponentText exponent) (ends : Delimits rest) :
    ∀ c ∈ (exponent ++ rest).head?, c.isDigit = false ∧ c ≠ '.' := by
  intro c first
  cases hasExponent with
  | some letters _ _ =>
      cases first
      rcases letters with rfl | rfl <;> decide
  | none =>
      cases rest with
      | nil => cases first
      | cons d more =>
          cases first
          exact ⟨ends.stops.1, ends.stops.2.1⟩

theorem skipNumber_eq (number : UnsignedText text) (ends : Delimits rest) (here : at'.rest = text ++ rest) :
    ∃ next : Cursor, next.rest = rest ∧ at'.skipNumber = .ok next := by
  cases number with
  | @parts whole fraction exponent some zero hasFraction hasExponent =>
      obtain ⟨c, others, split⟩ := List.exists_cons_of_ne_nil some.1
      have digit : c.isDigit = true := some.2 c (split ▸ List.mem_cons_self)
      have noZero : (c == '0' && whole.length != 1) = false := by
        by_cases first : c = '0'
        · rw [zero (by rw [split, first]; rfl)]
          simp
        · simp [first]
      have ahead := exponent_ahead hasExponent ends
      rw [List.append_assoc, List.append_assoc] at here
      have first := here
      rw [split, List.cons_append] at first
      cases hasFraction with
      | none =>
          obtain ⟨next, left, read⟩ := digits_run some.2 (fun d next => (ahead d next).1) here
          obtain ⟨last, ended, skip⟩ := skipAfterDigits_eq hasExponent ends left
          refine ⟨last, ended, ?_⟩
          simp only [skipNumber, first, digit, read, noZero]
          rw [if_neg (by decide), if_neg (by decide)]
          split
          case h_1 heq =>
            rw [left] at heq
            exact absurd rfl (ahead '.' (by rw [heq]; rfl)).2
          case h_2 => exact skip
      | @some digits fractional =>
          have point : ∀ d ∈ ('.' :: digits ++ (exponent ++ rest)).head?, d.isDigit = false := by
            intro d next
            cases next
            rfl
          obtain ⟨next, left, read⟩ := digits_run some.2 point here
          obtain ⟨after, rest', read'⟩ :=
            digits_run fractional.2 (fun d next => (ahead d next).1) (advance_rest left)
          obtain ⟨last, ended, skip⟩ := skipAfterDigits_eq hasExponent ends rest'
          have fractions : digits.isEmpty = false := Bool.not_eq_true _ ▸ mt List.isEmpty_iff.mp fractional.1
          refine ⟨last, ended, ?_⟩
          simp only [skipNumber, first, digit, read, noZero, left, List.cons_append, read', fractions, skip]
          rfl

end numbers

section scalars

theorem skipScalar_eq (scalar : ScalarText text) (ends : Delimits rest) (here : at'.rest = text ++ rest) :
    ∃ next : Cursor, next.rest = rest ∧ at'.skipScalar = .ok next := by
  cases scalar with
  | literal literal =>
      simp only [List.mem_cons, List.not_mem_nil, or_false] at literal
      rcases literal with rfl | rfl | rfl
      all_goals
        obtain ⟨next, left, read⟩ := letters_eq _ (advance_rest here)
        refine ⟨next, left, ?_⟩
        simp only [skipScalar, here, List.cons_append]
        exact read
  | positive number =>
      obtain ⟨next, left, skip⟩ := skipNumber_eq number ends here
      refine ⟨next, left, ?_⟩
      obtain ⟨c, more, first, digit⟩ := number.starts
      rw [first, List.cons_append] at here
      rw [skipScalar]
      split
      case h_7 heq =>
        rw [here] at heq
        cases heq
        rw [if_pos digit, skip]
      case h_1 heq =>
        rw [here] at heq
        cases heq
      all_goals
        next heq =>
          rw [here] at heq
          cases heq
          cases digit
  | negative number =>
      obtain ⟨next, left, skip⟩ := skipNumber_eq number ends (advance_rest here)
      refine ⟨next, left, ?_⟩
      simp only [skipScalar, here, List.cons_append, skip]
  | string quoted =>
      rw [List.cons_append, List.append_assoc] at here
      obtain ⟨next, left, skip⟩ := skipString_eq quoted here
      refine ⟨next, left, ?_⟩
      simp only [skipScalar, here, skip]

end scalars

end Cursor

end Switchboard.Json
