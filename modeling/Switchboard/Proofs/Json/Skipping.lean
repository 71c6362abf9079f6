import Switchboard.Proofs.Json.Records
import Switchboard.Proofs.Json.Scalars

/-!
Passing over values with brackets. A value of any form is passed over, however deep its brackets nest: each of
its characters takes at most two rounds.
-/

namespace Switchboard.Json

def Bracket.opening : Bracket → Char
  | .list => '['
  | .object => '\x7b'

def Bracket.closing : Bracket → Char
  | .list => ']'
  | .object => '\x7d'

/-- What stands before a value inside brackets: a separator, and in an object a name with its colon. -/
inductive HeadText : Bracket → Bool → List Char → Prop
  | item {isFirst : Bool} {lead : List Char} : Separates isFirst lead → HeadText .list isFirst lead
  | member {isFirst : Bool} {lead spelled blank gap : List Char} :
    Separates isFirst lead → QuotedText spelled → AllSpaces blank → AllSpaces gap →
      HeadText .object isFirst (lead ++ '"' :: (spelled ++ '"' :: (blank ++ ':' :: gap)))

/-- A part of a JSON text: a value, or all that is left inside a bracket; the flag holds before the first
item. -/
inductive Part
  | value
  | inside (bracket : Bracket) (isFirst : Bool)

/-- The ways to write the parts of a JSON text. -/
inductive JsonText : Part → List Char → Prop
  | scalar {text : List Char} : ScalarText text → JsonText .value text
  | nested (bracket : Bracket) {text : List Char} :
    JsonText (.inside bracket true) text → JsonText .value (bracket.opening :: (text ++ [bracket.closing]))
  | done {bracket : Bracket} {isFirst : Bool} {blank : List Char} :
    AllSpaces blank → JsonText (.inside bracket isFirst) blank
  | item {bracket : Bracket} {isFirst : Bool} {head text more : List Char} :
    HeadText bracket isFirst head → JsonText .value text → JsonText (.inside bracket false) more →
      JsonText (.inside bracket isFirst) (head ++ (text ++ more))

/-- The ways to write a value. -/
abbrev ValueText (text : List Char) : Prop :=
  JsonText .value text

theorem startsItem_value {text : List Char} (value : ValueText text) : StartsItem text := by
  cases value with
  | scalar scalar =>
      obtain ⟨c, more, first, solid, -, -, noClose⟩ := scalar.starts
      exact ⟨c, more, first, solid, noClose⟩
  | nested bracket _ =>
      refine ⟨bracket.opening, _, rfl, ?_, ?_⟩
      · cases bracket <;> decide
      · cases bracket <;> decide

/-- Where passing over stands: what comes next, the brackets that are open and the place. -/
structure SkipState where
  step : Cursor.SkipStep
  brackets : List Bracket
  place : Cursor

namespace SkipState

/-- A number of rounds leads from one state to another. -/
def Takes (rounds : Nat) (s t : SkipState) : Prop :=
  ∀ fuel, Cursor.skipInside (fuel + rounds) s.step s.brackets s.place =
    Cursor.skipInside fuel t.step t.brackets t.place

theorem Takes.trans {m n : Nat} {s t u : SkipState} (first : s.Takes m t) (second : t.Takes n u) :
    s.Takes (m + n) u := by
  intro fuel
  rw [Nat.add_comm m n, ← Nat.add_assoc, first, second]

end SkipState

/-- What comes next inside a bracket; the flag holds before the first item. -/
def stepInside : Bool → Cursor.SkipStep
  | true => .afterOpening
  | false => .afterValue

section rounds

open Cursor SkipState

variable {brackets : List Bracket} {bracket : Bracket} {place : Cursor} {isFirst : Bool} {c : Char}
  {blank gap head text more rest : List Char}

theorem takes_scalar (gaps : AllSpaces gap) (scalar : ScalarText text) (ends : Delimits rest)
    (here : place.rest = gap ++ (text ++ rest)) :
    ∃ next : Cursor, next.rest = rest ∧ Takes 1 ⟨.value, brackets, place⟩ ⟨.afterValue, brackets, next⟩ := by
  obtain ⟨c, more, first, solid, noList, noObject, -⟩ := scalar.starts
  have token : place.token.rest = text ++ rest := by
    rw [first, List.cons_append] at here ⊢
    exact token_rest gaps solid here
  obtain ⟨next, left, skip⟩ := skipScalar_eq scalar ends token
  refine ⟨next, left, fun fuel => ?_⟩
  have noBracket : place.token.opening? = none := by
    rw [first, List.cons_append] at token
    rw [opening?]
    split
    case h_1 heq =>
      rw [token] at heq
      cases heq
      exact absurd rfl noList
    case h_2 heq =>
      rw [token] at heq
      cases heq
      exact absurd rfl noObject
    case h_3 => rfl
  simp only [skipInside, noBracket, skip]

theorem takes_opening (gaps : AllSpaces gap) (here : place.rest = gap ++ bracket.opening :: rest) :
    ∃ next : Cursor, next.rest = rest ∧
      Takes 1 ⟨.value, brackets, place⟩ ⟨.afterOpening, bracket :: brackets, next⟩ := by
  have solid : isSpace bracket.opening = false := by cases bracket <;> decide
  have token := token_rest gaps solid here
  refine ⟨place.token.advance, advance_rest token, fun fuel => ?_⟩
  have opens : place.token.opening? = some bracket := by
    cases bracket <;> simp only [opening?, token, Bracket.opening]
  simp only [skipInside, opens]

theorem takes_closing (blanks : AllSpaces blank) (here : place.rest = blank ++ bracket.closing :: rest) :
    ∃ next : Cursor, next.rest = rest ∧
      Takes 1 ⟨stepInside isFirst, bracket :: brackets, place⟩ ⟨.afterValue, brackets, next⟩ := by
  have solid : isSpace bracket.closing = false := by cases bracket <;> decide
  have token := token_rest blanks solid here
  refine ⟨place.token.advance, advance_rest token, fun fuel => ?_⟩
  have closes : place.token.closes bracket = true := by
    cases bracket <;> simp [Cursor.closes, token, Bracket.closing]
  cases isFirst <;> simp only [stepInside, skipInside, closes] <;> rfl

theorem takes_first {next : Cursor} (here : place.token.rest = c :: more) (noClose : c ≠ bracket.closing)
    (inside : nextInside bracket place.token = .ok next) :
    Takes 1 ⟨.afterOpening, bracket :: brackets, place⟩ ⟨.value, bracket :: brackets, next⟩ := by
  intro fuel
  have goesOn : place.token.closes bracket = false := by
    cases bracket <;> simpa [Cursor.closes, here, Bracket.closing] using noClose
  have some : place.token.rest.isEmpty = false := by rw [here]; rfl
  simp only [skipInside, goesOn, some, inside]
  rfl

theorem takes_later {next : Cursor} (here : place.token.rest = ',' :: more)
    (inside : nextInside bracket place.token.advance = .ok next) :
    Takes 1 ⟨.afterValue, bracket :: brackets, place⟩ ⟨.value, bracket :: brackets, next⟩ := by
  intro fuel
  have goesOn : place.token.closes bracket = false := by
    cases bracket <;> simp [Cursor.closes, here]
  simp only [skipInside, goesOn, here, inside]
  rfl

theorem skipName_eq {spelled : List Char} (gaps : AllSpaces gap) (quoted : QuotedText spelled)
    (blanks : AllSpaces blank) (here : place.rest = gap ++ '"' :: (spelled ++ '"' :: (blank ++ ':' :: rest))) :
    ∃ next : Cursor, next.rest = rest ∧ place.skipName = .ok next := by
  have token := token_rest gaps (by decide) here
  obtain ⟨after, left, skip⟩ := skipString_eq quoted token
  obtain ⟨next, left, colon⟩ := colon_eq blanks left
  refine ⟨next, left, ?_⟩
  simp only [skipName, token, skip, colon]

/-- The separator before a value, and its name in an object, are one round. -/
theorem takes_head (heads : HeadText bracket isFirst head) (solid : isSpace c = false) (noClose : c ≠ ']')
    (here : place.rest = head ++ c :: more) :
    ∃ (next : Cursor) (gap : List Char), AllSpaces gap ∧ next.rest = gap ++ c :: more ∧
      Takes 1 ⟨stepInside isFirst, bracket :: brackets, place⟩ ⟨.value, bracket :: brackets, next⟩ := by
  cases heads with
  | item leads =>
      cases leads with
      | first blanks =>
          have token := token_rest blanks solid here
          exact ⟨place.token, [], allSpaces_nil, token, takes_first token noClose rfl⟩
      | @later blank gap blanks gaps =>
          rw [List.append_assoc] at here
          have token := token_rest blanks (by decide) here
          exact ⟨place.token.advance, gap, gaps, advance_rest token, takes_later token rfl⟩
  | @member _ lead spelled blank gap leads quoted blanks gaps =>
      simp only [List.append_assoc, List.cons_append] at here
      cases leads with
      | first blanks' =>
          have token := token_rest blanks' (by decide) here
          obtain ⟨next, left, name⟩ := skipName_eq allSpaces_nil quoted blanks token
          exact ⟨next, gap, gaps, left, takes_first token (by decide) name⟩
      | later blanks' gaps' =>
          simp only [List.append_assoc, List.cons_append] at here
          have token := token_rest blanks' (by decide) here
          obtain ⟨next, left, name⟩ := skipName_eq gaps' quoted blanks (advance_rest token)
          exact ⟨next, gap, gaps, left, takes_later token name⟩

theorem HeadText.delimits (heads : HeadText bracket false head) (more : List Char) : Delimits (head ++ more) := by
  cases heads with
  | item leads => exact leads.delimits more
  | member leads _ _ _ =>
      rw [List.append_assoc]
      exact leads.delimits _

theorem JsonText.delimits (inside : JsonText (.inside bracket false) text) (rest : List Char) :
    Delimits (text ++ bracket.closing :: rest) := by
  have closing : bracket.closing = ',' ∨ bracket.closing = ']' ∨ bracket.closing = '\x7d' ∨
      isSpace bracket.closing = true := by cases bracket <;> decide
  cases inside with
  | done blanks => exact (delimits_cons rest closing).after_spaces blanks
  | item heads _ _ =>
      rw [List.append_assoc]
      exact heads.delimits _

/-- A part of a text is passed over in a number of rounds that its length bounds. -/
def Part.PassedOver (text : List Char) : Part → Prop
  | .value => ∀ (brackets : List Bracket) (place : Cursor) (gap rest : List Char), AllSpaces gap →
      Delimits rest → place.rest = gap ++ (text ++ rest) →
        ∃ (next : Cursor) (rounds : Nat), next.rest = rest ∧ rounds < 2 * text.length ∧
          Takes rounds ⟨.value, brackets, place⟩ ⟨.afterValue, brackets, next⟩
  | .inside bracket isFirst => ∀ (brackets : List Bracket) (place : Cursor) (rest : List Char),
      place.rest = text ++ bracket.closing :: rest →
        ∃ (next : Cursor) (rounds : Nat), next.rest = rest ∧ rounds ≤ 2 * text.length + 1 ∧
          Takes rounds ⟨stepInside isFirst, bracket :: brackets, place⟩ ⟨.afterValue, brackets, next⟩

theorem JsonText.passedOver {part : Part} (h : JsonText part text) : part.PassedOver text := by
  induction h with
  | scalar scalar =>
      intro brackets place gap rest gaps ends here
      obtain ⟨next, left, takes⟩ := takes_scalar gaps scalar ends here
      obtain ⟨c, more, first, -⟩ := scalar.starts
      exact ⟨next, 1, left, by rw [first, List.length_cons]; omega, takes⟩
  | nested bracket _ ih =>
      intro brackets place gap rest gaps ends here
      rw [List.cons_append, List.append_assoc] at here
      obtain ⟨inner, left, opening⟩ := takes_opening gaps here
      obtain ⟨next, rounds, left, few, inside⟩ := ih brackets inner rest left
      refine ⟨next, 1 + rounds, left, ?_, opening.trans inside⟩
      rw [List.length_cons, List.length_append, List.length_singleton]
      omega
  | done blanks =>
      intro brackets place rest here
      obtain ⟨next, left, closing⟩ := takes_closing blanks here
      exact ⟨next, 1, left, by omega, closing⟩
  | @item bracket isFirst head text more heads value inside first later =>
      intro brackets place rest here
      obtain ⟨c, letters, starts, solid, noClose⟩ := startsItem_value value
      rw [List.append_assoc, List.append_assoc, starts, List.cons_append] at here
      obtain ⟨item, gap, gaps, left, lead⟩ := takes_head heads solid noClose here
      rw [← List.cons_append, ← starts] at left
      obtain ⟨after, rounds, left, few, skip⟩ := first _ item gap _ gaps (inside.delimits rest) left
      obtain ⟨next, rounds', left, few', others⟩ := later brackets after rest left
      refine ⟨next, 1 + rounds + rounds', left, ?_, (lead.trans skip).trans others⟩
      rw [List.length_append, List.length_append]
      omega

/-- Every value is passed over, with the spaces in front of it. -/
theorem skips_value (gaps : AllSpaces gap) (value : ValueText text) : Skips (gap ++ text) := by
  intro at' rest ends here
  rw [List.append_assoc] at here
  obtain ⟨next, rounds, left, few, takes⟩ := value.passedOver [] at' gap rest gaps ends here
  refine ⟨next, left, ?_⟩
  have size : text.length ≤ at'.rest.length := by
    rw [here, List.length_append, List.length_append]
    omega
  obtain ⟨fuel, enough⟩ : ∃ n, 2 * at'.rest.length + 2 = n + 1 + rounds :=
    ⟨2 * at'.rest.length + 1 - rounds, by omega⟩
  rw [skipValue, enough, takes (fuel + 1)]
  rfl

end rounds

end Switchboard.Json
