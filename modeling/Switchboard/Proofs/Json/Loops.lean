import Switchboard.Json.Reader
import Switchboard.Proofs.Json.Strings

/-!
Reading lists and objects. The texts between the brackets are described piece by piece for any reader of
the items, and each loop takes one piece in one round.
-/

namespace Switchboard.Json

/-- Holds of texts with which an item may begin. -/
def StartsItem (text : List Char) : Prop :=
  ∃ c more, text = c :: more ∧ isSpace c = false ∧ c ≠ ']'

section items

variable {α : Type} (item : Cursor → Reading α)

/-- The texts of items up to the closing bracket; the flag holds before the first item. -/
inductive ItemsText : Bool → List Char → List α → Prop
  | done {blank : List Char} (isFirst : Bool) : AllSpaces blank → ItemsText isFirst blank []
  | item {isFirst : Bool} {lead text more : List Char} {x : α} {xs : List α} :
    Separates isFirst lead → StartsItem text → Reads item text x → ItemsText false more xs →
      ItemsText isFirst (lead ++ (text ++ more)) (x :: xs)

variable {item} {text rest : List Char} {xs : List α}

theorem ItemsText.delimits (h : ItemsText item false text xs) : Delimits (text ++ ']' :: rest) := by
  cases h with
  | done _ blanks => exact (delimits_cons rest (.inr (.inl rfl))).after_spaces blanks
  | item leads _ _ _ =>
      rw [List.append_assoc]
      exact leads.delimits _

theorem ItemsText.length_le {isFirst : Bool} (h : ItemsText item isFirst text xs) :
    xs.length ≤ text.length := by
  induction h with
  | done => exact Nat.zero_le _
  | item _ starts _ _ ih =>
      obtain ⟨c, more, rfl, -, -⟩ := starts
      simp only [List.length_append, List.length_cons]
      omega

theorem Cursor.itemsFrom_eq {isFirst : Bool} (h : ItemsText item isFirst text xs) {at' : Cursor}
    (here : at'.rest = text ++ ']' :: rest) {fuel : Nat} (enough : xs.length < fuel)
    (before : List α) (first : before.isEmpty = isFirst) :
    ∃ next : Cursor, next.rest = ']' :: rest ∧
      itemsFrom item fuel before at' = .ok (before.reverse ++ xs, next) := by
  -- One piece of the text is one round of the loop, which leaves fuel for the pieces after it.
  induction h generalizing at' fuel before with
  | done isFirst blanks =>
      obtain ⟨fuel, rfl⟩ : ∃ n, fuel = n + 1 := ⟨fuel - 1, by simp at enough; omega⟩
      refine ⟨at'.token, token_rest blanks (by decide) here, ?_⟩
      simp only [itemsFrom, nextItem_end _ blanks here, List.append_nil]
  | @item isFirst lead text more x xs leads starts reads tail ih =>
      obtain ⟨fuel, rfl⟩ : ∃ n, fuel = n + 1 := ⟨fuel - 1, by simp at enough; omega⟩
      obtain ⟨c, letters, rfl, solid, noClose⟩ := starts
      simp only [List.append_assoc, List.cons_append] at here
      obtain ⟨place, left, step⟩ := nextItem_eq leads solid noClose here
      obtain ⟨next, left, read⟩ := reads place _ tail.delimits left
      obtain ⟨last, left, all⟩ := ih left (by simpa using enough) (x :: before) rfl
      refine ⟨last, left, ?_⟩
      rw [itemsFrom, first]
      simp only [step, read, all, List.reverse_cons, List.append_assoc, List.singleton_append]

theorem Cursor.items_eq (h : ItemsText item true text xs) {at' : Cursor}
    (here : at'.rest = '[' :: (text ++ ']' :: rest)) :
    ∃ next : Cursor, next.rest = rest ∧ at'.items item = .ok (xs, next) := by
  have enough : xs.length < at'.rest.length + 1 := by
    have := h.length_le
    rw [here, List.length_cons, List.length_append]
    omega
  obtain ⟨last, left, read⟩ := itemsFrom_eq h (advance_rest here) enough [] rfl
  obtain ⟨next, left, close⟩ := closeList_eq allSpaces_nil left
  refine ⟨next, left, ?_⟩
  simp only [items, read, close]
  rfl

end items

/-- The texts of a member's name with its colon; the flag holds before the first member. -/
inductive NameText : Bool → List Char → String → Prop
  | quoted {isFirst : Bool} {lead spelled gap : List Char} {name : String} :
    Separates isFirst lead → TextSpelling spelled name.toList → AllSpaces gap →
      NameText isFirst (lead ++ '"' :: (spelled ++ '"' :: (gap ++ [':']))) name

theorem NameText.delimits {text : List Char} {name : String} (h : NameText false text name)
    (more : List Char) : Delimits (text ++ more) := by
  cases h with
  | quoted leads _ _ =>
      rw [List.append_assoc]
      exact leads.delimits _

theorem NameText.length_pos {isFirst : Bool} {text : List Char} {name : String}
    (h : NameText isFirst text name) : 0 < text.length := by
  cases h with
  | quoted _ _ _ =>
      simp only [List.length_append, List.length_cons]
      omega

/-- A name is found, read and followed by its colon. -/
theorem Cursor.name_eq {isFirst : Bool} {text rest : List Char} {name : String}
    (h : NameText isFirst text name) {at' : Cursor} (here : at'.rest = text ++ rest) :
    ∃ place next after : Cursor, at'.nextName isFirst = .ok (some place) ∧
      place.string = .ok (name, next) ∧ next.colon = .ok after ∧ after.rest = rest := by
  cases h with
  | quoted leads spelling gaps =>
      simp only [List.append_assoc, List.cons_append, List.nil_append] at here
      obtain ⟨place, left, step⟩ := nextName_eq leads here
      obtain ⟨next, left, read⟩ := string_eq spelling left
      obtain ⟨after, left, colon⟩ := colon_eq gaps left
      rw [String.ofList_toList] at read
      exact ⟨place, next, after, step, read, colon, left⟩

theorem nameText_stringChars {isFirst : Bool} {lead : List Char} (leads : Separates isFirst lead)
    (name : String) : NameText isFirst (lead ++ (stringChars name ++ [':'])) name := by
  have h := NameText.quoted leads (textSpelling_flatMap name.toList) allSpaces_nil
  simpa [stringChars] using h

section members

variable {α : Type} (value : Cursor → Reading α)

/-- The texts of members up to the closing brace; the flag holds before the first member. -/
inductive MembersText : Bool → List Char → List (String × α) → Prop
  | done {blank : List Char} (isFirst : Bool) : AllSpaces blank → MembersText isFirst blank []
  | member {isFirst : Bool} {head text more : List Char} {name : String} {x : α}
    {xs : List (String × α)} :
    NameText isFirst head name → Reads value text x → MembersText false more xs →
      MembersText isFirst (head ++ (text ++ more)) ((name, x) :: xs)

variable {value} {text rest : List Char} {xs : List (String × α)}

theorem MembersText.delimits (h : MembersText value false text xs) :
    Delimits (text ++ '\x7d' :: rest) := by
  cases h with
  | done _ blanks => exact (delimits_cons rest (.inr (.inr (.inl rfl)))).after_spaces blanks
  | member name _ _ =>
      rw [List.append_assoc]
      exact name.delimits _

theorem MembersText.length_le {isFirst : Bool} (h : MembersText value isFirst text xs) :
    xs.length ≤ text.length := by
  induction h with
  | done => exact Nat.zero_le _
  | member name _ _ ih =>
      have := name.length_pos
      simp only [List.length_append, List.length_cons]
      omega

theorem Cursor.membersFrom_eq {isFirst : Bool} (h : MembersText value isFirst text xs)
    {at' : Cursor} (here : at'.rest = text ++ '\x7d' :: rest) {fuel : Nat}
    (enough : xs.length < fuel) (before : List (String × α)) (first : before.isEmpty = isFirst) :
    ∃ next : Cursor, next.rest = '\x7d' :: rest ∧
      membersFrom value fuel before at' = .ok (before.reverse ++ xs, next) := by
  induction h generalizing at' fuel before with
  | done isFirst blanks =>
      obtain ⟨fuel, rfl⟩ : ∃ n, fuel = n + 1 := ⟨fuel - 1, by simp at enough; omega⟩
      refine ⟨at'.token, token_rest blanks (by decide) here, ?_⟩
      simp only [membersFrom, nextName_end _ blanks here, List.append_nil]
  | @member isFirst head text more name x xs head' reads tail ih =>
      obtain ⟨fuel, rfl⟩ : ∃ n, fuel = n + 1 := ⟨fuel - 1, by simp at enough; omega⟩
      simp only [List.append_assoc] at here
      obtain ⟨place, next, after, step, named, colon, left⟩ := name_eq head' here
      obtain ⟨next, left, read⟩ := reads after _ tail.delimits left
      obtain ⟨last, left, all⟩ :=
        ih left (by simpa using enough) ((name, x) :: before) rfl
      refine ⟨last, left, ?_⟩
      rw [membersFrom, first]
      simp only [step, named, colon, read, all, List.reverse_cons, List.append_assoc,
        List.singleton_append]

theorem Cursor.members_eq (h : MembersText value true text xs) {at' : Cursor}
    (here : at'.rest = '\x7b' :: (text ++ '\x7d' :: rest)) :
    ∃ next : Cursor, next.rest = rest ∧ at'.members value = .ok (xs, next) := by
  have enough : xs.length < at'.rest.length + 1 := by
    have := h.length_le
    rw [here, List.length_cons, List.length_append]
    omega
  obtain ⟨last, left, read⟩ := membersFrom_eq h (advance_rest here) enough [] rfl
  obtain ⟨next, left, close⟩ := closeObject_eq allSpaces_nil left
  refine ⟨next, left, ?_⟩
  simp only [members, read, close]
  rfl

end members

end Switchboard.Json
