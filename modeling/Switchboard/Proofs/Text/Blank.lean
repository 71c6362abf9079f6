import Mathlib.Data.List.TakeWhile
import Switchboard.Text.Blank

/-!
Trimming takes away blanks only, and only at the ends; doing it twice takes away nothing more.
-/

namespace Switchboard.Text

theorem dropWhile_isBlank_of_solid {c : Char} (more : List Char) (solid : isBlank c = false) :
    (c :: more).dropWhile isBlank = c :: more := by
  rw [List.dropWhile_cons_of_neg]
  simp [solid]

/-- A text with solid ends is trimmed to itself. -/
theorem trimChars_of_solid {c d : Char} (text : List Char) (first : isBlank c = false)
    (last : isBlank d = false) : trimChars (c :: (text ++ [d])) = c :: (text ++ [d]) := by
  have reversed : (c :: (text ++ [d])).reverse = d :: (text.reverse ++ [c]) := by simp
  rw [trimChars, dropWhile_isBlank_of_solid _ first, reversed, dropWhile_isBlank_of_solid _ last,
    ← reversed, List.reverse_reverse]

theorem dropWhile_isBlank_twice (text : List Char) :
    (text.dropWhile isBlank).dropWhile isBlank = text.dropWhile isBlank := by
  induction text with
  | nil => rfl
  | cons c more ih =>
      cases blank : isBlank c with
      | true => rw [List.dropWhile_cons_of_pos blank, ih]
      | false =>
          rw [dropWhile_isBlank_of_solid more blank, dropWhile_isBlank_of_solid more blank]

/-- A prefix of a text without blanks in front has none either. -/
theorem dropWhile_isBlank_of_prefix {front text : List Char} (begins : front <+: text.dropWhile isBlank) :
    front.dropWhile isBlank = front := by
  cases front with
  | nil => rfl
  | cons c more =>
      obtain ⟨rest, split⟩ := begins
      have solid := List.head?_dropWhile_not isBlank text
      rw [← split] at solid
      exact dropWhile_isBlank_of_solid more solid

theorem trimChars_begins (text : List Char) : trimChars text <+: text.dropWhile isBlank := by
  rw [← List.reverse_suffix, trimChars, List.reverse_reverse]
  exact List.dropWhile_suffix isBlank

theorem trimChars_trimChars (text : List Char) : trimChars (trimChars text) = trimChars text := by
  rw [trimChars, dropWhile_isBlank_of_prefix (trimChars_begins text), trimChars, List.reverse_reverse,
    dropWhile_isBlank_twice]

theorem trim_trim (text : String) : trim (trim text) = trim text := by
  rw [trim, trim, String.toList_ofList, trimChars_trimChars]

/-- A text of blanks only. -/
def Blanks (text : List Char) : Prop :=
  ∀ c ∈ text, isBlank c = true

instance (text : List Char) : Decidable (Blanks text) :=
  decidable_of_iff (text.all isBlank = true) List.all_eq_true

theorem trimChars_surrounded {before after : List Char} (text : List Char) (front : Blanks before)
    (back : Blanks after) : trimChars (before ++ (text ++ after)) = trimChars text := by
  have reversed : Blanks after.reverse := fun c member => back c (List.mem_reverse.mp member)
  rw [trimChars, List.dropWhile_append_of_pos front, List.dropWhile_append]
  cases all : (text.dropWhile isBlank).isEmpty with
  | true =>
      have none : after.dropWhile isBlank = [] := List.dropWhile_eq_nil_iff.mpr back
      rw [if_pos rfl, none, trimChars, List.isEmpty_iff.mp all]
  | false =>
      rw [if_neg (by decide), List.reverse_append, List.dropWhile_append_of_pos reversed, trimChars]

theorem exists_surrounded (text : List Char) :
    ∃ before after, Blanks before ∧ Blanks after ∧ text = before ++ (trimChars text ++ after) := by
  refine ⟨text.takeWhile isBlank, ((text.dropWhile isBlank).reverse.takeWhile isBlank).reverse,
    fun _ => List.mem_takeWhile_imp, ?_, ?_⟩
  · intro c member
    exact List.mem_takeWhile_imp (List.mem_reverse.mp member)
  · rw [trimChars, ← List.reverse_append, List.takeWhile_append_dropWhile, List.reverse_reverse,
      List.takeWhile_append_dropWhile]

theorem dropWhile_isBlank_eq_self {text : List Char} (solid : ∀ c ∈ text, isBlank c = false) :
    text.dropWhile isBlank = text := by
  cases text with
  | nil => rfl
  | cons c more => exact dropWhile_isBlank_of_solid more (solid c List.mem_cons_self)

/-- A text without blanks is trimmed to itself. -/
theorem trimChars_eq_self {text : List Char} (solid : ∀ c ∈ text, isBlank c = false) :
    trimChars text = text := by
  have reversed : ∀ c ∈ text.reverse, isBlank c = false :=
    fun c member => solid c (List.mem_reverse.mp member)
  rw [trimChars, dropWhile_isBlank_eq_self solid, dropWhile_isBlank_eq_self reversed, List.reverse_reverse]

/-- The first character that is left of a text is not blank. -/
theorem exists_solid {text : List Char} (some : trimChars text ≠ []) :
    ∃ c more, trimChars text = c :: more ∧ isBlank c = false := by
  obtain ⟨c, more, split⟩ := List.exists_cons_of_ne_nil some
  obtain ⟨rest, whole⟩ := trimChars_begins text
  have solid := List.head?_dropWhile_not isBlank text
  rw [← whole, split] at solid
  exact ⟨c, more, split, by simpa using solid⟩

/-- The first word of a text. -/
def firstWord (text : String) : String :=
  String.ofList ((trim text).toList.takeWhile fun c => !isBlank c)

/-- Goes one character to the left: the word that has not begun yet, and the words after it. -/
def wordStep (c : Char) (read : List Char × List (List Char)) : List Char × List (List Char) :=
  if isBlank c then if read.1.isEmpty then read else ([], read.1 :: read.2) else (c :: read.1, read.2)

theorem foldr_wordStep_fst (text : List Char) :
    (text.foldr wordStep ([], [])).1 = text.takeWhile fun c => !isBlank c := by
  induction text with
  | nil => rfl
  | cons c rest ih =>
      rw [List.foldr_cons, List.takeWhile_cons, ← ih, wordStep]
      cases isBlank c with
      | true =>
          rw [if_pos rfl]
          split
          · next empty => exact List.isEmpty_iff.mp empty
          · rfl
      | false => rfl

/-- A text that is not blank begins with its first word. -/
theorem words_trim {text : String} (solid : trim text ≠ "") :
    ∃ more, words (trim text) = firstWord text :: more := by
  have word : ((trim text).toList.takeWhile fun c => !isBlank c) ≠ [] := by
    have chars : trimChars text.toList ≠ [] := fun none => solid (by rw [trim, none])
    obtain ⟨c, more, split, first⟩ := exists_solid chars
    rw [trim, String.toList_ofList, split, List.takeWhile_cons, first]
    exact List.cons_ne_nil _ _
  rw [← foldr_wordStep_fst] at word
  have read : words (trim text) =
      (let read := (trim text).toList.foldr wordStep ([], [])
       (if read.1.isEmpty then read.2 else read.1 :: read.2).map String.ofList) := rfl
  dsimp only at read
  rw [if_neg (mt List.isEmpty_iff.mp word), List.map_cons, foldr_wordStep_fst] at read
  exact ⟨_, read⟩

/-- A text that is not blank and has no blanks around it. -/
def Plain (text : String) : Prop :=
  trim text = text ∧ text ≠ ""

theorem plain_trim {text : String} (solid : trim text ≠ "") : Plain (trim text) :=
  ⟨trim_trim text, solid⟩

end Switchboard.Text
