import Mathlib.Data.List.Induction
import Switchboard.Proofs.Argument.Schema
import Switchboard.Proofs.Text.Blank

/-!
Filled arguments: those read from the text of a schema are its entries, and setting keys one after the
other leaves the last value of each.
-/

namespace Switchboard

open Json

theorem Json.Value.canonicalItems_eq (items : List Value) :
    canonicalItems items = items.map canonical := by
  induction items with
  | nil => rfl
  | cons item rest ih => rw [canonicalItems, ih, List.map_cons]

theorem mapM_map_ok {α β ε : Type} {f : β → Except ε α} {g : α → β} (same : ∀ x, f (g x) = .ok x)
    (xs : List α) : (xs.map g).mapM f = .ok xs := by
  induction xs with
  | nil => rfl
  | cons x rest ih =>
      rw [List.map_cons, List.mapM_cons, same, ih]
      rfl

theorem ArgumentEntry.canonical_toValue (entry : ArgumentEntry) :
    entry.toValue.canonical = entry.toValue := by
  have order : ¬"value" < "key" := by decide
  simp [toValue, Value.canonical, Value.canonicalMembers, Value.insertMember, order]

theorem ArgumentEntry.ofValue_toValue (surplus : Surplus) (entry : ArgumentEntry) :
    shape.decoder.ofValue surplus entry.toValue = .ok entry := by
  rfl

namespace ArgumentSchema

theorem canonical_toValue (s : ArgumentSchema) :
    s.toValue.canonical = .object [("command", .text s.command),
      ("description", .text s.description),
      ("entries", .list (s.entries.map ArgumentEntry.toValue)), ("syntax", .text s.usage)] := by
  have items : (s.entries.map ArgumentEntry.toValue).map Value.canonical =
      s.entries.map ArgumentEntry.toValue := by
    rw [List.map_map]
    exact List.map_congr_left fun entry _ => entry.canonical_toValue
  have order : ¬"description" < "command" ∧ ¬"syntax" < "command" ∧ ¬"syntax" < "description" ∧
      ¬"entries" < "command" ∧ ¬"entries" < "description" ∧ "entries" < "syntax" := by decide
  simp [toValue, Value.canonical, Value.canonicalMembers, Value.insertMember,
    Value.canonicalItems_eq, items, order]

/-- The members of a schema in the order of their names. -/
def orderedMembers (s : ArgumentSchema) : List (RecordShape.Member ArgumentSchema) :=
  [⟨"command", .text s.command, fun t => { t with command := s.command }⟩,
    ⟨"description", .text s.description, fun t => { t with description := s.description }⟩,
    ⟨"entries", .list (s.entries.map ArgumentEntry.toValue),
      fun t => { t with entries := s.entries }⟩,
    ⟨"syntax", .text s.usage, fun t => { t with usage := s.usage }⟩]

theorem suits (surplus : Surplus) (s : ArgumentSchema) :
    ∀ p ∈ s.orderedMembers, p.Suits shape surplus := by
  have entries : (Decoder.list ArgumentEntry.shape.decoder).ofValue surplus
      (.list (s.entries.map ArgumentEntry.toValue)) = .ok s.entries :=
    mapM_map_ok (fun entry => entry.ofValue_toValue surplus) s.entries
  intro p member
  simp only [orderedMembers, List.mem_cons, List.not_mem_nil, or_false] at member
  rcases member with rfl | rfl | rfl | rfl
  · exact ⟨_, rfl, rfl⟩
  · exact ⟨_, rfl, rfl⟩
  · refine ⟨_, rfl, ?_⟩
    simp only [Field.withDefault, Decoder.map, entries]
    rfl
  · exact ⟨_, rfl, rfl⟩

theorem ofValue_canonical (surplus : Surplus) (s : ArgumentSchema) :
    shape.decoder.ofValue surplus s.toValue.canonical = .ok s := by
  have names : s.orderedMembers.map RecordShape.Member.name =
      ["command", "description", "entries", "syntax"] := rfl
  rw [canonical_toValue]
  refine RecordShape.ofValue_object s.orderedMembers (s.suits surplus) ?_ ?_
  · rw [names]
    decide
  · rw [names]
    decide

end ArgumentSchema

namespace ArgumentValues

theorem parse_toJson (s : ArgumentSchema) : parse s.toJson = .ok ⟨s.entries⟩ := by
  have decoded := s.ofValue_canonical .refused
  have read : readValue s.toJson = .ok s.toValue := readValue_compact (s.nested 124)
  rw [s.canonical_toValue] at decoded
  rw [parse, read]
  simp only [s.canonical_toValue, ofMembers, decoded]
  rfl

end ArgumentValues

theorem lookupEntry_cons (key : String) (entry : ArgumentEntry) (rest : List ArgumentEntry) :
    lookupEntry key (entry :: rest) =
      if entry.key = key then some entry.value else lookupEntry key rest := by
  rw [lookupEntry, List.find?_cons]
  by_cases same : entry.key = key
  · simp [same]
  · have apart : (entry.key == key) = false := by simpa using same
    simp [same, apart, lookupEntry]

/-- The entries made from pairs are looked up like the pairs. -/
theorem lookupEntry_map {α : Type} (key : String) (text : α → String) (pairs : List (String × α)) :
    lookupEntry key (pairs.map fun (key, x) => { key, value := text x }) =
      (pairs.lookup key).map text := by
  induction pairs with
  | nil => rfl
  | cons pair rest ih =>
      obtain ⟨other, x⟩ := pair
      rw [List.map_cons, lookupEntry_cons, ih, List.lookup_cons]
      by_cases same : other = key
      · simp [same]
      · have apart : (key == other) = false := by simpa using Ne.symm same
        simp [same, apart]

theorem lookupEntry_setEntry (key other value : String) (entries : List ArgumentEntry) :
    lookupEntry key (setEntry other value entries) =
      if other = key then (lookupEntry key entries).map (fun _ => value)
      else lookupEntry key entries := by
  induction entries with
  | nil => simp [setEntry, lookupEntry]
  | cons entry rest ih =>
      rw [setEntry, lookupEntry_cons key entry rest]
      by_cases found : entry.key = other
      · rw [if_pos (by simpa using found), lookupEntry_cons]
        by_cases same : other = key
        · simp [found, same]
        · simp [found, same]
      · rw [if_neg (by simpa using found), lookupEntry_cons, ih]
        by_cases same : other = key
        · have apart : entry.key ≠ key := same ▸ found
          simp [same, apart]
        · simp [same]

namespace ArgumentSchema

/-- The value of a key once values are filled in: the last one given for it, or else its default. A key
that the schema lacks has none. -/
def filledValue (s : ArgumentSchema) (values : List (String × String)) (key : String) :
    Option String :=
  (s.get? key).map fun default => (values.reverse.lookup key).getD default

def filled (s : ArgumentSchema) (values : List (String × String)) : ArgumentSchema :=
  values.foldl (fun s given => s.set given.1 given.2) s

theorem resubmission_data (s : ArgumentSchema) (values : List (String × String)) :
    (s.resubmission values).data = some (s.filled values).toJson :=
  rfl

theorem get?_set (s : ArgumentSchema) (key other value : String) :
    (s.set other value).get? key =
      if other = key then (s.get? key).map (fun _ => value) else s.get? key :=
  lookupEntry_setEntry key other value s.entries

theorem get?_filled (s : ArgumentSchema) (values : List (String × String)) (key : String) :
    (s.filled values).get? key = s.filledValue values key := by
  induction values using List.reverseRecOn with
  | nil =>
      rw [filled, filledValue, List.foldl_nil, List.reverse_nil, List.lookup_nil]
      simp
  | append_singleton values last ih =>
      obtain ⟨other, value⟩ := last
      have last : s.filled (values ++ [(other, value)]) = (s.filled values).set other value := by
        simp [filled]
      rw [last, get?_set, ih, filledValue, filledValue, List.reverse_append, List.reverse_singleton,
        List.singleton_append, List.lookup_cons]
      by_cases same : other = key
      · simp only [same, if_true, BEq.rfl, Option.map_map, Option.getD_some]
        rfl
      · have apart : (key == other) = false := by simpa using Ne.symm same
        simp [same, apart]

theorem trim_toJson (s : ArgumentSchema) : Text.trim s.toJson = s.toJson :=
  trim_compact_object _

theorem toJson_ne_empty (s : ArgumentSchema) : s.toJson ≠ "" := by
  obtain ⟨text, chars⟩ := object_ends _
  intro empty
  have letters := congrArg String.toList empty
  rw [toJson, Value.compact, String.toList_ofList, toValue, chars] at letters
  cases letters

end ArgumentSchema

end Switchboard
