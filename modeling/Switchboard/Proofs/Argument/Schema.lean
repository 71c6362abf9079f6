import Switchboard.Argument.Negotiation
import Switchboard.Proofs.Json.Records

/-!
Schemas on their way to a controller and back: the text of a schema is read as the schema, and as the
values it is filled with.
-/

namespace Switchboard

open Json Json.RecordShape

def ArgumentEntry.members (entry : ArgumentEntry) : List (Member ArgumentEntry) :=
  [⟨"key", .text entry.key, fun e => { e with key := entry.key }⟩,
    ⟨"value", .text entry.value, fun e => { e with value := entry.value }⟩]

theorem ArgumentEntry.fits (entry : ArgumentEntry) : ∀ p ∈ entry.members, p.Fits shape := by
  intro p member
  rcases List.mem_cons.mp member with rfl | member
  · exact ⟨_, rfl, reads_map _ (reads_text _)⟩
  · obtain rfl := List.mem_singleton.mp member
    exact ⟨_, rfl, reads_map _ (reads_text _)⟩

theorem ArgumentEntry.reads (entry : ArgumentEntry) :
    Reads shape.decoder.read entry.toValue.chars entry := by
  have names : entry.members.map Member.name = ["key", "value"] := rfl
  refine reads_object entry.members entry.fits ?_ ?_
  · rw [names]
    decide
  · rw [names]
    decide

theorem ArgumentEntry.nested (entry : ArgumentEntry) (depth : Nat) :
    Nested (depth + 1) entry.toValue := by
  apply Nested.object
  intro member which
  rcases List.mem_cons.mp which with rfl | which
  · exact .text entry.key
  · obtain rfl := List.mem_singleton.mp which
    exact .text entry.value

namespace ArgumentSchema

def members (s : ArgumentSchema) : List (Member ArgumentSchema) :=
  [⟨"command", .text s.command, fun t => { t with command := s.command }⟩,
    ⟨"description", .text s.description, fun t => { t with description := s.description }⟩,
    ⟨"syntax", .text s.usage, fun t => { t with usage := s.usage }⟩,
    ⟨"entries", .list (s.entries.map ArgumentEntry.toValue),
      fun t => { t with entries := s.entries }⟩]

theorem reads_entries (entries : List ArgumentEntry) :
    Reads (Decoder.list ArgumentEntry.shape.decoder).read
      (Value.list (entries.map ArgumentEntry.toValue)).chars entries :=
  reads_list_map fun entry _ => ⟨entry.reads, startsItem_object _⟩

theorem fits (s : ArgumentSchema) : ∀ p ∈ s.members, p.Fits shape := by
  intro p member
  simp only [members, List.mem_cons, List.not_mem_nil, or_false] at member
  rcases member with rfl | rfl | rfl | rfl
  · exact ⟨_, rfl, reads_map _ (reads_text _)⟩
  · exact ⟨_, rfl, reads_map _ (reads_text _)⟩
  · exact ⟨_, rfl, reads_map _ (reads_text _)⟩
  · exact ⟨_, rfl, reads_map _ (reads_entries _)⟩

theorem reads (s : ArgumentSchema) : Reads shape.decoder.read s.toValue.chars s := by
  have names : s.members.map Member.name = ["command", "description", "syntax", "entries"] := rfl
  refine reads_object s.members s.fits ?_ ?_
  · rw [names]
    decide
  · rw [names]
    decide

theorem ofJson_toJson (s : ArgumentSchema) : ofJson s.toJson = .ok s := by
  rw [ofJson, toJson, decode_compact s.reads]

theorem nested (s : ArgumentSchema) (depth : Nat) : Nested (depth + 3) s.toValue := by
  apply Nested.object
  intro member which
  simp only [List.mem_cons, List.not_mem_nil, or_false] at which
  rcases which with rfl | rfl | rfl | rfl
  · exact .text s.command
  · exact .text s.description
  · exact .text s.usage
  · apply Nested.list
    intro item member
    obtain ⟨entry, -, rfl⟩ := List.mem_map.mp member
    exact entry.nested depth

end ArgumentSchema

end Switchboard
