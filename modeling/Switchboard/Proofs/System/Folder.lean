import Switchboard.Proofs.Association
import Switchboard.System.Folder

/-!
What a folder holds after an operation.
-/

namespace Switchboard.Folder

variable {f f' : Folder} {entries : List (String × FolderEntry)} {name target other : String}

theorem lookup_eq_ok {found : Option FolderEntry} (h : f.lookup name = .ok found) :
    found = f.entries.lookup name := by
  rw [lookup] at h
  split at h
  · split at h <;> cases h
  · exact (Except.ok.inj h).symm

theorem lookup_of_there (there : f.entries? = some entries) (fits : name.utf8ByteSize ≤ longestName) :
    f.lookup name = .ok (entries.lookup name) := by
  rw [lookup, if_neg (Nat.not_lt_of_le fits), Folder.entries, there, Option.getD_some]

theorem write_eq_ok {content : List UInt8} (there : f.entries? = some entries)
    (h : f.write name content = .ok f') :
    f'.entries? = some (Association.put name (.file content) entries) := by
  rw [write] at h
  split at h
  · cases h
  · cases h
  · cases h
  · rw [← Except.ok.inj h, put, there, Option.map_some]

/-- A file that was renamed stands under its new name only. -/
theorem rename_eq_ok (there : f.entries? = some entries) (h : f.rename name target = .ok f') :
    ∃ entry, entries.lookup name = some entry ∧
      f'.entries? = some (Association.put target entry (Association.erase name entries)) := by
  rw [rename] at h
  split at h
  · cases h
  · cases h
  · cases h
  · cases h
  · next entry _ _ found _ =>
      refine ⟨entry, ?_, ?_⟩
      · have held := lookup_eq_ok found
        rw [Folder.entries, there, Option.getD_some] at held
        exact held.symm
      · rw [← Except.ok.inj h, put, erase, there, Option.map_some, Option.map_some]

theorem remove_eq_ok (there : f.entries? = some entries) (h : f.remove name = .ok f') :
    f'.entries? = some (Association.erase name entries) := by
  rw [remove] at h
  split at h
  · cases h
  · cases h
  · cases h
  · rw [← Except.ok.inj h, erase, there, Option.map_some]

theorem lookup_eq_none_of_remove (there : f.entries? = some entries)
    (h : f.remove name = .error .noSuchFile) : entries.lookup name = none := by
  rw [remove] at h
  split at h
  · next failed =>
      rw [lookup, there] at failed
      split at failed
      · cases failed
        cases h
      · cases failed
  · next found =>
      have held := lookup_eq_ok found
      rw [Folder.entries, there, Option.getD_some] at held
      exact held.symm
  · cases h
  · cases h

theorem lookup_erase_of_ne (f : Folder) (apart : other ≠ name) : (f.erase name).lookup other = f.lookup other := by
  have entries : (f.erase name).entries.lookup other = f.entries.lookup other := by
    rw [Folder.entries, erase, Folder.entries]
    cases f.entries? with
    | none => rfl
    | some entries => exact Association.lookup_erase_of_ne apart entries
  rw [lookup, lookup, entries, erase, Option.isSome_map]

theorem lookup_erase_self {found : Option FolderEntry} (looked : f.lookup name = .ok found) :
    (f.erase name).lookup name = .ok none := by
  have none : (f.erase name).entries.lookup name = none := by
    rw [Folder.entries, erase]
    cases f.entries? with
    | none => rfl
    | some entries => exact Association.lookup_erase_self name entries
  rw [lookup] at looked ⊢
  split at looked
  case isTrue long => split at looked <;> cases looked
  case isFalse fits => rw [if_neg fits, none]

end Switchboard.Folder
