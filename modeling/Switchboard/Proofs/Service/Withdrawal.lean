import Switchboard.Proofs.Service.Sharing

/-!
What withdrawing a name does to the lookup of others. Names that only differ in characters that do not stand
in the name of a file share a file. A lookup tells them apart by the name in the file, but a withdrawal removes the
file, whichever of them it advertises.
-/

namespace Switchboard

namespace SharedDirectory

variable {d : SharedDirectory} {f : Folder} {entries : List (String × FolderEntry)} {name other : String}

theorem fileName_eq_iff_stem {a b : String} : fileName a = fileName b ↔ stem a = stem b :=
  ⟨stem_eq_of_fileName_eq, congrArg (· ++ ".json")⟩

/-- What a call of `advertise` leaves under the names of service files, also when it fails. -/
theorem lookup_advertise (d : SharedDirectory) (there : f.entries? = some entries) (now : UInt64)
    (name : String) (port : UInt16) : ∃ entries', (d.advertise f now name port).2.2.entries? = some entries' ∧
      ∀ other, entries'.lookup (fileName other) = entries.lookup (fileName other) ∨
        stem other = stem name ∧ ∃ record : ServiceRecord, record.service.name = name ∧
          entries'.lookup (fileName other) = some (.file record.toJson.toUTF8.toList) := by
  have apart (other : String) : fileName other ≠ d.draftName name := (draftName_ne_fileName d name other).symm
  rw [advertise]
  split
  · exact ⟨entries, there, fun other => .inl rfl⟩
  · next written =>
      have draft := Folder.write_eq_ok there written
      split
      · exact ⟨_, draft, fun other => .inl (Association.lookup_put_of_ne (apart other) _ _)⟩
      · next renamed =>
          obtain ⟨entry, held, after⟩ := Folder.rename_eq_ok draft renamed
          rw [Association.lookup_put_self, Option.some.injEq] at held
          subst held
          refine ⟨_, after, fun other => ?_⟩
          rw [Association.lookup_moved _ (apart other)]
          split
          case isTrue same =>
            exact .inr ⟨stem_eq_of_fileName_eq same, ⟨⟨name, d.host, port⟩, d.pid, now⟩, rfl, rfl⟩
          case isFalse _ => exact .inl rfl

/-- Whatever a withdrawal answers, the file of the name is gone from a folder that has a file there; otherwise
nothing has changed. -/
theorem withdraw_folder (f : Folder) (name : String) :
    (∃ content, f.lookup (fileName name) = .ok (some (.file content)) ∧
      withdraw f name = (.ok (), f.erase (fileName name))) ∨
    (∀ content, f.lookup (fileName name) ≠ .ok (some (.file content))) ∧ (withdraw f name).2 = f := by
  rw [withdraw, Folder.remove]
  rcases found : f.lookup (fileName name) with e | none | content | folder
  · refine .inr ⟨by simp, ?_⟩
    cases e <;> rfl
  · exact .inr ⟨by simp, rfl⟩
  · exact .inl ⟨content, rfl, rfl⟩
  · exact .inr ⟨by simp, rfl⟩

end SharedDirectory

open SharedDirectory

/-- The folder after a call, whether the call succeeds or fails. -/
def DirectoryCall.perform (f : Folder) : DirectoryCall → Folder
  | advertise d now name port => (d.advertise f now name port).2.2
  | withdraw name => (SharedDirectory.withdraw f name).2

/-- The folder is there, and what stands under the name of a service file advertises a service that may have
this file. -/
def Filed (f : Folder) : Prop :=
  ∃ entries, f.entries? = some entries ∧ ∀ name entry, entries.lookup (fileName name) = some entry →
    ∃ record : ServiceRecord, stem record.service.name = stem name ∧
      entry = .file record.toJson.toUTF8.toList

namespace Filed

variable {f : Folder}

theorem empty : Filed .empty := by
  refine ⟨[], rfl, ?_⟩
  intro name entry found
  cases found

theorem advertise (h : Filed f) (d : SharedDirectory) (now : UInt64) (name : String) (port : UInt16) :
    Filed (d.advertise f now name port).2.2 := by
  obtain ⟨entries, there, records⟩ := h
  obtain ⟨entries', after, looked⟩ := lookup_advertise d there now name port
  refine ⟨entries', after, ?_⟩
  intro other entry found
  obtain same | ⟨shares, record, named, new⟩ := looked other
  · rw [same] at found
    exact records other entry found
  · rw [new, Option.some.injEq] at found
    exact ⟨record, by rw [named, shares], found.symm⟩

theorem withdraw (h : Filed f) (name : String) : Filed (SharedDirectory.withdraw f name).2 := by
  obtain ⟨content, -, gone⟩ | ⟨-, same⟩ := withdraw_folder f name
  · rw [gone]
    obtain ⟨entries, there, records⟩ := h
    refine ⟨Association.erase (fileName name) entries, by rw [Folder.erase, there, Option.map_some], ?_⟩
    intro other entry found
    by_cases here : fileName other = fileName name
    · rw [here, Association.lookup_erase_self] at found
      cases found
    · rw [Association.lookup_erase_of_ne here] at found
      exact records other entry found
  · rw [same]
    exact h

theorem perform (h : Filed f) (call : DirectoryCall) : Filed (call.perform f) := by
  cases call with
  | advertise d now name port => exact h.advertise d now name port
  | withdraw name => exact h.withdraw name

theorem run (h : Filed f) (calls : List DirectoryCall) : Filed (calls.foldl DirectoryCall.perform f) := by
  induction calls generalizing f with
  | nil => exact h
  | cons call rest ih => exact ih (h.perform call)

/-- What a lookup finds under the name of a service file. -/
theorem lookup (h : Filed f) (name : String) :
    f.lookup (fileName name) = .error .nameTooLong ∨ f.lookup (fileName name) = .ok none ∨
      ∃ record : ServiceRecord, stem record.service.name = stem name ∧
        f.lookup (fileName name) = .ok (some (.file record.toJson.toUTF8.toList)) := by
  obtain ⟨entries, there, records⟩ := h
  by_cases fits : (fileName name).utf8ByteSize ≤ Folder.longestName
  · rw [Folder.lookup_of_there there fits]
    cases found : entries.lookup (fileName name) with
    | none => exact .inr (.inl rfl)
    | some entry =>
        obtain ⟨record, shares, rfl⟩ := records name entry found
        exact .inr (.inr ⟨record, shares, rfl⟩)
  · refine .inl ?_
    rw [Folder.lookup, if_pos (Nat.lt_of_not_le fits), there, Option.isSome_some, if_pos rfl]

end Filed

namespace SharedDirectory

variable {f : Folder} {name : String}

/-- A lookup sees nothing of a folder but what stands under the name of the file. -/
theorem resolve_congr (d : SharedDirectory) {f' : Folder}
    (same : f'.lookup (fileName name) = f.lookup (fileName name)) : d.resolve f' name = d.resolve f name := by
  rw [resolve, resolve, Folder.read, Folder.read, same]

theorem resolve_of_lookup_none (d : SharedDirectory) (found : f.lookup (fileName name) = .ok none) :
    d.resolve f name = .error (noService name) := by
  rw [resolve, Folder.read, found]

theorem resolve_of_lookup_record (d : SharedDirectory) {record : ServiceRecord}
    (found : f.lookup (fileName name) = .ok (some (.file record.toJson.toUTF8.toList))) :
    d.resolve f name =
      if record.service.name = name then .ok record.service else .error (noService name) := by
  rw [resolve, Folder.read, found]
  simp only [readService_toJson, beq_iff_eq]

end SharedDirectory

/-- A name that is found is that of the service in its file. -/
theorem Filed.exists_record {f : Folder} (h : Filed f) {d : SharedDirectory} {name : String} {s : Service}
    (known : d.resolve f name = .ok s) : ∃ record : ServiceRecord,
      f.lookup (fileName name) = .ok (some (.file record.toJson.toUTF8.toList)) ∧ record.service = s ∧
        s.name = name := by
  obtain long | none | ⟨record, -, found⟩ := h.lookup name
  · rw [resolve, Folder.read, long] at known
    cases known
  · rw [resolve_of_lookup_none d none] at known
    cases known
  · rw [resolve_of_lookup_record d found] at known
    split at known
    case isTrue named =>
      cases known
      exact ⟨record, found, rfl, named⟩
    case isFalse _ => cases known

/-- What withdrawing a name does to the lookup of any name in a folder. -/
structure WithdrawalLaw (d : SharedDirectory) (f : Folder) : Prop where
  /-- A withdrawal that fails changes nothing. -/
  refused : ∀ name, (withdraw f name).1 ≠ .ok () → (withdraw f name).2 = f
  /-- Of the names that share a file, one is known at most. -/
  sole : ∀ name other s t, stem name = stem other → d.resolve f name = .ok s → d.resolve f other = .ok t →
    name = other
  /-- Withdrawing a name takes away the known name that shares its file, whether or not it is the same. -/
  shared : ∀ name other s, stem name = stem other → d.resolve f other = .ok s →
    (withdraw f name).1 = .ok () ∧ d.resolve (withdraw f name).2 other = .error (noService other)
  /-- Nothing else changes for a lookup. -/
  unchanged_iff : ∀ name other, d.resolve (withdraw f name).2 other = d.resolve f other ↔
    ¬ (stem name = stem other ∧ ∃ s, d.resolve f other = .ok s)
  /-- So a name that is known itself can be withdrawn without harm to others. -/
  advertised : ∀ name other s, name ≠ other → d.resolve f name = .ok s →
    d.resolve (withdraw f name).2 other = d.resolve f other

namespace Filed

variable {f : Folder} {name other : String} {s t : Service}

theorem sole (h : Filed f) (d : SharedDirectory) (shares : stem name = stem other)
    (known : d.resolve f name = .ok s) (also : d.resolve f other = .ok t) : name = other := by
  obtain ⟨record, found, rfl, rfl⟩ := h.exists_record known
  obtain ⟨record', found', rfl, rfl⟩ := h.exists_record also
  rw [fileName_eq_iff_stem.mpr shares, found'] at found
  have content : record'.toJson.toUTF8.toList = record.toJson.toUTF8.toList := by
    simpa using found
  have read := readService_toJson d record' ""
  rw [content, readService_toJson, Except.ok.injEq] at read
  rw [read]

theorem resolve_withdraw_of_known (h : Filed f) (d : SharedDirectory) (shares : stem name = stem other)
    (known : d.resolve f other = .ok s) : (SharedDirectory.withdraw f name).1 = .ok () ∧
      d.resolve (SharedDirectory.withdraw f name).2 other = .error (noService other) := by
  obtain ⟨record, found, -⟩ := h.exists_record known
  have file : fileName name = fileName other := fileName_eq_iff_stem.mpr shares
  obtain ⟨content, there, gone⟩ | ⟨absent, -⟩ := withdraw_folder f name
  · have after := Folder.lookup_erase_self there
    rw [file] at after
    rw [gone, file]
    exact ⟨rfl, resolve_of_lookup_none d after⟩
  · rw [← file] at found
    exact absurd found (absent _)

theorem resolve_withdraw_of_stem_ne (d : SharedDirectory) (apart : stem name ≠ stem other) :
    d.resolve (SharedDirectory.withdraw f name).2 other = d.resolve f other := by
  refine resolve_congr d ?_
  obtain ⟨content, -, gone⟩ | ⟨-, same⟩ := withdraw_folder f name
  · rw [gone]
    exact Folder.lookup_erase_of_ne f fun same => apart (stem_eq_of_fileName_eq same).symm
  · rw [same]

/-- Where the file shared by two names holds a third one, the others were unknown before and stay so. -/
theorem resolve_withdraw_of_unknown (h : Filed f) (d : SharedDirectory)
    (unknown : ∀ s, d.resolve f other ≠ .ok s) :
    d.resolve (SharedDirectory.withdraw f name).2 other = d.resolve f other := by
  by_cases shares : stem name = stem other
  · obtain ⟨content, there, gone⟩ | ⟨-, same⟩ := withdraw_folder f name
    · have file : fileName name = fileName other := fileName_eq_iff_stem.mpr shares
      have after := Folder.lookup_erase_self there
      rw [file] at there after
      rw [gone, file, resolve_of_lookup_none d after]
      obtain long | none | ⟨record, -, found⟩ := h.lookup other
      · rw [long] at there
        cases there
      · rw [none] at there
        cases there
      · have known := resolve_of_lookup_record d found
        split at known
        case isTrue _ => exact absurd known (unknown _)
        case isFalse _ => exact known.symm
    · rw [same]
  · exact resolve_withdraw_of_stem_ne d shares

theorem law (h : Filed f) (d : SharedDirectory) : WithdrawalLaw d f where
  refused name failed := by
    obtain ⟨content, -, gone⟩ | ⟨-, same⟩ := withdraw_folder f name
    · exact absurd (congrArg Prod.fst gone) failed
    · exact same
  sole name other s t shares known also := h.sole d shares known also
  shared name other s shares known := h.resolve_withdraw_of_known d shares known
  unchanged_iff name other := by
    constructor
    · rintro same ⟨shares, s, known⟩
      obtain ⟨-, after⟩ := h.resolve_withdraw_of_known d shares known
      rw [same, known] at after
      cases after
    · intro safe
      by_cases shares : stem name = stem other
      · exact h.resolve_withdraw_of_unknown d fun s known => safe ⟨shares, s, known⟩
      · exact resolve_withdraw_of_stem_ne d shares
  advertised name other s apart known := by
    by_cases shares : stem name = stem other
    · exact h.resolve_withdraw_of_unknown d fun t also => apart (h.sole d shares known also)
    · exact resolve_withdraw_of_stem_ne d shares

end Filed

/-- In every folder that calls of `advertise` and `withdraw` lead to, failing ones included and through whichever
instances, a withdrawal changes the lookup of another name just when that name is known and shares the file. -/
theorem withdrawal_law (calls : List DirectoryCall) (d : SharedDirectory) :
    WithdrawalLaw d (calls.foldl DirectoryCall.perform .empty) :=
  (Filed.empty.run calls).law d

/-- Nobody advertised the name that is withdrawn, and the service of another name is gone. -/
theorem neighbour_withdrawn :
    let f := (DirectoryCall.advertise here 1700000000 "hall/1" 7000).perform .empty
    "hall_1" ≠ "hall/1" ∧ here.resolve f "hall/1" = .ok ⟨"hall/1", "10.0.0.7", 7000⟩ ∧
      here.resolve (withdraw f "hall_1").2 "hall/1" = .error (noService "hall/1") := by
  decide +kernel

end Switchboard
