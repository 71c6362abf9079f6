import Mathlib.Data.List.Forall2
import Mathlib.Data.String.Basic
import Switchboard.Proofs.Payload.Lines
import Switchboard.Proofs.Service.Record
import Switchboard.Proofs.System.Folder
import Switchboard.Service.Shared

/-!
The shared directory against the one inside a process. As long as the folder does what it is asked to and
no two names share a file, looking a service up gives the same in both, and so does listing those known,
through whichever instances of the shared directory the calls and the lookups go.
-/

namespace Switchboard

namespace SharedDirectory

theorem toList_fileName (name : String) :
    (fileName name).toList = (stem name).toList ++ ['.', 'j', 's', 'o', 'n'] :=
  String.toList_append

theorem stem_eq_of_fileName_eq {a b : String} (h : fileName a = fileName b) : stem a = stem b := by
  have letters := congrArg String.toList h
  rw [toList_fileName, toList_fileName] at letters
  exact String.toList_injective (List.append_cancel_right letters)

/-- A file is never written under the name of another. -/
theorem draftName_ne_fileName (d : SharedDirectory) (name other : String) :
    d.draftName name ≠ fileName other := by
  have draft : (d.draftName name).toList.getLast? = some 'p' := by
    rw [draftName, String.toList_append, List.getLast?_append]
    rfl
  have file : (fileName other).toList.getLast? = some 'n' := by
    rw [toList_fileName, List.getLast?_append]
    rfl
  intro same
  rw [same, file] at draft
  cases draft

theorem isServiceFile_fileName {name : String} (named : name ≠ "") :
    isServiceFile (fileName name) = true := by
  have ends : (fileName name).endsWith ".json" = true := by
    rw [String.endsWith_eq_endsWith_toSlice, String.Slice.endsWith_string_iff, String.copy_toSlice,
      toList_fileName]
    exact List.suffix_append _ _
  have more : fileName name ≠ ".json" := by
    intro same
    have letters := congrArg String.toList same
    rw [toList_fileName] at letters
    exact named (by simpa [stem] using letters)
  rw [isServiceFile, ends, Bool.true_and]
  exact bne_iff_ne.mpr more

variable {d : SharedDirectory} {f f' : Folder} {entries : List (String × FolderEntry)}

theorem withdraw_eq_ok {name : String} (there : f.entries? = some entries)
    (h : withdraw f name = (.ok (), f')) :
    f'.entries? = some (Association.erase (fileName name) entries) := by
  rw [withdraw] at h
  split at h
  · next removed =>
      cases h
      exact Folder.remove_eq_ok there removed
  · next removed =>
      cases h
      rw [Association.erase_of_lookup_eq_none (Folder.lookup_eq_none_of_remove there removed)]
      exact there
  · cases h

theorem advertise_eq_ok {d' : SharedDirectory} {now : UInt64} {name : String} {port : UInt16}
    (there : f.entries? = some entries) (free : entries.lookup (d.draftName name) = none)
    (h : d.advertise f now name port = (.ok (), d', f')) :
    ∃ record : ServiceRecord, record.service = { name, host := d.host, port } ∧ f'.entries? =
      some (Association.put (fileName name) (.file record.toJson.toUTF8.toList) entries) := by
  rw [advertise] at h
  split at h
  · cases h
  · next written =>
      split at h
      · cases h
      · next renamed =>
          cases h
          refine ⟨⟨{ name, host := d.host, port }, d.pid, now⟩, rfl, ?_⟩
          obtain ⟨entry, held, after⟩ := Folder.rename_eq_ok (Folder.write_eq_ok there written) renamed
          rw [Association.lookup_put_self, Option.some.injEq] at held
          rw [after, ← held, Association.erase_put_self _ free]

theorem readService_toJson (d : SharedDirectory) (record : ServiceRecord) (file : String) :
    d.readService record.toJson.toUTF8.toList file = .ok record.service := by
  rw [readService, textOfBytes?_eq_some_iff.mpr rfl]
  simp only [ServiceRecord.ofJson_toJson]

end SharedDirectory

open SharedDirectory

/-- A call that changes which services are known. -/
inductive DirectoryCall
  /-- A service is advertised at some time through an instance of the shared directory. -/
  | advertise (d : SharedDirectory) (now : UInt64) (name : String) (port : UInt16)
  | withdraw (name : String)

namespace DirectoryCall

def name : DirectoryCall → String
  | advertise _ _ name _ => name
  | withdraw name => name

/-- Holds when what is advertised is on a host. -/
def On (host : String) : DirectoryCall → Prop
  | advertise d _ _ _ => d.host = host
  | withdraw _ => True

/-- Holds when no name of a file in the call is too long. -/
def Fits : DirectoryCall → Prop
  | advertise d _ name _ => (d.draftName name).utf8ByteSize ≤ Folder.longestName ∧
      (fileName name).utf8ByteSize ≤ Folder.longestName
  | withdraw name => (fileName name).utf8ByteSize ≤ Folder.longestName

instance (host : String) : DecidablePred (On host)
  | advertise d _ _ _ => inferInstanceAs (Decidable (d.host = host))
  | withdraw _ => inferInstanceAs (Decidable True)

instance : DecidablePred Fits
  | advertise d _ name _ => inferInstanceAs (Decidable
      ((d.draftName name).utf8ByteSize ≤ Folder.longestName ∧
        (fileName name).utf8ByteSize ≤ Folder.longestName))
  | withdraw name => inferInstanceAs (Decidable ((fileName name).utf8ByteSize ≤ Folder.longestName))

/-- Makes a call of the shared directory. -/
def share (f : Folder) : DirectoryCall → Except ServiceError Folder
  | advertise d now name port =>
    let (outcome, _, f) := d.advertise f now name port
    outcome.map fun _ => f
  | withdraw name =>
    let (outcome, f) := SharedDirectory.withdraw f name
    outcome.map fun _ => f

/-- Makes the same call of the directory inside the process. -/
def keep (d : LocalDirectory) : DirectoryCall → LocalDirectory
  | advertise _ _ name port => d.advertise name port
  | withdraw name => d.withdraw name

end DirectoryCall

/-- No two names share a file. -/
def FilesApart (names : List String) : Prop :=
  ∀ a ∈ names, ∀ b ∈ names, stem a = stem b → a = b

/-- A file that advertises a service with one of some names. -/
inductive Advertises (names : List String) : String × FolderEntry → Service → Prop
  | file (record : ServiceRecord) : record.service.name ∈ names →
    Advertises names (fileName record.service.name, .file record.toJson.toUTF8.toList) record.service

section entries

variable {names : List String} {entries : List (String × FolderEntry)} {services : List Service}
  {name : String}

theorem fileName_eq_iff (apart : FilesApart names) {a b : String} (ha : a ∈ names) (hb : b ∈ names) :
    fileName a = fileName b ↔ a = b :=
  ⟨fun same => apart a ha b hb (stem_eq_of_fileName_eq same), congrArg fileName⟩

theorem erase_reflects (apart : FilesApart names) (member : name ∈ names)
    (h : List.Forall₂ (Advertises names) entries services) :
    List.Forall₂ (Advertises names) (Association.erase (fileName name) entries)
      (LocalDirectory.without name services) := by
  refine List.rel_filter ?_ h
  rintro _ _ ⟨record, mem⟩
  simp only [bne_iff_ne, ne_eq, fileName_eq_iff apart mem member]

theorem lookup_draftName (d : SharedDirectory) (name : String)
    (h : List.Forall₂ (Advertises names) entries services) :
    entries.lookup (d.draftName name) = none := by
  induction h with
  | nil => rfl
  | cons same _ ih =>
      obtain ⟨record, _⟩ := same
      have other : (d.draftName name == fileName record.service.name) = false :=
        beq_eq_false_iff_ne.mpr (draftName_ne_fileName d name _)
      rw [List.lookup_cons, other, ih]

theorem name_mem (h : List.Forall₂ (Advertises names) entries services) {s : Service}
    (member : s ∈ services) : s.name ∈ names := by
  induction h with
  | nil => cases member
  | cons same _ ih =>
      obtain ⟨record, mem⟩ := same
      obtain rfl | later := List.mem_cons.mp member
      · exact mem
      · exact ih later

/-- The file of a name holds the service that is known under it, or that of another name, and then none is
known under it. -/
theorem lookup_fileName (apart : FilesApart names) (name : String)
    (h : List.Forall₂ (Advertises names) entries services) :
    entries.lookup (fileName name) = none ∧ services.find? (fun s => s.name == name) = none ∨
      ∃ record : ServiceRecord,
        entries.lookup (fileName name) = some (.file record.toJson.toUTF8.toList) ∧
        services.find? (fun s => s.name == name) =
          if record.service.name = name then some record.service else none := by
  induction h with
  | nil => exact .inl ⟨rfl, rfl⟩
  | @cons _ _ entries services same tail ih =>
      obtain ⟨record, mem⟩ := same
      by_cases here : fileName name = fileName record.service.name
      · refine .inr ⟨record, ?_, ?_⟩
        · rw [List.lookup_cons, beq_iff_eq.mpr here]
        · split
          case isTrue same => exact List.find?_cons_of_pos (by simpa using same)
          case isFalse other =>
            rw [List.find?_cons_of_neg (by simpa using other), List.find?_eq_none]
            intro s member same
            obtain rfl := beq_iff_eq.mp same
            exact other ((fileName_eq_iff apart (name_mem tail member) mem).mp here).symm
      · have other : record.service.name ≠ name := fun same => here (same ▸ rfl)
        rw [List.lookup_cons, beq_eq_false_iff_ne.mpr here, List.find?_cons_of_neg (by simpa using other)]
        exact ih

theorem filterMap_serviceOf? (d : SharedDirectory) (named : "" ∉ names)
    (h : List.Forall₂ (Advertises names) entries services) :
    entries.filterMap d.serviceOf? = services := by
  induction h with
  | nil => rfl
  | cons same _ ih =>
      obtain ⟨record, mem⟩ := same
      have ends : isServiceFile (fileName record.service.name) = true :=
        isServiceFile_fileName fun empty => named (empty ▸ mem)
      have read : d.serviceOf? (fileName record.service.name, .file record.toJson.toUTF8.toList) =
          some record.service := by
        simp only [serviceOf?, ends, readService_toJson, if_true]
        rfl
      rw [List.filterMap_cons_some read, ih]

end entries

section sorting

variable {services others : List Service}

theorem pairwise_sortByName (services : List Service) :
    (sortByName services).Pairwise fun a b => a.name ≤ b.name := by
  refine (List.pairwise_mergeSort ?_ ?_ services).imp of_decide_eq_true
  · intro a b c
    simpa using le_trans
  · intro a b
    simpa using le_total a.name b.name

theorem strictly_sorted (distinct : (services.map Service.name).Nodup) :
    (sortByName services).Pairwise fun a b => a.name < b.name := by
  have same : ((sortByName services).map Service.name).Nodup :=
    ((List.mergeSort_perm services _).map Service.name).nodup_iff.mpr distinct
  exact ((pairwise_sortByName services).and (List.pairwise_map.mp same)).imp fun both =>
    lt_of_le_of_ne both.1 both.2

theorem sortByName_eq_of_perm (distinct : (services.map Service.name).Nodup) (h : others.Perm services) :
    sortByName others = sortByName services := by
  have reordered : (sortByName others).Perm (sortByName services) :=
    (List.mergeSort_perm others _).trans (h.trans (List.mergeSort_perm services _).symm)
  refine List.Perm.eq_of_pairwise ?_ (pairwise_sortByName others) (pairwise_sortByName services) reordered
  intro a b ha hb below above
  have a_mem : a ∈ services := h.mem_iff.mp (List.mem_mergeSort.mp ha)
  have b_mem : b ∈ services := List.mem_mergeSort.mp hb
  exact List.inj_on_of_nodup_map distinct a_mem b_mem (le_antisymm below above)

end sorting

/-- The folder holds the files of just the services that the directory inside the process knows. -/
structure Reflects (names : List String) (host : String) (f : Folder) (directory : LocalDirectory) :
    Prop where
  host : directory.host = host
  distinct : (directory.services.map Service.name).Nodup
  files : ∃ entries, f.entries? = some entries ∧
    List.Forall₂ (Advertises names) entries directory.services

namespace Reflects

variable {names : List String} {host : String} {f f' : Folder} {directory : LocalDirectory}

theorem empty (names : List String) (host : String) : Reflects names host .empty { host } where
  host := rfl
  distinct := List.nodup_nil
  files := ⟨[], rfl, .nil⟩

theorem distinct_without (h : Reflects names host f directory) (name : String) :
    (name :: (LocalDirectory.without name directory.services).map Service.name).Nodup := by
  refine List.nodup_cons.mpr ⟨?_, (List.filter_sublist.map _).nodup h.distinct⟩
  intro member
  obtain ⟨s, kept, same⟩ := List.mem_map.mp member
  exact absurd same (bne_iff_ne.mp (List.mem_filter.mp kept).2)

theorem advertise (h : Reflects names host f directory) (apart : FilesApart names) {d d' : SharedDirectory}
    {now : UInt64} {name : String} {port : UInt16} (member : name ∈ names) (on : d.host = host)
    (done : d.advertise f now name port = (.ok (), d', f')) :
    Reflects names host f' (directory.advertise name port) where
  host := h.host
  distinct := h.distinct_without name
  files := by
    obtain ⟨entries, there, same⟩ := h.files
    obtain ⟨record, service, after⟩ := advertise_eq_ok there (lookup_draftName d name same) done
    refine ⟨_, after, ?_⟩
    have first : Advertises names _ record.service := .file record (by rw [service]; exact member)
    rw [service, on, ← h.host] at first
    exact .cons first (erase_reflects apart member same)

theorem withdraw (h : Reflects names host f directory) (apart : FilesApart names) {name : String}
    (member : name ∈ names) (done : SharedDirectory.withdraw f name = (.ok (), f')) :
    Reflects names host f' (directory.withdraw name) where
  host := h.host
  distinct := (List.nodup_cons.mp (h.distinct_without name)).2
  files := by
    obtain ⟨entries, there, same⟩ := h.files
    exact ⟨_, withdraw_eq_ok there done, erase_reflects apart member same⟩

theorem step (h : Reflects names host f directory) (apart : FilesApart names) {call : DirectoryCall}
    (member : call.name ∈ names) (on : call.On host) (done : call.share f = .ok f') :
    Reflects names host f' (call.keep directory) := by
  cases call with
  | advertise d now name port =>
      rw [DirectoryCall.share] at done
      rcases outcome : d.advertise f now name port with ⟨e | ⟨⟩, d', next⟩
      · rw [outcome] at done
        cases done
      · rw [outcome] at done
        cases done
        exact h.advertise apart member on outcome
  | withdraw name =>
      rw [DirectoryCall.share] at done
      rcases outcome : SharedDirectory.withdraw f name with ⟨e | ⟨⟩, next⟩
      · rw [outcome] at done
        cases done
      · rw [outcome] at done
        cases done
        exact h.withdraw apart member outcome

theorem run (h : Reflects names host f directory) (apart : FilesApart names) {calls : List DirectoryCall}
    (members : ∀ call ∈ calls, call.name ∈ names) (on : ∀ call ∈ calls, call.On host)
    (done : calls.foldlM DirectoryCall.share f = .ok f') :
    Reflects names host f' (calls.foldl DirectoryCall.keep directory) := by
  induction calls generalizing f directory with
  | nil =>
      cases done
      exact h
  | cons call rest ih =>
      rw [List.forall_mem_cons] at members on
      rw [List.foldlM_cons] at done
      cases first : call.share f with
      | error e =>
          rw [first] at done
          cases done
      | ok next =>
          rw [first] at done
          exact ih (h.step apart members.1 on.1 first) members.2 on.2 done

theorem exists_advertise (h : Reflects names host f directory) (apart : FilesApart names)
    (d : SharedDirectory) {name : String} (draft : (d.draftName name).utf8ByteSize ≤ Folder.longestName)
    (file : (fileName name).utf8ByteSize ≤ Folder.longestName) (content : List UInt8) :
    ∃ written f', f.write (d.draftName name) content = .ok written ∧
      written.rename (d.draftName name) (fileName name) = .ok f' := by
  obtain ⟨entries, there, same⟩ := h.files
  have other : fileName name ≠ d.draftName name := (draftName_ne_fileName d name name).symm
  have write : f.write (d.draftName name) content = .ok (f.put (d.draftName name) (.file content)) := by
    rw [Folder.write, Folder.lookup_of_there there draft, lookup_draftName d name same, there]
  have written := Folder.write_eq_ok there write
  refine ⟨_, ((f.put (d.draftName name) (.file content)).erase (d.draftName name)).put (fileName name)
    (.file content), write, ?_⟩
  rw [Folder.rename, Folder.lookup_of_there written draft, Folder.lookup_of_there written file,
    Association.lookup_put_self, Association.lookup_put_of_ne other]
  obtain ⟨none, -⟩ | ⟨record, held, -⟩ := lookup_fileName apart name same
  · rw [none]
  · rw [held]

theorem exists_step (h : Reflects names host f directory) (apart : FilesApart names) {call : DirectoryCall}
    (fits : call.Fits) : ∃ f', call.share f = .ok f' := by
  cases call with
  | advertise d now name port =>
      simp only [DirectoryCall.share, SharedDirectory.advertise]
      generalize (ServiceRecord.toJson _).toUTF8.toList = content
      obtain ⟨written, f', write, rename⟩ := h.exists_advertise apart d fits.1 fits.2 content
      simp only [write, rename]
      exact ⟨f', rfl⟩
  | withdraw name =>
      obtain ⟨entries, there, same⟩ := h.files
      rw [DirectoryCall.share, SharedDirectory.withdraw, Folder.remove,
        Folder.lookup_of_there there fits]
      obtain ⟨none, -⟩ | ⟨record, held, -⟩ := lookup_fileName apart name same
      · rw [none]
        exact ⟨f, rfl⟩
      · rw [held]
        exact ⟨_, rfl⟩

/-- The folder fails only where the name of a file is too long. -/
theorem exists_run (h : Reflects names host f directory) (apart : FilesApart names)
    {calls : List DirectoryCall} (members : ∀ call ∈ calls, call.name ∈ names) (on : ∀ call ∈ calls, call.On host)
    (fits : ∀ call ∈ calls, call.Fits) : ∃ f', calls.foldlM DirectoryCall.share f = .ok f' := by
  induction calls generalizing f directory with
  | nil => exact ⟨f, rfl⟩
  | cons call rest ih =>
      rw [List.forall_mem_cons] at members on fits
      obtain ⟨next, first⟩ := h.exists_step apart fits.1
      rw [List.foldlM_cons, first]
      exact ih (h.step apart members.1 on.1 first) members.2 on.2 fits.2

end Reflects

/-- What holds of a folder and of a directory inside the process after the same calls. -/
structure SharingLaw (f : Folder) (directory : LocalDirectory) : Prop where
  /-- Every name that a file can have is looked up alike. -/
  resolve : ∀ (d : SharedDirectory) (name : String),
    (fileName name).utf8ByteSize ≤ Folder.longestName → d.resolve f name = directory.resolve name
  /-- The services with which a stream begins are the same. -/
  known : ∀ d : SharedDirectory, d.known f = directory.known
  sorted : directory.known.Pairwise fun a b => a.name < b.name
  /-- It does not matter in which order the folder lists its entries. -/
  anyOrder : ∀ (d : SharedDirectory) (entries : List (String × FolderEntry)),
    entries.Perm f.entries → sortByName (entries.filterMap d.serviceOf?) = directory.known

theorem Reflects.law {names : List String} {host : String} {f : Folder} {directory : LocalDirectory}
    (h : Reflects names host f directory) (apart : FilesApart names) (named : "" ∉ names) :
    SharingLaw f directory := by
  obtain ⟨entries, there, same⟩ := h.files
  have listed (d : SharedDirectory) : f.entries.filterMap d.serviceOf? = directory.services := by
    rw [Folder.entries, there, Option.getD_some, filterMap_serviceOf? d named same]
  refine ⟨?_, ?_, strictly_sorted h.distinct, ?_⟩
  · intro d name fits
    rw [SharedDirectory.resolve, Folder.read, Folder.lookup_of_there there fits, LocalDirectory.resolve]
    obtain ⟨none, unknown⟩ | ⟨record, held, known⟩ := lookup_fileName apart name same
    · rw [none, unknown]
    · rw [held, known]
      simp only [readService_toJson, beq_iff_eq]
      split
      · rfl
      · rfl
  · intro d
    rw [SharedDirectory.known, listed, LocalDirectory.known]
  · intro d entries reordered
    have services := reordered.filterMap d.serviceOf?
    rw [listed] at services
    exact sortByName_eq_of_perm h.distinct services

/-- The shared directory stands to the calls as the one inside the process does. -/
theorem sharing_law {calls : List DirectoryCall} {host : String} {f : Folder}
    (named : ∀ call ∈ calls, call.name ≠ "") (apart : FilesApart (calls.map DirectoryCall.name))
    (on : ∀ call ∈ calls, call.On host)
    (done : calls.foldlM DirectoryCall.share Folder.empty = .ok f) :
    SharingLaw f (calls.foldl DirectoryCall.keep { host }) := by
  have reflects := (Reflects.empty (calls.map DirectoryCall.name) host).run apart
    (fun call member => List.mem_map_of_mem member) on done
  refine reflects.law apart fun member => ?_
  obtain ⟨call, member, empty⟩ := List.mem_map.mp member
  exact named call member empty

section kitchen

def here : SharedDirectory where
  path := "services"
  host := "10.0.0.7"
  pid := 41

/-- Three calls through two instances, and a fourth that concerns a service nobody advertised. -/
def kitchenCalls : List DirectoryCall :=
  [.advertise here 1700000000 "kitchen" 7000,
    .advertise { here with pid := 42 } 1700000005 "living room" 7001,
    .advertise { here with pid := 42 } 1700000009 "kitchen" 7002, .withdraw "attic"]

/-- A third instance finds what the other two advertised last. -/
theorem kitchen_shared :
    ∃ f, kitchenCalls.foldlM DirectoryCall.share Folder.empty = .ok f ∧
      SharingLaw f (kitchenCalls.foldl DirectoryCall.keep { host := "10.0.0.7" }) ∧
      ({ here with host := "other" } : SharedDirectory).resolve f "kitchen" =
        .ok ⟨"kitchen", "10.0.0.7", 7002⟩ := by
  have apart : FilesApart (kitchenCalls.map DirectoryCall.name) := by
    unfold FilesApart
    decide +kernel
  have on : ∀ call ∈ kitchenCalls, call.On "10.0.0.7" := by decide +kernel
  have fits : ∀ call ∈ kitchenCalls, call.Fits := by decide +kernel
  obtain ⟨f, done⟩ := (Reflects.empty _ "10.0.0.7").exists_run apart
    (fun call member => List.mem_map_of_mem member) on fits
  have law := sharing_law (by decide +kernel) apart on done
  refine ⟨f, done, law, ?_⟩
  rw [law.resolve _ "kitchen" (by decide +kernel)]
  decide +kernel

end kitchen

end Switchboard
