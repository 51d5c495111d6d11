import Dnfs.Cache.BinLog
import Dnfs.Run.Grouping

/-! How the handles of a buffer are sorted into the tasks that bring them to the disk. -/

namespace Dnfs

namespace BinLog

section Planning

variable {ι : Type} (generateFileSave : ι → String)

/-- The tasks of a buffer, which are a partition of its handles. -/
structure Partitions (buffer : LogBufferMap ι) (diskM : DiskMap) : Prop where
  keys : ∀ savePath, savePath ∈ diskM ↔
    ∃ handle info, (handle, some info) ∈ buffer.toList ∧ generateFileSave info = savePath
  nonempty : ∀ (savePath : String) handles, diskM[savePath]? = some handles → handles ≠ []
  /-- Every handle occurs once, in all lists together. -/
  once : buffer.keys.Nodup ∧ (diskM.toList.flatMap Prod.snd).Perm buffer.keys
  own : ∀ (savePath : String) handles handle info, diskM[savePath]? = some handles →
    (handle, some info) ∈ buffer.toList → (handle ∈ handles ↔ generateFileSave info = savePath)
  /-- A list has the handles in the order of the buffer. -/
  ordered : ∀ (savePath : String) handles, diskM[savePath]? = some handles →
    handles.Sublist buffer.keys

/-- The handles with the paths of their infos, as far as they have any. -/
def planned (entries : List (SmartPtr × Option ι)) : List (String × SmartPtr) :=
  entries.filterMap fun (handle, info) => info.map fun info => (generateFileSave info, handle)

variable {generateFileSave} {entries : List (SmartPtr × Option ι)}

/-- What is planned is what there is information for. -/
theorem mem_planned {savePath : String} {handle : SmartPtr} :
    (savePath, handle) ∈ planned generateFileSave entries ↔
      ∃ info, (handle, some info) ∈ entries ∧ generateFileSave info = savePath := by
  rw [planned, List.mem_filterMap]
  constructor
  · rintro ⟨⟨handle', info | info⟩, mem, same⟩
    · cases same
    · cases same
      exact ⟨info, mem, rfl⟩
  · rintro ⟨info, mem, rfl⟩
    exact ⟨(handle, some info), mem, rfl⟩

/-- Where no info is null, no handle is left out. -/
theorem map_snd_planned (full : ∀ entry ∈ entries, entry.2 ≠ none) :
    (planned generateFileSave entries).map Prod.snd = entries.map Prod.fst := by
  induction entries with
  | nil => rfl
  | cons entry entries ih =>
    obtain ⟨handle, _ | info⟩ := entry
    · exact absurd rfl (full _ List.mem_cons_self)
    · have rest := ih fun entry mem => full entry (List.mem_cons_of_mem _ mem)
      exact congrArg (handle :: ·) rest

/-- Where no info is null, the loop comes to its end and sorts all handles. -/
theorem objectMapping_eq {buffer : LogBufferMap ι}
    (full : ∀ entry ∈ buffer.toList, entry.2 ≠ none) :
    objectMapping generateFileSave buffer
      = some (grouped (planned generateFileSave buffer.toList) ∅) := by
  rw [objectMapping]
  generalize buffer.toList = entries at full
  generalize (∅ : DiskMap) = diskM
  -- Every step puts one handle into the map, so this stays quantified over.
  induction entries generalizing diskM with
  | nil => rfl
  | cons entry entries ih =>
    obtain ⟨handle, _ | info⟩ := entry
    · exact absurd rfl (full _ List.mem_cons_self)
    · exact ih (fun entry mem => full entry (List.mem_cons_of_mem _ mem)) _

/-- The handles of a buffer are different. -/
theorem nodup_keys (buffer : LogBufferMap ι) : buffer.keys.Nodup := by
  refine Std.ExtTreeMap.distinct_keys.imp fun {handle other} differ same => differ ?_
  rw [same]
  exact Std.ReflCmp.compare_self

end Planning

end BinLog

/-- The tasks of a buffer without null pointers are a partition of its handles. -/
theorem objectMapping_partitions {ι : Type} (generateFileSave : ι → String)
    (buffer : LogBufferMap ι) (full : ∀ entry ∈ buffer.toList, entry.2 ≠ none) :
    ∃ diskM, BinLog.objectMapping generateFileSave buffer = some diskM ∧
      BinLog.Partitions generateFileSave buffer diskM := by
  have handles : (BinLog.planned generateFileSave buffer.toList).map Prod.snd = buffer.keys := by
    rw [BinLog.map_snd_planned full, Std.ExtTreeMap.map_fst_toList_eq_keys]
  have distinct := BinLog.nodup_keys buffer
  have pairwise : (buffer.toList.map Prod.fst).Nodup := by
    rw [Std.ExtTreeMap.map_fst_toList_eq_keys]
    exact distinct
  -- The mapping groups what is planned, so the laws of groups give every part.
  refine ⟨_, BinLog.objectMapping_eq full, ?_, ?_, ?_, ?_, ?_⟩
  · intro savePath
    rw [Std.ExtTreeMap.mem_iff_isSome_getElem?, Option.isSome_iff_exists]
    constructor
    · rintro ⟨list, found⟩
      obtain ⟨rfl, nonempty⟩ := getElem?_grouped_empty.mp found
      obtain ⟨handle, mem⟩ := List.exists_mem_of_ne_nil _ nonempty
      obtain ⟨info, here, same⟩ := BinLog.mem_planned.mp (mem_bucket.mp mem)
      exact ⟨handle, info, here, same⟩
    · rintro ⟨handle, info, here, same⟩
      have mem := mem_bucket.mpr (BinLog.mem_planned.mpr ⟨info, here, same⟩)
      exact ⟨_, getElem?_grouped_empty.mpr ⟨rfl, List.ne_nil_of_mem mem⟩⟩
  · exact fun savePath list found => (getElem?_grouped_empty.mp found).2
  · refine ⟨distinct, ?_⟩
    rw [← handles]
    exact flatMap_grouped_perm (handles ▸ distinct)
  · intro savePath list handle info found here
    obtain ⟨rfl, _⟩ := getElem?_grouped_empty.mp found
    rw [mem_bucket, BinLog.mem_planned]
    constructor
    · rintro ⟨info', here', same⟩
      have equal := List.inj_on_of_nodup_map pairwise here here' rfl
      cases equal
      exact same
    · exact fun same => ⟨info, here, same⟩
  · intro savePath list found
    obtain ⟨rfl, _⟩ := getElem?_grouped_empty.mp found
    rw [← handles]
    exact bucket_sublist _ savePath

/-- Three handles whose infos are to be saved under two paths. -/
theorem objectMapping_partitions_three :
    ∃ diskM, BinLog.objectMapping (fun info : Bool => if info then "a" else "b")
        (((∅ : LogBufferMap Bool).insert ⟨8, 0⟩ (some true)).insert ⟨16, 0⟩ (some false)
          |>.insert ⟨24, 0⟩ (some true)) = some diskM ∧
      BinLog.Partitions (fun info : Bool => if info then "a" else "b")
        (((∅ : LogBufferMap Bool).insert ⟨8, 0⟩ (some true)).insert ⟨16, 0⟩ (some false)
          |>.insert ⟨24, 0⟩ (some true)) diskM :=
  objectMapping_partitions _ _ (by decide)

end Dnfs
