import Dnfs.Log.FileNumber
import Dnfs.Run.Sequences
import Mathlib.Data.List.AList

/-! The names of threads, which are kept in two maps. -/

namespace Dnfs

section Registry

variable {α β : Type} [DecidableEq α]

/-- `std::map::emplace`, which leaves what is there already. -/
def emplace (key : α) (value : β) (map : AList fun _ : α => β) : AList fun _ : α => β :=
  if (map.lookup key).isSome then map else map.insert key value

/-- A new key is entered. -/
theorem emplace_new {key : α} {map : AList fun _ : α => β} (new : map.lookup key = none)
    (value : β) : emplace key value map = map.insert key value := by
  rw [emplace, new]
  rfl

/-- A key that is known keeps its value. -/
theorem emplace_known {key : α} {map : AList fun _ : α => β} {value : β}
    (known : map.lookup key = some value) (other : β) : emplace key other map = map := by
  rw [emplace, known]
  rfl

end Registry

variable {τ : Type} [DecidableEq τ]

/-- The maps of a `ThreadPool`. -/
structure ThreadPool (τ : Type) where
  threadIdNameMap : AList fun _ : τ => Text
  threadNameIdMap : AList fun _ : Text => τ

namespace ThreadPool

/-- `ThreadPool::set_thread_name` in some thread. A name that is taken ends the program. -/
def setThreadName (tid : τ) (name : Text) (pool : ThreadPool τ) : Option (ThreadPool τ) :=
  if (pool.threadNameIdMap.lookup name).isSome then none
  else some {
    threadNameIdMap := emplace name tid pool.threadNameIdMap
    threadIdNameMap := emplace tid name pool.threadIdNameMap }

/-- `ThreadPool::start_thread`, with the id of the new thread. -/
def startThread (tid : τ) (name : Text) (pool : ThreadPool τ) : ThreadPool τ where
  threadIdNameMap := emplace tid name pool.threadIdNameMap
  threadNameIdMap := emplace name tid pool.threadNameIdMap

/-- `ThreadPool::get_target_thread_name`, with the way that ids are printed. -/
def getTargetThreadName (shown : τ → Text) (tid : τ) (pool : ThreadPool τ) : Text :=
  match pool.threadIdNameMap.lookup tid with
  | some name => name
  | none => "Thread-".toList ++ shown tid

end ThreadPool

section Calls

/-- A call that names a thread. -/
inductive NameCall (τ : Type) where
  | setThreadName (tid : τ) (name : Text)
  | startThread (tid : τ) (name : Text)

/-- The maps, and the name that each thread was given last. -/
structure NamedThreads (τ : Type) where
  pool : ThreadPool τ
  given : AList fun _ : τ => Text

def NamedThreads.empty : NamedThreads τ := ⟨⟨∅, ∅⟩, ∅⟩

/-- A call, with what it gives. -/
def nameStep (call : NameCall τ) (s : NamedThreads τ) : Option (NamedThreads τ) :=
  match call with
  | .setThreadName tid name => do
    let pool ← s.pool.setThreadName tid name
    return ⟨pool, s.given.insert tid name⟩
  | .startThread tid name => some ⟨s.pool.startThread tid name, s.given.insert tid name⟩

/-- Names are not taken yet, and a thread that is started is a new one. -/
def FreshCall (s : NamedThreads τ) : NameCall τ → Prop
  | .setThreadName _ name => s.pool.threadNameIdMap.lookup name = none
  | .startThread tid name =>
    s.pool.threadNameIdMap.lookup name = none ∧ s.pool.threadIdNameMap.lookup tid = none

/-- A thread that names itself has no name yet. -/
def Unnamed (s : NamedThreads τ) : NameCall τ → Prop
  | .setThreadName tid _ => s.pool.threadIdNameMap.lookup tid = none
  | .startThread _ _ => True

instance : (s : NamedThreads τ) → (call : NameCall τ) → Decidable (FreshCall s call)
  | _, .setThreadName _ _ => inferInstanceAs (Decidable (_ = none))
  | _, .startThread _ _ => inferInstanceAs (Decidable (_ = none ∧ _ = none))

instance : (s : NamedThreads τ) → (call : NameCall τ) → Decidable (Unnamed s call)
  | _, .setThreadName _ _ => inferInstanceAs (Decidable (_ = none))
  | _, .startThread _ _ => inferInstanceAs (Decidable True)

/-- The two maps are the inverse of each other, and hold the names that were given last. -/
structure Registered (shown : τ → Text) (s : NamedThreads τ) : Prop where
  latest : ∀ tid name, s.given.lookup tid = some name →
    s.pool.getTargetThreadName shown tid = name
  holder : ∀ name tid, s.pool.threadNameIdMap.lookup name = some tid →
    s.given.lookup tid = some name
  inverse : ∀ tid name, s.pool.threadIdNameMap.lookup tid = some name ↔
    s.pool.threadNameIdMap.lookup name = some tid

/-- The invariant: the names that were given last are those in the maps. -/
structure Recorded (s : NamedThreads τ) : Prop where
  same : ∀ tid, s.given.lookup tid = s.pool.threadIdNameMap.lookup tid
  inverse : ∀ tid name, s.pool.threadIdNameMap.lookup tid = some name ↔
    s.pool.threadNameIdMap.lookup name = some tid

/-- In the beginning nobody is recorded. -/
theorem Recorded.empty : Recorded (NamedThreads.empty : NamedThreads τ) :=
  ⟨fun _ => rfl, fun _ _ => iff_of_false nofun nofun⟩

variable {s : NamedThreads τ} {tid : τ} {name : Text}

/-- Whoever is recorded is registered. -/
theorem Recorded.registered (recorded : Recorded s) (shown : τ → Text) : Registered shown s := by
  refine ⟨fun tid name given => ?_, fun name tid named => ?_, recorded.inverse⟩
  · rw [recorded.same] at given
    rw [ThreadPool.getTargetThreadName, given]
  · rw [recorded.same]
    exact (recorded.inverse tid name).mpr named

/-- A new name for a thread without one is recorded in both maps. -/
theorem Recorded.insert (recorded : Recorded s) (free : s.pool.threadNameIdMap.lookup name = none)
    (unnamed : s.pool.threadIdNameMap.lookup tid = none) :
    Recorded ⟨⟨s.pool.threadIdNameMap.insert tid name, s.pool.threadNameIdMap.insert name tid⟩,
      s.given.insert tid name⟩ := by
  refine ⟨fun other => ?_, fun other otherName => ?_⟩
  · by_cases here : other = tid
    · rw [here, AList.lookup_insert, AList.lookup_insert]
    · rw [AList.lookup_insert_ne here, AList.lookup_insert_ne here, recorded.same]
  · by_cases here : other = tid
    · subst here
      rw [AList.lookup_insert, Option.some_inj]
      by_cases same : name = otherName
      · subst same
        exact iff_of_true rfl (AList.lookup_insert _)
      · -- No other name belongs to the thread.
        rw [AList.lookup_insert_ne (Ne.symm same), ← recorded.inverse, unnamed]
        exact iff_of_false same nofun
    · rw [AList.lookup_insert_ne here]
      by_cases same : otherName = name
      · subst same
        rw [AList.lookup_insert, recorded.inverse, free, Option.some_inj]
        exact iff_of_false nofun fun equal => here equal.symm
      · rw [AList.lookup_insert_ne same]
        exact recorded.inverse other otherName

/-- A call with a fresh name, for a thread that has none, keeps the invariant. -/
theorem Recorded.nameStep (recorded : Recorded s) {call : NameCall τ} (fresh : FreshCall s call)
    (unnamed : Unnamed s call) :
    ∃ next, Dnfs.nameStep call s = some next ∧ Recorded next := by
  cases call with
  | setThreadName tid name =>
    have free : s.pool.threadNameIdMap.lookup name = none := fresh
    refine ⟨_, ?_, recorded.insert free unnamed⟩
    rw [Dnfs.nameStep, ThreadPool.setThreadName, free, emplace_new free, emplace_new unnamed]
    rfl
  | startThread tid name =>
    obtain ⟨free, new⟩ := fresh
    refine ⟨_, ?_, recorded.insert free new⟩
    rw [Dnfs.nameStep, ThreadPool.startThread, emplace_new free, emplace_new new]

/-- After a thread was named again, its old name is still in both maps. -/
theorem Recorded.unnamed (recorded : Recorded s) {call : NameCall τ} (fresh : FreshCall s call)
    {next : NamedThreads τ} (takes : Dnfs.nameStep call s = some next) {shown : τ → Text}
    (after : Registered shown next) : Unnamed s call := by
  cases call with
  | startThread => trivial
  | setThreadName tid name =>
    have free : s.pool.threadNameIdMap.lookup name = none := fresh
    cases known : s.pool.threadIdNameMap.lookup tid with
    | none => exact known
    | some old =>
      rw [Dnfs.nameStep, ThreadPool.setThreadName, free, emplace_new free, emplace_known known]
        at takes
      cases takes
      -- The new name leads to the thread, but the thread to its old one.
      have leads := (after.inverse tid name).mpr (AList.lookup_insert _)
      obtain rfl : old = name := Option.some.inj (known.symm.trans leads)
      rw [recorded.inverse, free] at known
      cases known

/-- The maps are the inverse of each other throughout just if no thread names itself twice. -/
theorem threadNames_registered_iff (shown : τ → Text) (calls : List (NameCall τ))
    (fresh : AtEveryStep nameStep FreshCall NamedThreads.empty calls) :
    AtEveryPoint nameStep (Registered shown) NamedThreads.empty calls ↔
      AtEveryStep nameStep Unnamed NamedThreads.empty calls := by
  refine atEveryPoint_iff_of_assumed ?_ ?_ ?_ Recorded.empty fresh
  · exact fun s recorded => recorded.registered shown
  · exact fun s call recorded fresh unnamed => recorded.nameStep fresh unnamed
  · exact fun s call next recorded fresh takes after => recorded.unnamed fresh takes after

/-- A thread that names itself, and starts another one. -/
theorem threadNames_registered_two :
    AtEveryPoint nameStep (Registered natText) NamedThreads.empty
      [.setThreadName 1 "main".toList, .startThread 2 "buffer".toList] :=
  (threadNames_registered_iff natText _ (by decide)).mpr (by decide)

/-- A thread that names itself twice keeps its first name, and both names lead to it. -/
theorem threadNames_registered_fails :
    ∃ s : NamedThreads Nat,
      [NameCall.setThreadName 1 "a".toList, .setThreadName 1 "b".toList].foldlM
        (fun s call => nameStep call s) NamedThreads.empty = some s ∧
      AtEveryStep nameStep FreshCall (NamedThreads.empty : NamedThreads Nat)
        [.setThreadName 1 "a".toList, .setThreadName 1 "b".toList] ∧
      s.pool.getTargetThreadName natText 1 = "a".toList ∧
      s.given.lookup 1 = some "b".toList ∧
      s.pool.threadNameIdMap.lookup "a".toList = some 1 ∧
      s.pool.threadNameIdMap.lookup "b".toList = some 1 :=
  ⟨_, rfl, by decide, by decide, by decide, by decide, by decide⟩

end Calls

end Dnfs
