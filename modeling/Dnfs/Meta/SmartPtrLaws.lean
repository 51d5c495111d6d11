import Dnfs.Meta.SmartPtr

/-! What operations on smart pointers and pools keep: every held value, counted, in its pool. -/

namespace Dnfs

open SmartPtrValue

namespace Pools

variable {α : Type}

section Reading

variable {s : Pools α} {ptr : Nat}

/-- A count is no part of the value. -/
@[simp] theorem read_setCount (count : UInt32) : (s.setCount ptr count).read = s.read := rfl

/-- What was deleted can not be read any more, and all else can. -/
theorem read_free (other : Nat) :
    (s.free ptr).read other = if other = ptr then none else s.read other := by
  by_cases same : other = ptr <;> simp [read, free, same]

/-- The list of a pool is no part of a value. -/
@[simp] theorem read_setList (pool : Nat) (key : UInt64) (list : Option (List SmartPtr)) :
    (s.setList pool key list).read = s.read := rfl

/-- Noting a call changes no value. -/
@[simp] theorem read_note (pool : Nat) : (s.note pool ptr).read = s.read := rfl

/-- The places of smart pointers are no part of a value. -/
@[simp] theorem read_setSlot (i : Nat) (slot : Option SmartPtr) :
    (s.setSlot i slot).read = s.read := rfl

/-- What can be read was never deleted. -/
theorem shared_of_read {shared : Shared α} (reads : s.read ptr = some shared) :
    s.shared[ptr]? = some shared ∧ ptr ∉ s.freed := by
  -- Reading asks whether the value is gone before it looks for it.
  by_cases gone : ptr ∈ s.freed
  · simp [read, gone] at reads
  · exact ⟨by simpa [read, gone] using reads, gone⟩

/-- What can be read is not where the next value will lie. -/
theorem old_of_read {ptr : Nat} {shared : Shared α} (reads : s.read ptr = some shared) :
    ptr ≠ s.shared.length := by
  rintro rfl
  obtain ⟨at_, _⟩ := shared_of_read reads
  rw [List.getElem?_eq_none (Nat.le_refl _)] at at_
  cases at_

end Reading

section Holding

variable {s : Pools α}

/-- How many smart pointers in some places hold a value. -/
def holdersOf (slots : List (Option SmartPtr)) (ptr : Nat) : Nat :=
  slots.countP fun slot => slot.any (·.ptr = ptr)

/-- A value is held just when some place holds it. -/
theorem holders_pos {ptr : Nat} :
    0 < s.holders ptr ↔ ∃ (i : Nat) (item : SmartPtr),
      s.slots[i]? = some (some item) ∧ item.ptr = ptr := by
  -- A count is above zero when something is counted.
  rw [holders, List.countP_pos_iff]
  constructor
  · rintro ⟨slot, mem, holds⟩
    obtain ⟨i, at_⟩ := List.getElem?_of_mem mem
    obtain ⟨item, rfl, same⟩ := (Option.any_eq_true _ _).mp holds
    exact ⟨i, item, at_, by simpa using same⟩
  · rintro ⟨i, item, at_, rfl⟩
    exact ⟨_, List.mem_of_getElem? at_, by simp⟩

/-- A smart pointer that is taken away leaves the others where they are. -/
theorem slot_vacated {i j : Nat} {item : SmartPtr} :
    (s.setSlot i none).slots[j]? = some (some item) ↔
      j ≠ i ∧ s.slots[j]? = some (some item) := by
  rw [setSlot, List.getElem?_set]
  -- The place itself is empty after that, whether it was one or not.
  by_cases same : i = j
  · subst same
    by_cases within : i < s.slots.length <;> simp [within]
  · simp [same, Ne.symm same]

/-- Taking a smart pointer away takes one off the holders of its value. -/
theorem holders_vacated {i : Nat} {item : SmartPtr} (at_ : s.slots[i]? = some (some item))
    (ptr : Nat) :
    (s.setSlot i none).holders ptr + (if ptr = item.ptr then 1 else 0) = s.holders ptr := by
  obtain ⟨within, same⟩ := List.getElem?_eq_some_iff.mp at_
  have counted : ptr = item.ptr → 0 < s.holders ptr := by
    rintro rfl
    exact holders_pos.mpr ⟨i, item, at_, rfl⟩
  -- The place counted for one before just when it held the value.
  simp only [holders, setSlot, List.countP_set within, same, Option.any_some, Option.any_none,
    decide_eq_true_eq] at counted ⊢
  by_cases held : ptr = item.ptr
  · have positive := counted held
    simp only [held, if_true, Bool.false_eq_true, if_false] at positive ⊢
    omega
  · simp [held, Ne.symm held]

/-- Putting a smart pointer into an empty place adds one to them. -/
theorem holders_filled {i : Nat} (item : SmartPtr) (at_ : s.slots[i]? = some none) (ptr : Nat) :
    (s.setSlot i (some item)).holders ptr = s.holders ptr + if ptr = item.ptr then 1 else 0 := by
  obtain ⟨within, same⟩ := List.getElem?_eq_some_iff.mp at_
  simp only [holders, setSlot, List.countP_set within, same]
  by_cases held : ptr = item.ptr
  · simp [held]
  · simp [held, Ne.symm held]

/-- So does appending it. -/
theorem holdersOf_append (slots : List (Option SmartPtr)) (item : SmartPtr) (ptr : Nat) :
    holdersOf (slots ++ [some item]) ptr
      = holdersOf slots ptr + if ptr = item.ptr then 1 else 0 := by
  by_cases held : ptr = item.ptr
  · simp [holdersOf, held]
  · simp [holdersOf, held, Ne.symm held]

end Holding

section Invariant

variable [SmartPtrValue α]

/-- Every value is kept in its own pool as long as it is held, and counted. -/
structure Kept (s : Pools α) : Prop where
  held : ∀ ptr, (∃ shared, s.read ptr = some shared) ↔ 0 < s.holders ptr
  counted : ∀ ptr shared, s.read ptr = some shared →
    s.count ptr = UInt32.ofNat (s.holders ptr + 1)
  pooled : ∀ ptr shared, s.read ptr = some shared →
    ∃ list, s.handlePool shared.home (getId shared.value) = some list ∧ ⟨ptr, shared.home⟩ ∈ list
  nodup : ∀ pool key list, s.handlePool pool key = some list → list.Nodup
  items : ∀ pool key list item, s.handlePool pool key = some list → item ∈ list →
    item.smartPtrPool = pool ∧
      ∃ shared, s.read item.ptr = some shared ∧ shared.home = pool ∧ getId shared.value = key
  within : ∀ ptr ∈ s.freed, ptr < s.shared.length
  once : s.freed.Nodup
  called : ∀ call ∈ s.deleted, call.held = false ∧
    ∃ shared, s.shared[call.ptr]? = some shared ∧ shared.home = call.pool

/-- With nothing inserted there is nothing to keep. -/
theorem Kept.empty : (empty : Pools α).Kept := by
  constructor <;> simp [Pools.empty, read, holders]

variable {s : Pools α}

/-- Changing holders and counts alike keeps everything in its pool. -/
theorem Kept.recount (kept : s.Kept) {ptr : Nat} {count : UInt32}
    {slots : List (Option SmartPtr)} (alive : 0 < s.holders ptr)
    (others : ∀ other, other ≠ ptr → holdersOf slots other = s.holders other)
    (still : 0 < holdersOf slots ptr) (counted : count = UInt32.ofNat (holdersOf slots ptr + 1)) :
    ({ s.setCount ptr count with slots } : Pools α).Kept := by
  refine { kept with held := fun other => (kept.held other).trans ?_, counted := ?_ }
  · -- Only one value has other holders, and it still has some.
    by_cases same : other = ptr
    · subst same
      exact iff_of_true alive still
    · exact iff_of_eq (congrArg (0 < ·) (others other same).symm)
  · -- Its count is the new one, and the others have theirs.
    intro other shared reads
    by_cases same : other = ptr
    · subst same
      exact (if_pos rfl).trans counted
    · have before := kept.counted other shared reads
      rw [← others other same] at before
      exact (if_neg same).trans before

/-- A value that some place holds can be read. -/
theorem Kept.alive (kept : s.Kept) {i : Nat} {item : SmartPtr}
    (at_ : s.slots[i]? = some (some item)) : ∃ shared, s.read item.ptr = some shared :=
  (kept.held item.ptr).mpr (holders_pos.mpr ⟨i, item, at_, rfl⟩)

end Invariant

section Copying

variable {s : Pools α}

/-- What copying a smart pointer leaves. -/
def copied (s : Pools α) (item : SmartPtr) : Pools α :=
  { s.setCount item.ptr (s.count item.ptr + 1) with slots := s.slots ++ [some item] }

/-- A value that can be read is counted once more. -/
theorem copy_eq {item : SmartPtr} {shared : Shared α} (reads : s.read item.ptr = some shared) :
    s.copy item = some (s.copied item) := by
  rw [copy, addCount, reads]
  rfl

/-- One more holder is one more in the count, wherever that wraps around. -/
theorem count_succ {ptr : Nat} {holders : Nat}
    (counted : s.count ptr = UInt32.ofNat (holders + 1)) :
    s.count ptr + 1 = UInt32.ofNat (holders + 1 + 1) := by
  rw [counted, UInt32.ofNat_add (holders + 1) 1]
  rfl

variable [SmartPtrValue α]

/-- Copying adds a holder along with the count. -/
theorem Kept.copied (kept : s.Kept) {item : SmartPtr} {shared : Shared α}
    (reads : s.read item.ptr = some shared) : (s.copied item).Kept := by
  have more := holdersOf_append s.slots item
  refine kept.recount ((kept.held _).mp ⟨shared, reads⟩) (fun other differs => ?_) ?_ ?_
  · rw [more, if_neg differs]
    rfl
  · rw [more, if_pos rfl]
    exact Nat.succ_pos _
  · rw [more, if_pos rfl]
    exact count_succ (kept.counted _ _ reads)

/-- Copying from a place does nothing where there is no smart pointer. -/
theorem Kept.copySlot_cases (kept : s.Kept) (i : Nat) :
    s.copySlot i = some s ∨ ∃ item shared, s.slots[i]? = some (some item) ∧
      s.read item.ptr = some shared ∧ s.copySlot i = some (s.copied item) := by
  -- There is no such place, nothing in it, or a smart pointer to what is kept.
  rcases at_ : s.slots[i]? with _ | _ | item
  · exact .inl (by rw [copySlot, at_])
  · exact .inl (by rw [copySlot, at_])
  · obtain ⟨shared, reads⟩ := kept.alive at_
    exact .inr ⟨item, shared, rfl, reads, by rw [copySlot, at_]; exact copy_eq reads⟩

/-- Neither does destroying. -/
theorem Kept.destroy_cases (kept : s.Kept) (i : Nat) :
    s.destroy i = some s ∨ ∃ item shared, s.slots[i]? = some (some item) ∧
      s.read item.ptr = some shared := by
  rcases at_ : s.slots[i]? with _ | _ | item
  · exact .inl (by rw [destroy, at_])
  · exact .inl (by rw [destroy, at_])
  · obtain ⟨shared, reads⟩ := kept.alive at_
    exact .inr ⟨item, shared, rfl, reads⟩

end Copying

section Inserting

variable [SmartPtrValue α] {s : Pools α}

/-- What inserting a value leaves, before a smart pointer is returned. -/
def pushed (s : Pools α) (pool : Nat) (value : α) : Pools α :=
  let item : SmartPtr := ⟨s.shared.length, pool⟩
  let list := (s.handlePool pool (getId value)).getD [] ++ [item]
  let s : Pools α := { s with shared := s.shared ++ [⟨value, pool⟩] }
  (s.setCount item.ptr 1).setList pool (getId value) (some list)

/-- What inserting a value leaves, along with the smart pointer that is returned. -/
def inserted (s : Pools α) (pool : Nat) (value : α) : Pools α :=
  (s.pushed pool value).copied ⟨s.shared.length, pool⟩

variable (pool : Nat) (value : α)

/-- The new value can be read, and the others as before. -/
theorem Kept.read_inserted (kept : s.Kept) (ptr : Nat) :
    (s.inserted pool value).read ptr
      = if ptr = s.shared.length then some ⟨value, pool⟩ else s.read ptr := by
  show (if ptr ∈ s.freed then none else (s.shared ++ [⟨value, pool⟩])[ptr]?) = _
  by_cases new : ptr = s.shared.length
  · -- What was deleted was inserted before, so the new address is not among it.
    have fresh : s.shared.length ∉ s.freed := fun gone => Nat.lt_irrefl _ (kept.within _ gone)
    simp [new, fresh]
  · -- Appending moves no value.
    have same : (s.shared ++ [⟨value, pool⟩])[ptr]? = s.shared[ptr]? := by
      rcases Nat.lt_or_gt_of_ne new with below | above
      · exact List.getElem?_append_left below
      · rw [List.getElem?_eq_none (by simp; omega), List.getElem?_eq_none (by omega)]
    rw [same, if_neg new, read]

/-- Inserting is defined. -/
theorem Kept.pushFh_eq (kept : s.Kept) : pushFh pool value s = some (s.inserted pool value) := by
  have reads := kept.read_inserted pool value s.shared.length
  rw [if_pos rfl] at reads
  exact copy_eq reads

/-- The new value has one holder. -/
theorem holders_inserted (ptr : Nat) : (s.inserted pool value).holders ptr
    = s.holders ptr + if ptr = s.shared.length then 1 else 0 :=
  holdersOf_append s.slots ⟨s.shared.length, pool⟩ ptr

/-- The new value is counted for the pool and for its holder. -/
theorem count_inserted (ptr : Nat) : (s.inserted pool value).count ptr
    = if ptr = s.shared.length then 2 else s.count ptr := by
  by_cases new : ptr = s.shared.length <;>
    simp [inserted, copied, pushed, setCount, setList, new]

/-- One list of one pool grows. -/
theorem handlePool_inserted (p : Nat) (key : UInt64) : (s.inserted pool value).handlePool p key
    = if p = pool ∧ key = getId value then
        some ((s.handlePool pool (getId value)).getD [] ++ [⟨s.shared.length, pool⟩])
      else s.handlePool p key := rfl

/-- What a pool keeps is what it kept, with the new entry behind it in one list. -/
theorem entry_inserted {p : Nat} {key : UInt64} {list : List SmartPtr} {item : SmartPtr}
    (keeps : (s.inserted pool value).handlePool p key = some list) (mem : item ∈ list) :
    (∃ before, s.handlePool p key = some before ∧ item ∈ before) ∨
      p = pool ∧ key = getId value ∧ item = ⟨s.shared.length, pool⟩ := by
  rw [handlePool_inserted] at keeps
  split at keeps
  · next here =>
    obtain ⟨rfl, rfl⟩ := here
    cases keeps
    -- The list that grew ends in the new entry.
    rcases List.mem_append.mp mem with before | new
    · cases kept : s.handlePool p (getId value) with
      | none => simp [kept] at before
      | some list => exact .inl ⟨list, rfl, by simpa [kept] using before⟩
    · exact .inr ⟨rfl, rfl, List.mem_singleton.mp new⟩
  · exact .inl ⟨list, keeps, mem⟩

/-- Nobody holds what was not inserted yet. -/
theorem Kept.holders_new (kept : s.Kept) : s.holders s.shared.length = 0 := by
  by_contra held
  obtain ⟨shared, reads⟩ := (kept.held s.shared.length).mpr (Nat.pos_of_ne_zero held)
  exact old_of_read reads rfl

/-- Inserting keeps everything. -/
theorem Kept.inserted (kept : s.Kept) : (s.inserted pool value).Kept := by
  have reads := kept.read_inserted pool value
  constructor
  case held =>
    -- Each field is split by whether it is about the value that was inserted.
    intro ptr
    rw [reads, holders_inserted]
    -- A new value is held once, by what is returned.
    by_cases new : ptr = s.shared.length
    · simp [new]
    · simpa [new] using kept.held ptr
  case counted =>
    intro ptr shared read
    rw [count_inserted, holders_inserted]
    rw [reads] at read
    by_cases new : ptr = s.shared.length
    · simp only [new, if_true, kept.holders_new]
      rfl
    · rw [if_neg new] at read
      simpa [new] using kept.counted ptr shared read
  case pooled =>
    intro ptr shared read
    rw [reads] at read
    rw [handlePool_inserted]
    -- The new value is in the list that grew, which still has all it had.
    by_cases new : ptr = s.shared.length
    · rw [if_pos new] at read
      cases read
      exact ⟨_, if_pos ⟨rfl, rfl⟩, by simp [new]⟩
    · rw [if_neg new] at read
      obtain ⟨list, keeps, mem⟩ := kept.pooled ptr shared read
      split
      · next here =>
        rw [← here.1, ← here.2, keeps]
        exact ⟨_, rfl, by simp [mem]⟩
      · exact ⟨list, keeps, mem⟩
  case nodup =>
    intro p key list keeps
    rw [handlePool_inserted] at keeps
    split at keeps
    · cases keeps
      cases kept' : s.handlePool pool (getId value) with
      | none => simp
      | some list =>
        refine List.nodup_append.mpr ⟨kept.nodup _ _ _ kept', by simp, ?_⟩
        -- The entries before it are of values that can be read, so none is the new one.
        rintro item mem other new rfl
        obtain ⟨_, shared, read, _⟩ := kept.items _ _ _ _ kept' mem
        exact old_of_read read (congrArg SmartPtr.ptr (List.mem_singleton.mp new))
    · exact kept.nodup p key list keeps
  case items =>
    intro p key list item keeps mem
    rw [reads]
    rcases entry_inserted pool value keeps mem with ⟨before, keeps, mem⟩ | ⟨rfl, rfl, rfl⟩
    · obtain ⟨home, shared, read, facts⟩ := kept.items p key before item keeps mem
      exact ⟨home, shared, by rw [if_neg (old_of_read read), read], facts⟩
    · exact ⟨rfl, _, if_pos rfl, rfl, rfl⟩
  -- There are more addresses than before, and no more are gone.
  case within =>
    intro ptr gone
    exact Nat.lt_of_lt_of_le (kept.within ptr gone) (by simp [Pools.inserted, Pools.copied, pushed,
      setCount, setList])
  case once => exact kept.once
  case called =>
    intro call mem
    obtain ⟨unheld, shared, at_, home⟩ := kept.called call mem
    refine ⟨unheld, shared, ?_, home⟩
    obtain ⟨below, _⟩ := List.getElem?_eq_some_iff.mp at_
    exact (List.getElem?_append_left below).trans at_

end Inserting

section Searching

variable [SmartPtrValue α] {s : Pools α} {searched : α} {list : List SmartPtr}

/-- An entry that is found can be read and is the same. -/
theorem searchData_found {item : SmartPtr} (finds : s.searchData searched list = some (some item)) :
    item ∈ list ∧ ∃ shared, s.read item.ptr = some shared ∧
      comporeData searched shared.value = true := by
  -- The search ends at the first entry that is the same.
  induction list with
  | nil => cases finds
  | cons first rest ih =>
    simp only [searchData, Option.bind_eq_bind, Option.bind_eq_some_iff] at finds
    obtain ⟨shared, reads, finds⟩ := finds
    split at finds
    · next same =>
      cases finds
      exact ⟨List.mem_cons_self, shared, reads, same⟩
    · obtain ⟨mem, facts⟩ := ih finds
      exact ⟨List.mem_cons_of_mem _ mem, facts⟩

/-- No entry that could have been found is the same otherwise. -/
theorem searchData_missed (misses : s.searchData searched list = some none) :
    ∀ item ∈ list, ∀ shared, s.read item.ptr = some shared →
      comporeData searched shared.value = false := by
  -- Every entry was read and differed before the end was reached.
  induction list with
  | nil => simp
  | cons first rest ih =>
    simp only [searchData, Option.bind_eq_bind, Option.bind_eq_some_iff] at misses
    obtain ⟨shared, reads, misses⟩ := misses
    split at misses
    · cases misses
    · next differs =>
      refine List.forall_mem_cons.mpr ⟨fun other readsOther => ?_, ih misses⟩
      obtain rfl : shared = other := Option.some.inj (reads.symm.trans readsOther)
      exact Bool.eq_false_iff.mpr differs

/-- Searching is defined as long as all entries can be read. -/
theorem exists_searchData (searched : α)
    (alive : ∀ item ∈ list, ∃ shared, s.read item.ptr = some shared) :
    ∃ found, s.searchData searched list = some found := by
  -- Only reading an entry could be undefined.
  induction list with
  | nil => exact ⟨none, rfl⟩
  | cons first rest ih =>
    obtain ⟨⟨shared, reads⟩, aliveLater⟩ := List.forall_mem_cons.mp alive
    rw [searchData, reads]
    by_cases same : comporeData searched shared.value = true
    · exact ⟨some first, by simp [same]⟩
    · obtain ⟨found, finds⟩ := ih aliveLater
      exact ⟨found, by simp [same, finds]⟩

/-- An entry that a pool has for a value can be read, is the same and reports to the pool. -/
theorem Kept.lookup_found (kept : s.Kept) {pool : Nat} {item : SmartPtr}
    (finds : s.lookup pool searched = some (some item)) :
    item.smartPtrPool = pool ∧ ∃ shared, s.read item.ptr = some shared ∧
      comporeData searched shared.value = true := by
  rw [lookup] at finds
  -- A pool without a list for the key finds nothing.
  split at finds
  · next list keeps =>
    obtain ⟨mem, facts⟩ := searchData_found finds
    exact ⟨(kept.items _ _ _ _ keeps mem).1, facts⟩
  · cases finds

/-- Getting a value copies its entry, or inserts it where there is none. -/
theorem Kept.getFh_cases (kept : s.Kept) (pool : Nat) (searched : α) :
    (∃ item, s.lookup pool searched = some (some item) ∧
        getFh pool searched s = some (s.copied item)) ∨
      s.lookup pool searched = some none ∧
        getFh pool searched s = some (s.inserted pool searched) := by
  -- All entries of the list can be read, so the search comes to an end.
  have defined : ∃ found, s.lookup pool searched = some found := by
    rw [lookup]
    split
    · next list keeps =>
      refine exists_searchData searched fun item mem => ?_
      obtain ⟨_, shared, reads, _⟩ := kept.items _ _ _ _ keeps mem
      exact ⟨shared, reads⟩
    · exact ⟨none, rfl⟩
  obtain ⟨found, finds⟩ := defined
  cases found with
  | none =>
    refine .inr ⟨finds, ?_⟩
    rw [getFh, finds]
    exact kept.pushFh_eq pool searched
  | some item =>
    obtain ⟨_, shared, reads, _⟩ := kept.lookup_found finds
    refine .inl ⟨item, finds, ?_⟩
    rw [getFh, finds]
    exact copy_eq reads

end Searching

end Pools

end Dnfs
