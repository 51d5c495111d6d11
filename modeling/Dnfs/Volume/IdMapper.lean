import Dnfs.Run.Sequences
import Mathlib.Algebra.Group.Nat.Defs

/-! Items under ids that count up. The ids have 64 bits, of which 32 are handed out. -/

namespace Dnfs

variable {τ : Type}

/-- Items by their ids. -/
structure IdMapper (τ : Type) where
  /-- The id that was used last. -/
  useId : UInt64
  overLimit : Bool
  idValumeMap : Std.ExtTreeMap UInt64 τ

namespace IdMapper

/-- No id was used yet. -/
def new : IdMapper τ := ⟨0, false, ∅⟩

/-- Construct an item under the next id. No id is left after the last one, which zero tells. -/
def emplaceItem (item : τ) (mapper : IdMapper τ) : UInt32 × IdMapper τ :=
  if !mapper.overLimit then
    let useId := mapper.useId + 1
    (useId.toUInt32,
      ⟨useId, useId = 0xffffffffffffffff, mapper.idValumeMap.insertIfNew useId item⟩)
  else (0, mapper)

/-- Delete what is under an id. -/
def deleteItem (id : UInt64) (mapper : IdMapper τ) : IdMapper τ :=
  { mapper with idValumeMap := mapper.idValumeMap.erase id }

/-- What is under an id. -/
def searchItem (id : UInt64) (mapper : IdMapper τ) : Option τ := mapper.idValumeMap[id]?

end IdMapper

/-- What is done with items and ids. -/
inductive IdOp (τ : Type) where
  | emplace (item : τ)
  | delete (id : UInt64)
  deriving DecidableEq, Repr

/-- A mapper, with the items that whoever had them constructed takes to be there. -/
structure IdTrace (τ : Type) where
  mapper : IdMapper τ
  /-- The items that were constructed and not deleted, by the ids that were returned for them. -/
  live : List (UInt32 × τ)

/-- Construct an item, unless all ids were used, or delete what an id was returned for. -/
def IdOp.step : IdOp τ → IdTrace τ → Option (IdTrace τ)
  | emplace item, ⟨mapper, live⟩ =>
    let (id, next) := mapper.emplaceItem item
    some ⟨next, if mapper.overLimit then live else (id, item) :: live⟩
  | delete id, ⟨mapper, live⟩ =>
    some ⟨mapper.deleteItem id, live.filter fun entry => entry.1.toUInt64 ≠ id⟩

namespace IdTrace

/-- No item was constructed yet. -/
def new : IdTrace τ := ⟨.new, []⟩

/-- The ids that were returned are not zero, are all different, and lead to their items. -/
structure Identifies (s : IdTrace τ) : Prop where
  nonzero : ∀ id item, (id, item) ∈ s.live → id ≠ 0
  found : ∀ id item, (id, item) ∈ s.live → s.mapper.searchItem id.toUInt64 = some item
  distinct : (s.live.map Prod.fst).Nodup

/-- Everything that is there has an id that was used, and no used id needs more than 32 bits. -/
structure Numbered (s : IdTrace τ) : Prop extends s.Identifies where
  within : s.mapper.overLimit = false
  small : s.mapper.useId.toNat < 2 ^ 32
  used : ∀ id, s.mapper.idValumeMap.contains id → id.toNat ≤ s.mapper.useId.toNat
  returned : ∀ id item, (id, item) ∈ s.live → id.toNat ≤ s.mapper.useId.toNat

variable {s t : IdTrace τ}

/-- Nothing is there in the beginning. -/
theorem new_numbered : (new : IdTrace τ).Numbered where
  nonzero _ _ member := absurd member List.not_mem_nil
  found _ _ member := absurd member List.not_mem_nil
  distinct := List.nodup_nil
  within := rfl
  small := Nat.two_pow_pos 32
  used _ there := absurd there (by simp [new, IdMapper.new])
  returned _ _ member := absurd member List.not_mem_nil

section Emplace

/-- The next id is one more, and is handed out as it is while it has 32 bits. -/
theorem toNat_next (small : s.mapper.useId.toNat + 1 < 2 ^ 32) :
    (s.mapper.useId + 1).toNat = s.mapper.useId.toNat + 1 ∧
      (s.mapper.useId + 1).toUInt32.toNat = s.mapper.useId.toNat + 1 ∧
      (s.mapper.useId + 1).toUInt32.toUInt64 = s.mapper.useId + 1 := by
  have next : (s.mapper.useId + 1).toNat = s.mapper.useId.toNat + 1 := by
    rw [UInt64.toNat_add, UInt64.toNat_one]
    omega
  have handed : (s.mapper.useId + 1).toUInt32.toNat = s.mapper.useId.toNat + 1 := by
    rw [UInt64.toNat_toUInt32, next]
    omega
  refine ⟨next, handed, UInt64.toNat_inj.mp ?_⟩
  rw [UInt32.toNat_toUInt64, handed, next]

/-- The state after an item was constructed. -/
def emplaced (s : IdTrace τ) (item : τ) : IdTrace τ :=
  ⟨⟨s.mapper.useId + 1, s.mapper.useId + 1 = 0xffffffffffffffff,
    s.mapper.idValumeMap.insertIfNew (s.mapper.useId + 1) item⟩,
    ((s.mapper.useId + 1).toUInt32, item) :: s.live⟩

/-- Within the limit an item is entered. -/
theorem step_emplace (within : s.mapper.overLimit = false) (item : τ) :
    (IdOp.emplace item).step s = some (s.emplaced item) := by
  simp only [IdOp.step, IdMapper.emplaceItem, within]
  rfl

/-- What holds of the new item and of those before it holds of all. -/
theorem forall_emplaced {holds : UInt32 → τ → Prop} {item : τ}
    (new : holds (s.mapper.useId + 1).toUInt32 item)
    (before : ∀ id other, (id, other) ∈ s.live → holds id other) :
    ∀ id other, (id, other) ∈ (s.emplaced item).live → holds id other := by
  intro id other member
  rcases List.mem_cons.mp member with here | later
  · obtain ⟨rfl, rfl⟩ := Prod.mk.inj here
    exact new
  · exact before id other later

/-- The next id is above all that were used. -/
theorem Numbered.unused (numbered : s.Numbered) (small : s.mapper.useId.toNat + 1 < 2 ^ 32) :
    s.mapper.useId + 1 ∉ s.mapper.idValumeMap := by
  intro there
  have below := numbered.used _ there
  have next := (toNat_next small).1
  omega

/-- A new item leaves what is found under the ids before it. -/
theorem searchItem_emplaced (item : τ) (id : UInt32) (small : s.mapper.useId.toNat + 1 < 2 ^ 32)
    (below : id.toNat ≤ s.mapper.useId.toNat) :
    (s.emplaced item).mapper.searchItem id.toUInt64 = s.mapper.searchItem id.toUInt64 := by
  refine (Std.ExtTreeMap.getElem?_insertIfNew).trans (if_neg fun both => ?_)
  have equal := congrArg UInt64.toNat (Std.LawfulEqCmp.eq_of_compare both.1)
  rw [(toNat_next small).1, UInt32.toNat_toUInt64] at equal
  omega

/-- Constructing an item keeps the ids apart, as long as they have 32 bits. -/
theorem Numbered.emplaced (numbered : s.Numbered) (item : τ)
    (small : s.mapper.useId.toNat + 1 < 2 ^ 32) : (s.emplaced item).Numbered := by
  obtain ⟨next, handed, same⟩ := toNat_next small
  have now : (s.emplaced item).mapper.useId.toNat = s.mapper.useId.toNat + 1 := next
  -- The new id is one above the last, so no older one is the same.
  constructor
  case toIdentifies =>
    refine ⟨forall_emplaced ?_ numbered.nonzero, forall_emplaced ?_ fun id other later => ?_,
      List.nodup_cons.mpr ⟨fun member => ?_, numbered.distinct⟩⟩
    · intro zero
      rw [zero] at handed
      exact absurd handed.symm (Nat.succ_ne_zero _)
    · rw [same]
      exact (Std.ExtTreeMap.getElem?_insertIfNew).trans
        (if_pos ⟨Std.ReflCmp.compare_self, numbered.unused small⟩)
    · rw [searchItem_emplaced item id small (numbered.returned id other later)]
      exact numbered.found id other later
    · obtain ⟨⟨id, other⟩, inLive, equal⟩ := List.mem_map.mp member
      have below := numbered.returned id other inLive
      rw [show id = _ from equal, handed] at below
      omega
  case within =>
    have notLast : s.mapper.useId + 1 ≠ 0xffffffffffffffff := by
      intro last
      have big := congrArg UInt64.toNat last
      rw [next] at big
      exact absurd (big ▸ small) (by decide)
    exact decide_eq_false notLast
  case small =>
    rw [now]
    exact small
  case used =>
    intro id there
    rcases Std.ExtTreeMap.mem_insertIfNew.mp there with equal | old
    · exact Nat.le_of_eq (congrArg UInt64.toNat (Std.LawfulEqCmp.eq_of_compare equal)).symm
    · have below := numbered.used id old
      omega
  case returned =>
    rw [now]
    refine forall_emplaced (by omega) fun id other later => ?_
    have below := numbered.returned id other later
    omega

end Emplace

/-- Deleting what an id was returned for leaves the other items where they are. -/
theorem Numbered.deleted (numbered : s.Numbered) (id : UInt64) :
    (⟨s.mapper.deleteItem id, s.live.filter fun entry => entry.1.toUInt64 ≠ id⟩ :
      IdTrace τ).Numbered where
  nonzero other item member := numbered.nonzero other item (List.mem_filter.mp member).1
  found other item member := by
    obtain ⟨inLive, differ⟩ := List.mem_filter.mp member
    refine (Std.ExtTreeMap.getElem?_erase).trans ((if_neg fun equal => ?_).trans
      (numbered.found other item inLive))
    exact of_decide_eq_true differ (Std.LawfulEqCmp.eq_of_compare equal).symm
  distinct := numbered.distinct.sublist (List.filter_sublist.map Prod.fst)
  within := numbered.within
  small := numbered.small
  used other there := numbered.used other (Std.ExtTreeMap.mem_erase.mp there).2
  returned other item member := numbered.returned other item (List.mem_filter.mp member).1

end IdTrace

/-- How many items are constructed. -/
def emplacements (ops : List (IdOp τ)) : Nat :=
  ops.countP fun | .emplace _ => true | .delete _ => false

section Runs

variable {s : IdTrace τ}

/-- As long as the ids have 32 bits, they lead to their items. -/
theorem IdTrace.Numbered.run {ops : List (IdOp τ)} (numbered : s.Numbered)
    (small : s.mapper.useId.toNat + emplacements ops < 2 ^ 32) :
    AtEveryPoint IdOp.step IdTrace.Identifies s ops := by
  induction ops generalizing s with
  | nil => exact numbered.toIdentifies
  | cons op ops ih =>
    cases op with
    | emplace item =>
      rw [emplacements, List.countP_cons_of_pos rfl, ← emplacements] at small
      have next := (IdTrace.toNat_next (s := s) (by omega)).1
      refine ⟨numbered.toIdentifies, _, IdTrace.step_emplace numbered.within item,
        ih (numbered.emplaced item (by omega)) ?_⟩
      show (s.mapper.useId + 1).toNat + emplacements ops < 2 ^ 32
      omega
    | delete id => exact ⟨numbered.toIdentifies, _, rfl, ih (numbered.deleted id) small⟩

/-- The first id that needs more than 32 bits is handed out as zero. -/
theorem IdTrace.Numbered.small_of_identifies {ops : List (IdOp τ)} (numbered : s.Numbered)
    (identifies : AtEveryPoint IdOp.step IdTrace.Identifies s ops) :
    s.mapper.useId.toNat + emplacements ops < 2 ^ 32 := by
  induction ops generalizing s with
  | nil => exact numbered.small
  | cons op ops ih =>
    obtain ⟨_, t, took, later⟩ := identifies
    cases op with
    | emplace item =>
      obtain rfl := Option.some.inj ((IdTrace.step_emplace numbered.within item).symm.trans took)
      rw [emplacements, List.countP_cons_of_pos rfl, ← emplacements]
      by_cases small : s.mapper.useId.toNat + 1 < 2 ^ 32
      · have rest := ih (numbered.emplaced item small) later
        have next := (IdTrace.toNat_next small).1
        change (s.mapper.useId + 1).toNat + emplacements ops < 2 ^ 32 at rest
        omega
      · -- The id wraps to zero, which is then the id of an item.
        have here : (s.emplaced item).Identifies := by
          cases ops with
          | nil => exact later
          | cons => exact later.1
        have wraps : (s.mapper.useId + 1).toUInt32 = 0 := by
          apply UInt32.toNat_inj.mp
          have top := numbered.small
          rw [UInt64.toNat_toUInt32, UInt64.toNat_add, UInt64.toNat_one, UInt32.toNat_zero]
          omega
        exact absurd wraps (here.nonzero _ item List.mem_cons_self)
    | delete id =>
      obtain rfl : (⟨s.mapper.deleteItem id, _⟩ : IdTrace τ) = t := Option.some.inj took
      have rest := ih (numbered.deleted id) later
      exact rest

/-- The ids that are returned identify their items just while fewer than 2 ^ 32 are constructed. -/
theorem idMapper_identifies_iff (ops : List (IdOp τ)) :
    AtEveryPoint IdOp.step IdTrace.Identifies IdTrace.new ops ↔ emplacements ops < 2 ^ 32 := by
  have start := (IdTrace.new_numbered : (IdTrace.new : IdTrace τ).Numbered)
  have none : (IdTrace.new : IdTrace τ).mapper.useId.toNat = 0 := rfl
  constructor
  · intro identifies
    have small := start.small_of_identifies identifies
    omega
  · intro small
    exact start.run (by omega)

/-- The item number 2 ^ 32 gets the id zero, although most ids are unused. -/
theorem idMapper_returns_zero :
    ¬ AtEveryPoint IdOp.step IdTrace.Identifies IdTrace.new
      (List.replicate (2 ^ 32) (IdOp.emplace ())) := by
  intro identifies
  have small := IdTrace.new_numbered.small_of_identifies identifies
  rw [emplacements, List.countP_replicate] at small
  exact absurd small (by decide)

end Runs

end Dnfs
