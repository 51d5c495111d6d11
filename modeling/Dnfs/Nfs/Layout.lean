import Dnfs.Nfs.Messages

/-!
How results lie in memory, word by word.

Every result starts with its status and holds its union two words in. The members of the union
overlay each other, so what one handler leaves in one member is read back through another.
-/

namespace Dnfs

/-- Two memory objects agree on a run of words. -/
def Mem.Agree (a b : Mem) (start count : Nat) : Prop :=
  ∀ i, start ≤ i → i < start + count → a i = b i

section Loads

variable (m : Mem)

/-- A point in time, seconds first. -/
def loadTime (at_ : Nat) : Nfstime3 := ⟨m at_, m (at_ + 1)⟩

/-- Device numbers. -/
def loadSpec (at_ : Nat) : Specdata3 := ⟨m at_, m (at_ + 1)⟩

/-- Attributes, with a word of padding before the first long integer. -/
def loadFattr3 (at_ : Nat) : Fattr3 where
  type := m at_
  mode := m (at_ + 1)
  nlink := m (at_ + 2)
  uid := m (at_ + 3)
  gid := m (at_ + 4)
  size := m.getU64 (at_ + 6)
  used := m.getU64 (at_ + 8)
  rdev := loadSpec m (at_ + 10)
  fsid := m.getU64 (at_ + 12)
  fileid := m.getU64 (at_ + 14)
  atime := loadTime m (at_ + 16)
  mtime := loadTime m (at_ + 18)
  ctime := loadTime m (at_ + 20)

/-- A union switched on a boolean word, with its arm wherever the caller reads it. -/
def loadUnion {α : Type} (discriminant : UInt32) (arm : α) : BoolUnion α :=
  if zero : discriminant = 0 then .absent
  else if one : discriminant = 1 then .present arm
  else .other discriminant ⟨zero, one⟩

/-- Attributes that may follow, two words behind their discriminant. -/
def loadPostOpAttr (at_ : Nat) : PostOpAttr :=
  loadUnion (m at_) (loadFattr3 m (at_ + 2))

/-- Cache-consistency attributes. -/
def loadWccAttr (at_ : Nat) : WccAttr :=
  ⟨m.getU64 at_, loadTime m (at_ + 2), loadTime m (at_ + 4)⟩

/-- Attributes from before an operation, two words behind their discriminant. -/
def loadPreOpAttr (at_ : Nat) : PreOpAttr :=
  loadUnion (m at_) (loadWccAttr m (at_ + 2))

/-- Attributes from before and after an operation. -/
def loadWccData (at_ : Nat) : WccData :=
  ⟨loadPreOpAttr m at_, loadPostOpAttr m (at_ + 8)⟩

/-- A run of characters of the given length, as far as memory holds them. -/
def runOf (count : UInt32) (chars : Bytes) : Bytes :=
  (chars ++ List.replicate count.toNat 0).take count.toNat

/-- A run of characters whose count fits its word is read whole. -/
theorem runOf_whole {chars : Bytes} (counted : chars.length < 2 ^ 32) :
    runOf (UInt32.ofNat chars.length) chars = chars := by
  have count : (UInt32.ofNat chars.length).toNat = chars.length :=
    UInt32.toNat_ofNat_of_lt' counted
  rw [runOf, count, List.take_left]

end Loads

section Unions

variable {α : Type} {discriminant discriminant' : UInt32} {arm arm' : α}

/-- A union is well formed when its discriminant is a truth value, and its arm if it follows. -/
theorem loadUnion_wf {wf : α → Prop} :
    (loadUnion discriminant arm).Wf wf ↔ discriminant = 0 ∨ discriminant = 1 ∧ wf arm := by
  by_cases zero : discriminant = 0
  · simp [loadUnion, zero, BoolUnion.Wf]
  · by_cases one : discriminant = 1
    · simp [loadUnion, one, BoolUnion.Wf]
    · simp [loadUnion, zero, one, BoolUnion.Wf]

end Unions

section Agreement

variable {a b : Mem} {at_ : Nat}

/-- Agreement on a run is agreement on every part of it. -/
theorem Mem.Agree.part {start count : Nat} (agree : a.Agree b start count) {i n : Nat}
    (lower : start ≤ i) (upper : i + n ≤ start + count) : a.Agree b i n := by
  intro j low high
  exact agree j (by omega) (by omega)

/-- A word within an agreed run is the same in both. -/
theorem Mem.Agree.word {start count : Nat} (agree : a.Agree b start count) {i : Nat}
    (lower : start ≤ i) (upper : i < start + count) : a i = b i :=
  agree i lower upper

/-- A 64-bit integer within an agreed run is the same in both. -/
theorem Mem.Agree.getU64 {start count : Nat} (agree : a.Agree b start count) {i : Nat}
    (lower : start ≤ i) (upper : i + 1 < start + count) : a.getU64 i = b.getU64 i := by
  rw [Mem.getU64, Mem.getU64, agree i lower (by omega), agree (i + 1) (by omega) upper]

/-- A time depends on its two words only. -/
theorem loadTime_congr (agree : a.Agree b at_ 2) : loadTime a at_ = loadTime b at_ := by
  rw [loadTime, loadTime, agree at_ (by omega) (by omega), agree (at_ + 1) (by omega) (by omega)]

/-- So do the two numbers of a device. -/
theorem loadSpec_congr (agree : a.Agree b at_ 2) : loadSpec a at_ = loadSpec b at_ := by
  rw [loadSpec, loadSpec, agree at_ (by omega) (by omega), agree (at_ + 1) (by omega) (by omega)]

/-- Attributes depend on their own words only. -/
theorem loadFattr3_congr (agree : a.Agree b at_ 22) : loadFattr3 a at_ = loadFattr3 b at_ := by
  -- Every field is a word, a pair of words or a time within the run.
  simp only [loadFattr3, Fattr3.mk.injEq]
  refine ⟨agree.word (by omega) (by omega), agree.word (by omega) (by omega),
    agree.word (by omega) (by omega), agree.word (by omega) (by omega),
    agree.word (by omega) (by omega), agree.getU64 (by omega) (by omega),
    agree.getU64 (by omega) (by omega), loadSpec_congr (agree.part (by omega) (by omega)),
    agree.getU64 (by omega) (by omega), agree.getU64 (by omega) (by omega),
    loadTime_congr (agree.part (by omega) (by omega)),
    loadTime_congr (agree.part (by omega) (by omega)),
    loadTime_congr (agree.part (by omega) (by omega))⟩

/-- So do attributes that may be missing. -/
theorem loadPostOpAttr_congr (agree : a.Agree b at_ 24) :
    loadPostOpAttr a at_ = loadPostOpAttr b at_ := by
  rw [loadPostOpAttr, loadPostOpAttr, agree at_ (by omega) (by omega),
    loadFattr3_congr (agree.part (by omega) (by omega))]

/-- So do the attributes from before. -/
theorem loadWccAttr_congr (agree : a.Agree b at_ 6) : loadWccAttr a at_ = loadWccAttr b at_ := by
  rw [loadWccAttr, loadWccAttr, agree.getU64 (by omega) (by omega),
    loadTime_congr (agree.part (by omega) (by omega)),
    loadTime_congr (agree.part (by omega) (by omega))]

/-- So do those that may be missing. -/
theorem loadPreOpAttr_congr (agree : a.Agree b at_ 8) :
    loadPreOpAttr a at_ = loadPreOpAttr b at_ := by
  rw [loadPreOpAttr, loadPreOpAttr, agree at_ (by omega) (by omega),
    loadWccAttr_congr (agree.part (by omega) (by omega))]

/-- So do the attributes from before and after. -/
theorem loadWccData_congr (agree : a.Agree b at_ 32) : loadWccData a at_ = loadWccData b at_ := by
  rw [loadWccData, loadWccData, loadPreOpAttr_congr (agree.part (by omega) (by omega)),
    loadPostOpAttr_congr (agree.part (by omega) (by omega))]

end Agreement

section Copies

/-- A copied run reads in its new place as it read in its old one. -/
theorem loadPreOpAttr_copy (dst src : Mem) (i j : Nat) :
    loadPreOpAttr (dst.copy i src j 8) i = loadPreOpAttr src j := by
  simp [loadPreOpAttr, loadWccAttr, loadTime, Mem.getU64, Nat.add_assoc]

/-- A copied run reads in its new place as it read in its old one. -/
theorem loadPostOpAttr_copy (dst src : Mem) (i j : Nat) :
    loadPostOpAttr (dst.copy i src j 24) i = loadPostOpAttr src j := by
  simp [loadPostOpAttr, loadFattr3, loadTime, loadSpec, Mem.getU64, Nat.add_assoc]

/-- A store outside a run leaves the run as it was. -/
theorem Mem.agree_put (m : Mem) {i start count : Nat} {w : UInt32}
    (outside : i < start ∨ start + count ≤ i) : (m.put i w).Agree m start count := by
  intro j low high
  rw [Mem.put_apply, if_neg (by omega)]

/-- A copy outside a run leaves the run as it was. -/
theorem Mem.agree_copy (m src : Mem) {i j n start count : Nat}
    (outside : i + n ≤ start ∨ start + count ≤ i) :
    (m.copy i src j n).Agree m start count := by
  intro k low high
  rw [Mem.copy_apply, if_neg (by omega)]

/-- Agreement goes on from one memory to the next. -/
theorem Mem.Agree.trans {a b c : Mem} {start count : Nat} (first : a.Agree b start count)
    (second : b.Agree c start count) : a.Agree c start count := fun i low high =>
  (first i low high).trans (second i low high)

end Copies

end Dnfs
