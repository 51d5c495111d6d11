import Dnfs.File.Share
import Dnfs.Run.Trace

/-! The counters of a file always say who holds it, and so no holder is crossed by another. -/

namespace Dnfs

/-- One reservation that was granted and not yet given back. -/
structure Hold where
  flags : FsalOpenflags
  /-- Whether it was asked for with the advisory denials bypassed. -/
  bypass : Bool
  deriving DecidableEq, Repr

/-- A file's counters beside the reservations they stand for, newest first. -/
structure Reservations where
  share : FsalShare
  held : List Hold
  deriving DecidableEq, Repr

/-- What happens to a file's reservations. -/
inductive ShareEvent where
  /-- A reservation is asked for. -/
  | acquire (flags : FsalOpenflags) (bypass : Bool)
  /-- A reservation made under these flags is given back. -/
  | release (flags : FsalOpenflags)
  deriving DecidableEq, Repr

/-- The number of reservations that may be held at once. -/
def maxHeld : Nat := 2 ^ 31

/-- One event, with the counters moved by the code and the holders by what it answered. -/
inductive ShareStep : Reservations → ShareEvent → Reservations → Prop where
  /-- The reservation is granted and joins those held. -/
  | granted {s : Reservations} {flags : FsalOpenflags} {bypass : Bool} {share : FsalShare}
      (answer : checkShareConflictAndUpdate s.share fsalOClosed flags bypass
        = (.errFsalNoError, share))
      (room : s.held.length + 1 < maxHeld) :
    ShareStep s (.acquire flags bypass) ⟨share, ⟨flags, bypass⟩ :: s.held⟩
  /-- The reservation is refused. -/
  | refused {s : Reservations} {flags : FsalOpenflags} {bypass : Bool} {share : FsalShare}
      (answer : checkShareConflictAndUpdate s.share fsalOClosed flags bypass
        = (.errFsalShareDenied, share)) :
    ShareStep s (.acquire flags bypass) ⟨share, s.held⟩
  /-- One of those held is given back. -/
  | released {share : FsalShare} {newer older : List Hold} {hold : Hold} :
    ShareStep ⟨share, newer ++ hold :: older⟩ (.release hold.flags)
      ⟨updateShareCounters share hold.flags fsalOClosed, newer ++ older⟩

/-- Nobody holds the file. -/
def Reservations.unheld : Reservations := ⟨.zero, []⟩

section Counting

variable (flag : FsalOpenflags)

/-- How many of those held were made with a flag. -/
def tally (held : List Hold) : Nat :=
  held.countP fun hold => hold.flags.has flag

/-- Every counter is the number of reservations it stands for. -/
structure FsalShare.Counts (share : FsalShare) (held : List Hold) : Prop where
  accessRead : share.shareAccessRead.toNat = tally fsalORead held
  accessWrite : share.shareAccessWrite.toNat = tally fsalOWrite held
  denyRead : share.shareDenyRead.toNat = tally fsalODenyRead held
  /-- A mandatory denial is counted here as well. -/
  denyWrite : share.shareDenyWrite.toNat
    = tally fsalODenyWrite held + tally fsalODenyWriteMand held
  denyWriteMand : share.shareDenyWriteMand.toNat = tally fsalODenyWriteMand held

/-- A tally never exceeds the number held. -/
theorem tally_le_length (held : List Hold) : tally flag held ≤ held.length :=
  List.countP_le_length

/-- A tally is positive exactly when someone holds the flag. -/
theorem tally_pos {flag : FsalOpenflags} {held : List Hold} :
    0 < tally flag held ↔ ∃ hold ∈ held, hold.flags.has flag = true :=
  List.countP_pos_iff

/-- No flag is set when a file is closed. -/
@[simp] theorem fsalOClosed_has : fsalOClosed.has flag = false := by
  simp [FsalOpenflags.has, fsalOClosed]

/-- A reservation taken from nothing adds one to the tally of each of its flags. -/
theorem tally_cons (hold : Hold) (held : List Hold) :
    (tally flag (hold :: held) : Int) = tally flag held + flagInc fsalOClosed hold.flags flag := by
  simp only [tally, List.countP_cons, flagInc, flagCount, fsalOClosed_has]
  by_cases given : hold.flags.has flag <;> simp [given]

/-- A reservation given back takes one from the tally of each of its flags. -/
theorem tally_erase (hold : Hold) (newer older : List Hold) :
    (tally flag (newer ++ older) : Int)
      = tally flag (newer ++ hold :: older) + flagInc hold.flags fsalOClosed flag := by
  simp only [tally, List.countP_append, List.countP_cons, flagInc, flagCount, fsalOClosed_has]
  by_cases given : hold.flags.has flag
  · simp [given]
    omega
  · simp [given]

/-- A counter moved by a signed increment holds the sum whenever the sum fits. -/
theorem counter_add {counter : UInt32} {inc : Int} {count : Nat}
    (sum : (count : Int) = counter.toNat + inc) (fits : count < 2 ^ 32) :
    (counter + UInt32.ofInt inc).toNat = count := by
  -- Both the increment and the sum are taken modulo the width, and the sum fits it.
  rw [UInt32.toNat_add, UInt32.ofInt, UInt32.toNat_ofNat']
  omega

/--
Counters that were right stay right when the holders change as the flags do.

Granting and giving back are both of this shape, from no flags and to no flags.
-/
theorem FsalShare.Counts.update {share : FsalShare} {held held' : List Hold}
    {oldOpenflags newOpenflags : FsalOpenflags} (counts : share.Counts held)
    (moved : ∀ flag, (tally flag held' : Int)
      = tally flag held + flagInc oldOpenflags newOpenflags flag)
    (few : held'.length < maxHeld) :
    (updateShareCounters share oldOpenflags newOpenflags).Counts held' := by
  -- Even the counter that counts mandatory denials twice stays below the width.
  have bound : ∀ flag, tally flag held' < 2 ^ 31 := fun flag =>
    Nat.lt_of_le_of_lt (tally_le_length flag held') few
  have read := moved fsalORead
  have write := moved fsalOWrite
  have denyRead := moved fsalODenyRead
  have denyWrite := moved fsalODenyWrite
  have mand := moved fsalODenyWriteMand
  have readBound := bound fsalORead
  have writeBound := bound fsalOWrite
  have denyReadBound := bound fsalODenyRead
  have denyWriteBound := bound fsalODenyWrite
  have mandBound := bound fsalODenyWriteMand
  constructor
  · exact counter_add (by rw [counts.accessRead]; exact read) (by omega)
  · exact counter_add (by rw [counts.accessWrite]; exact write) (by omega)
  · exact counter_add (by rw [counts.denyRead]; exact denyRead) (by omega)
  · exact counter_add (by rw [counts.denyWrite]; push_cast; omega) (by omega)
  · exact counter_add (by rw [counts.denyWriteMand]; exact mand) (by omega)

end Counting

section Crossing

/-- The first takes what the second denies. -/
def Crosses (a b : FsalOpenflags) : Prop :=
  (a.has fsalORead ∧ b.has fsalODenyRead) ∨
    (a.has fsalOWrite ∧ (b.has fsalODenyWrite ∨ b.has fsalODenyWriteMand))

/-- One of the two takes what the other denies. -/
def Conflicts (a b : FsalOpenflags) : Prop := Crosses a b ∨ Crosses b a

/-- The first writes although the second has a mandatory denial. -/
def CrossesMand (a b : FsalOpenflags) : Prop := a.has fsalOWrite ∧ b.has fsalODenyWriteMand

/-- A counter is positive exactly when someone holds the flag it counts. -/
private theorem counter_pos {counter : UInt32} {flag : FsalOpenflags} {held : List Hold}
    (count : counter.toNat = tally flag held) {hold : Hold} (within : hold ∈ held)
    (given : hold.flags.has flag = true) : counter > 0 := by
  have positive : 0 < tally flag held := tally_pos.mpr ⟨hold, within, given⟩
  rw [gt_iff_lt, UInt32.lt_iff_toNat_lt, count]
  exact positive

/-- A reservation nothing stands against crosses nobody, unless it bypasses advisory denials. -/
theorem granted_crosses_nobody {share : FsalShare} {held : List Hold} {flags : FsalOpenflags}
    {bypass : Bool} (counts : share.Counts held)
    (clear : shareConflictCause share flags bypass = none) {hold : Hold} (within : hold ∈ held) :
    (bypass = false → ¬Conflicts flags hold.flags) ∧ ¬CrossesMand flags hold.flags ∧
      ¬CrossesMand hold.flags flags := by
  -- None of the four tests found a reason to refuse.
  simp only [shareConflictCause] at clear
  split at clear
  · cases clear
  rename_i readClear
  split at clear
  · cases clear
  rename_i writeClear
  split at clear
  · cases clear
  rename_i denyReadClear
  split at clear
  · cases clear
  rename_i denyWriteClear
  have denyWritePos : hold.flags.has fsalODenyWrite = true → share.shareDenyWrite > 0 := by
    intro given
    have positive := tally_pos.mpr ⟨hold, within, given⟩
    rw [gt_iff_lt, UInt32.lt_iff_toNat_lt, counts.denyWrite]
    exact Nat.add_pos_left positive _
  have mandPos : hold.flags.has fsalODenyWriteMand = true → share.shareDenyWriteMand > 0 :=
    counter_pos counts.denyWriteMand within
  have writePos : hold.flags.has fsalOWrite = true → share.shareAccessWrite > 0 :=
    counter_pos counts.accessWrite within
  refine ⟨?_, ?_, ?_⟩
  · rintro noBypass ((⟨reads, denied⟩ | ⟨writes, denied | denied⟩) |
      (⟨reads, denied⟩ | ⟨writes, denied⟩))
    · exact readClear ⟨reads, counter_pos counts.denyRead within denied, by simp [noBypass]⟩
    · exact writeClear ⟨writes, Or.inr ⟨by simp [noBypass], denyWritePos denied⟩⟩
    · exact writeClear ⟨writes, Or.inl (mandPos denied)⟩
    · exact denyReadClear ⟨denied, counter_pos counts.accessRead within reads⟩
    · exact denyWriteClear ⟨denied, writePos writes⟩
  · rintro ⟨writes, denied⟩
    exact writeClear ⟨writes, Or.inl (mandPos denied)⟩
  · rintro ⟨writes, denied⟩
    exact denyWriteClear ⟨Or.inr denied, writePos writes⟩

/-- What a newer reservation may not do to an older one, given how it was asked for. -/
def Newer (newer older : Hold) : Prop :=
  (newer.bypass = false → ¬Conflicts newer.flags older.flags) ∧
    ¬CrossesMand newer.flags older.flags ∧ ¬CrossesMand older.flags newer.flags

end Crossing

section Runs

/-- What every moment of a run satisfies. -/
structure ShareInv (past : List ShareEvent) (s : Reservations) : Prop where
  counts : s.share.Counts s.held
  few : s.held.length < maxHeld
  /-- Each reservation stands well with every older one. -/
  ordered : s.held.Pairwise Newer
  /-- Each reservation was asked for earlier in the run. -/
  asked : ∀ hold ∈ s.held, ShareEvent.acquire hold.flags hold.bypass ∈ past

/-- A refusal leaves every counter as it was. -/
theorem refused_unchanged {share share' : FsalShare} {old new : FsalOpenflags} {bypass : Bool}
    (answer : checkShareConflictAndUpdate share old new bypass = (.errFsalShareDenied, share')) :
    share' = share := by
  simp only [checkShareConflictAndUpdate] at answer
  split at answer
  · cases answer
  · exact (Prod.mk.inj answer).2.symm

/-- A grant was cleared by every test, and moved the counters. -/
theorem granted_cleared {share share' : FsalShare} {old new : FsalOpenflags} {bypass : Bool}
    (answer : checkShareConflictAndUpdate share old new bypass = (.errFsalNoError, share')) :
    shareConflictCause share new bypass = none ∧ share' = updateShareCounters share old new := by
  simp only [checkShareConflictAndUpdate, checkShareConflict] at answer
  cases cause : shareConflictCause share new bypass with
  | none =>
    rw [cause] at answer
    exact ⟨rfl, (Prod.mk.inj answer).2.symm⟩
  | some reason =>
    rw [cause] at answer
    cases (Prod.mk.inj answer).1

/-- Every event keeps the invariant. -/
theorem ShareInv.step {past : List ShareEvent} {s t : Reservations} {e : ShareEvent}
    (inv : ShareInv past s) (taken : ShareStep s e t) : ShareInv (e :: past) t := by
  cases taken with
  | granted answer room =>
    obtain ⟨clear, rfl⟩ := granted_cleared answer
    refine ⟨?_, by simpa using room, ?_, ?_⟩
    · exact inv.counts.update (fun flag => tally_cons flag _ _) (by simpa using room)
    · -- The new reservation was tested against everyone who held the file then.
      refine List.pairwise_cons.mpr ⟨fun older within => ?_, inv.ordered⟩
      exact granted_crosses_nobody inv.counts clear within
    · intro hold within
      rcases List.mem_cons.mp within with rfl | older
      · exact List.mem_cons_self
      · exact List.mem_cons_of_mem _ (inv.asked hold older)
  | refused answer =>
    obtain rfl := refused_unchanged answer
    exact ⟨inv.counts, inv.few, inv.ordered,
      fun hold within => List.mem_cons_of_mem _ (inv.asked hold within)⟩
  | @released share newer older hold =>
    have fewer : (newer ++ older).Sublist (newer ++ hold :: older) :=
      List.Sublist.append_left (List.sublist_cons_self _ _) _
    have few := Nat.lt_of_le_of_lt fewer.length_le inv.few
    refine ⟨?_, few, inv.ordered.sublist fewer, ?_⟩
    · exact inv.counts.update (fun flag => tally_erase flag hold newer older) few
    · intro kept within
      exact List.mem_cons_of_mem _ (inv.asked kept (fewer.subset within))

/-- Every moment of a run from an unheld file satisfies the invariant. -/
theorem shareInv_of_run {past : List ShareEvent} {s : Reservations}
    (run : Run ShareStep .unheld past s) : ShareInv past s := by
  refine Run.invariant ShareInv ?_ (fun _ _ _ _ inv taken => inv.step taken) run
  exact ⟨⟨rfl, rfl, rfl, rfl, rfl⟩, by decide, .nil, by simp [Reservations.unheld]⟩

/-- Two different holders stand in whatever order they took their reservations. -/
private theorem ordered_pair {held : List Hold} (ordered : held.Pairwise Newer) {i j : Nat}
    {a b : Hold} (different : i ≠ j) (first : held[i]? = some a) (second : held[j]? = some b) :
    Newer a b ∨ Newer b a := by
  obtain ⟨iBound, rfl⟩ := List.getElem?_eq_some_iff.mp first
  obtain ⟨jBound, rfl⟩ := List.getElem?_eq_some_iff.mp second
  have pair := List.pairwise_iff_getElem.mp ordered
  rcases Nat.lt_or_gt_of_ne different with before | after
  · exact Or.inl (pair i j iBound jBound before)
  · exact Or.inr (pair j i jBound iBound after)

/--
Reservations are safe over any history of asking and giving back.

The counters are the tallies of those held, so none wraps. Where nobody asked to bypass, no two
holders conflict. Even with bypassing, nobody writes under another's mandatory denial. A refusal
moves no counter.
-/
theorem share_reservations_safe {past : List ShareEvent} {s : Reservations}
    (run : Run ShareStep .unheld past s) :
    s.share.Counts s.held ∧
    ((∀ flags, .acquire flags true ∉ past) → ∀ (i j : Nat) (a b : Hold), i ≠ j →
      s.held[i]? = some a → s.held[j]? = some b → ¬Conflicts a.flags b.flags) ∧
    (∀ (i j : Nat) (a b : Hold), i ≠ j → s.held[i]? = some a → s.held[j]? = some b →
      ¬CrossesMand a.flags b.flags) ∧
    (∀ old new bypass share, checkShareConflictAndUpdate s.share old new bypass
      = (.errFsalShareDenied, share) → share = s.share) := by
  have inv := shareInv_of_run run
  refine ⟨inv.counts, ?_, ?_, ?_⟩
  · intro noBypass i j a b different first second
    -- Both were asked for without bypassing, so whichever is newer was tested in full.
    have plain : ∀ hold ∈ s.held, hold.bypass = false := by
      intro hold within
      cases bypassed : hold.bypass with
      | false => rfl
      | true =>
        have asked := inv.asked hold within
        rw [bypassed] at asked
        exact absurd asked (noBypass hold.flags)
    rcases ordered_pair inv.ordered different first second with newer | newer
    · exact newer.1 (plain a (List.mem_of_getElem? first))
    · intro conflict
      exact newer.1 (plain b (List.mem_of_getElem? second)) conflict.symm
  · intro i j a b different first second
    rcases ordered_pair inv.ordered different first second with newer | newer
    · exact newer.2.1
    · exact newer.2.2
  · intro old new bypass share answer
    exact refused_unchanged answer

/-- Two readers hold a file. -/
def twoReaders : Reservations :=
  ⟨{ FsalShare.zero with shareAccessRead := 2 }, [⟨fsalORead, false⟩, ⟨fsalORead, false⟩]⟩

/-- Two readers took a file, and a third party that would deny them reading was refused. -/
private theorem twoReaders_run :
    Run ShareStep .unheld
      [.acquire fsalODenyRead false, .acquire fsalORead false, .acquire fsalORead false]
      twoReaders := by
  have first : ShareStep .unheld (.acquire fsalORead false)
      ⟨{ FsalShare.zero with shareAccessRead := 1 }, [⟨fsalORead, false⟩]⟩ :=
    .granted (by decide) (by decide)
  have second : ShareStep ⟨{ FsalShare.zero with shareAccessRead := 1 }, [⟨fsalORead, false⟩]⟩
      (.acquire fsalORead false) twoReaders :=
    .granted (by decide) (by decide)
  have third : ShareStep twoReaders (.acquire fsalODenyRead false) twoReaders :=
    .refused (by decide)
  exact .cons (.cons (.cons .nil first) second) third

/-- The two readers are counted, cross nobody, and are untouched by the refusal. -/
theorem share_reservations_safe_twoReaders :
    twoReaders.share.Counts twoReaders.held ∧ ¬Conflicts fsalORead fsalORead ∧
      ¬CrossesMand fsalORead fsalORead ∧
      (checkShareConflictAndUpdate twoReaders.share fsalOClosed fsalODenyRead false).2
        = twoReaders.share := by
  have safe := share_reservations_safe twoReaders_run
  refine ⟨safe.1, ?_, ?_, ?_⟩
  · refine safe.2.1 ?_ 0 1 ⟨fsalORead, false⟩ ⟨fsalORead, false⟩ (by decide) rfl rfl
    simp
  · exact safe.2.2.1 0 1 ⟨fsalORead, false⟩ ⟨fsalORead, false⟩ (by decide) rfl rfl
  · exact safe.2.2.2 fsalOClosed fsalODenyRead false _ (by decide)

end Runs

end Dnfs
