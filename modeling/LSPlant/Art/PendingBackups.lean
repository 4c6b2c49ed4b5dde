import LSPlant.Art.Class
import LSPlant.Library.Machine
/-!
# Pending backups

What `PopBackup` takes out of the pending snapshots and what it leaves, for
any content of the table and any order it is iterated in. Each snapshot is
charged to the call of `BackupClassMethods` that recorded it: along a run of
both, what one call recorded for a method is handed out once at most.
-/

namespace LSPlant

/-- The pending snapshots, by thread and class. -/
abbrev PendingBackups := Table ThreadPtr (Table ClassDefPtr BackupMethods)

/-- **The snapshot** a thread keeps of a class. -/
def pendingSnapshot (bm : PendingBackups) (thread : ThreadPtr) (classDef : ClassDefPtr) :
    Option BackupMethods :=
  (bm.lookup thread).bind (·.lookup classDef)

/-- **What popping a class is to do.** -/
structure PopsClass (bm : PendingBackups) (classDef : ClassDefPtr)
    (popped : BackupMethods × PendingBackups) : Prop where
  mem_iff : ∀ m, m ∈ popped.1 ↔ ∃ thread, (snapshotEntry bm thread classDef m).isSome
  recorded : ∀ m e, popped.1.lookup m = some e → ∃ thread,
    snapshotEntry bm thread classDef m = some e
  gone : ∀ thread, pendingSnapshot popped.2 thread classDef = none
  others : ∀ thread c, c ≠ classDef →
    pendingSnapshot popped.2 thread c = pendingSnapshot bm thread c
  nonempty : ∀ thread classes, popped.2.lookup thread = some classes → ¬ classes.IsEmpty

/-- **What popping a thread is to do.** -/
structure PopsThread (bm : PendingBackups) (self : ThreadPtr)
    (popped : BackupMethods × PendingBackups) : Prop where
  mem_iff : ∀ m, m ∈ popped.1 ↔ ∃ c, (snapshotEntry bm self c m).isSome
  recorded : ∀ m e, popped.1.lookup m = some e → ∃ c, snapshotEntry bm self c m = some e
  gone : popped.2.lookup self = none
  others : ∀ thread ≠ self, popped.2.lookup thread = bm.lookup thread

/-- **The snapshot an entry is handed out from**: the first one that holds
the method. -/
def handedFrom (bm : PendingBackups) (classDef : ClassDefPtr) (self : ThreadPtr)
    (order : RestoreOrder) (m : ArtMethodPtr) : Option (ThreadPtr × ClassDefPtr) :=
  if classDef ≠ nullptr then
    (order.threads.find? fun thread =>
      (snapshotEntry bm thread classDef m).isSome).map (·, classDef)
  else if self ≠ nullptr then
    (order.classes.find? fun c => (snapshotEntry bm self c m).isSome).map (self, ·)
  else none

/-- **The calls on the pending snapshots**, and anything else that happens
to the state between them. -/
inductive BackupOp where
  | backupClassMethods (classDef : ClassDefPtr) (self : ThreadPtr)
  | popBackup (classDef : ClassDefPtr) (self : ThreadPtr) (order : RestoreOrder)
  | elsewhere (s : State)

/-- **The pending snapshots over time.** -/
def backupMachine : Machine State BackupOp where
  step
    | s, .backupClassMethods classDef self => backupClassMethods s classDef self
    | s, .popBackup classDef self order =>
      { s with backupMethods := (popBackup s.backupMethods classDef self order).2 }
    | s, .elsewhere s' => { s' with backupMethods := s.backupMethods }
  admissible _ _ := True

/-- **What is remembered of a run**: the calls of `BackupClassMethods` so
far, the one that recorded the snapshot a thread keeps of a class, and how
often the entry of a method that a call recorded has been handed out. -/
structure BackupHistory where
  calls : ℕ
  recordedBy : ThreadPtr → ClassDefPtr → ℕ
  handedOut : ℕ → ArtMethodPtr → ℕ

def BackupHistory.start : BackupHistory := ⟨0, fun _ _ => 0, fun _ _ => 0⟩

/-- A call records a snapshot where the thread keeps none of the class. -/
def backupNext (s : State) (history : BackupHistory) : BackupOp → BackupHistory
  | .backupClassMethods classDef self =>
    { history with
      calls := history.calls + 1
      recordedBy := fun thread c =>
        if thread = self ∧ c = classDef ∧ pendingSnapshot s.backupMethods self classDef = none
        then history.calls
        else history.recordedBy thread c }
  | .popBackup classDef self order =>
    { history with
      handedOut := fun call m => history.handedOut call m +
        if ((handedFrom s.backupMethods classDef self order m).map fun source =>
          history.recordedBy source.1 source.2) = some call then 1 else 0 }
  | .elsewhere _ => history

variable {bm : PendingBackups} {cd c : ClassDefPtr} {self thread : ThreadPtr}
  {order : RestoreOrder} {m : ArtMethodPtr} {e : EntryPoint}

/-! ## One pass -/

theorem snapshotEntry_eq : snapshotEntry bm thread c m =
    (pendingSnapshot bm thread c).bind (·.lookup m) := by
  rw [snapshotEntry, pendingSnapshot, Option.bind_assoc]

theorem pendingSnapshot_of_snapshotEntry (h : (snapshotEntry bm thread c m).isSome) :
    (pendingSnapshot bm thread c).isSome := by
  rw [snapshotEntry_eq] at h
  rcases hsnapshot : pendingSnapshot bm thread c with _ | ms
  · rw [hsnapshot] at h
    exact absurd h nofun
  · rfl

/-- What is left of a thread's snapshots when a class is popped. -/
def leftOver (cd : ClassDefPtr) (classes : Table ClassDefPtr BackupMethods) :
    Option (Table ClassDefPtr BackupMethods) :=
  if Table.IsEmpty (classes.erase cd) then none else some (classes.erase cd)

theorem leftOver_bind {classes : Table ClassDefPtr BackupMethods} :
    (leftOver cd classes).bind (·.lookup c) = if c = cd then none else classes.lookup c := by
  rw [← Table.lookup_erase_eq, leftOver]
  split
  · rename_i hempty
    exact (Table.isEmpty_iff.1 hempty c).symm
  · rfl

theorem eq_of_leftOver {classes rest : Table ClassDefPtr BackupMethods}
    (h : leftOver cd classes = some rest) : rest = classes.erase cd ∧ ¬ rest.IsEmpty := by
  unfold leftOver at h
  split at h
  · exact absurd h nofun
  · rename_i hnot
    obtain rfl := Option.some.inj h
    exact ⟨rfl, hnot⟩

/-- **A pass over a thread** leaves there what is left, and touches no other
thread. -/
theorem lookup_popClass_snd {acc : BackupMethods × PendingBackups}
    {classes : Table ClassDefPtr BackupMethods} {th : ThreadPtr} :
    (popClass cd acc thread classes).2.lookup th =
      if th = thread then leftOver cd classes else acc.2.lookup th := by
  have hrest : ∀ rest : Table ClassDefPtr BackupMethods, rest = classes.erase cd →
      (if Table.IsEmpty rest then acc.2.erase thread else acc.2.insert thread rest).lookup th =
        if th = thread then leftOver cd classes else acc.2.lookup th := by
    rintro rest rfl
    unfold leftOver
    split
    · exact Table.lookup_erase_eq
    · exact Table.lookup_insert_eq
  unfold popClass
  rcases hfound : classes.lookup cd with _ | found
  · -- erasing what is not there changes nothing
    have hsame : classes = classes.erase cd := by
      refine Finmap.ext_lookup fun c => ?_
      rw [Table.lookup_erase_eq]
      split
      · rename_i hc
        rw [hc, hfound]
      · rfl
    rw [← hrest classes hsame]
    dsimp only
    split <;> rfl
  · rw [← hrest _ rfl]
    dsimp only
    split <;> rfl

/-- **The loop over the threads**: those visited keep what is left. -/
theorem lookup_popClass_loop_snd {threads : List ThreadPtr} {acc : BackupMethods × PendingBackups}
    {th : ThreadPtr} :
    (Table.forEach threads bm (popClass cd) acc).2.lookup th =
      if th ∈ threads ∧ (bm.lookup th).isSome then (bm.lookup th).bind (leftOver cd)
      else acc.2.lookup th := by
  induction threads generalizing acc with
  | nil => exact (if_neg fun hmem => List.not_mem_nil hmem.1).symm
  | cons thread threads ih =>
    rw [Table.forEach_cons, ih]
    simp only [List.mem_cons]
    rcases hthread : bm.lookup thread with _ | classes
    · by_cases hne : th = thread
      · subst hne
        simp only [hthread, Option.isSome_none, Bool.false_eq_true, and_false, if_false]
      · simp only [hne, false_or]
    · dsimp only
      rw [lookup_popClass_snd]
      by_cases hne : th = thread
      · subst hne
        simp only [hthread, Option.isSome_some, and_true, true_or, if_true, Option.bind_some,
          ite_self]
      · simp only [hne, false_or, if_false]

/-! ## One call -/

/-- **What `PopBackup` of a class leaves** of a thread. -/
theorem lookup_popBackup_snd (hcd : cd ≠ nullptr) :
    (popBackup bm cd self order).2.lookup thread =
      if thread ∈ order.threads then (bm.lookup thread).bind (leftOver cd)
      else bm.lookup thread := by
  unfold popBackup
  split
  · rename_i hempty
    rw [Table.isEmpty_iff.1 hempty thread, Option.bind_none, ite_self]
  · rw [lookup_popClass_loop_snd]
    rcases hthread : bm.lookup thread with _ | classes
    · rw [if_neg fun hboth => absurd hboth.2 Bool.false_ne_true, Option.bind_none, ite_self]
    · simp only [Option.isSome_some, and_true]

theorem lookup_popBackup_snd_thread (hself : self ≠ nullptr) :
    (popBackup bm nullptr self order).2.lookup thread =
      if thread = self then none else bm.lookup thread := by
  unfold popBackup
  split
  · rename_i hempty
    rw [Table.isEmpty_iff.1 hempty thread, ite_self]
  · rw [if_neg (not_not_intro rfl)]
    split
    · rename_i hlookup
      split
      · rename_i hthread
        rw [hthread, hlookup]
      · rfl
    · exact Table.lookup_erase_eq

/-- **Popping a class.** -/
theorem popsClass (hcd : cd ≠ nullptr) (ho : Table.Enumerates order.threads bm) :
    PopsClass bm cd (popBackup bm cd self order) := by
  have hfound : ∀ m, (popBackup bm cd self order).1.lookup m =
      order.threads.findSome? fun thread => snapshotEntry bm thread cd m := fun m => by
    rw [lookup_popBackup, pendingEntry, if_pos hcd]
  have hleft : ∀ thread, (popBackup bm cd self order).2.lookup thread =
      (bm.lookup thread).bind (leftOver cd) := by
    intro thread
    rw [lookup_popBackup_snd hcd]
    split
    · rfl
    · rename_i hnot
      rw [Finmap.lookup_eq_none.2 fun hmem => hnot (ho.mem_iff.2 hmem), Option.bind_none]
  have hpending : ∀ thread c, pendingSnapshot (popBackup bm cd self order).2 thread c =
      if c = cd then none else pendingSnapshot bm thread c := by
    intro thread c
    rw [pendingSnapshot, hleft, pendingSnapshot]
    rcases bm.lookup thread with _ | classes
    · exact (ite_self none).symm
    · exact leftOver_bind
  refine ⟨fun m => ?_, fun m e he => ?_, fun thread => ?_, fun thread c hc => ?_,
    fun thread classes hclasses => ?_⟩
  · rw [Table.mem_iff_lookup, ← Option.isSome_iff_exists, hfound, List.findSome?_isSome_iff]
    constructor
    · rintro ⟨thread, -, hentry⟩
      exact ⟨thread, hentry⟩
    · rintro ⟨thread, hentry⟩
      have hsnapshot := pendingSnapshot_of_snapshotEntry hentry
      refine ⟨thread, ho.mem_iff.2 ?_, hentry⟩
      rw [Table.mem_iff_lookup, ← Option.isSome_iff_exists]
      rcases hthread : bm.lookup thread with _ | classes
      · rw [pendingSnapshot, hthread] at hsnapshot
        exact absurd hsnapshot nofun
      · rfl
  · rw [hfound] at he
    obtain ⟨thread, -, hentry⟩ := List.exists_of_findSome?_eq_some he
    exact ⟨thread, hentry⟩
  · rw [hpending, if_pos rfl]
  · rw [hpending, if_neg hc]
  · rw [hleft] at hclasses
    obtain ⟨old, -, hleftOver⟩ := Option.bind_eq_some_iff.1 hclasses
    exact (eq_of_leftOver hleftOver).2

/-- **Popping a thread.** -/
theorem popsThread (hself : self ≠ nullptr)
    (ho : Table.Enumerates order.classes ((bm.lookup self).getD ∅)) :
    PopsThread bm self (popBackup bm nullptr self order) := by
  have hnull : ¬ (nullptr : ClassDefPtr) ≠ nullptr := not_not_intro rfl
  have hfound : ∀ m, (popBackup bm nullptr self order).1.lookup m =
      order.classes.findSome? fun c => snapshotEntry bm self c m := fun m => by
    rw [lookup_popBackup, pendingEntry, if_neg hnull, if_pos hself]
  refine ⟨fun m => ?_, fun m e he => ?_, ?_, fun thread hthread => ?_⟩
  · rw [Table.mem_iff_lookup, ← Option.isSome_iff_exists, hfound, List.findSome?_isSome_iff]
    constructor
    · rintro ⟨c, -, hentry⟩
      exact ⟨c, hentry⟩
    · rintro ⟨c, hentry⟩
      have hsnapshot := pendingSnapshot_of_snapshotEntry hentry
      refine ⟨c, ho.mem_iff.2 ?_, hentry⟩
      rw [Table.mem_iff_lookup, ← Option.isSome_iff_exists]
      rcases hlookup : bm.lookup self with _ | classes
      · rw [pendingSnapshot, hlookup] at hsnapshot
        exact absurd hsnapshot nofun
      · rwa [pendingSnapshot, hlookup] at hsnapshot
  · rw [hfound] at he
    obtain ⟨c, -, hentry⟩ := List.exists_of_findSome?_eq_some he
    exact ⟨c, hentry⟩
  · rw [lookup_popBackup_snd_thread hself, if_pos rfl]
  · rw [lookup_popBackup_snd_thread hself, if_neg hthread]

/-- The first of a list to answer answers for the list. -/
theorem findSome?_eq_find? {α β : Type*} (f : α → Option β) (xs : List α) :
    xs.findSome? f = (xs.find? fun x => (f x).isSome).bind f := by
  induction xs with
  | nil => rfl
  | cons x xs ih =>
    rw [List.findSome?_cons, List.find?_cons]
    rcases hx : f x with _ | y
    · exact ih
    · exact hx.symm

/-- **What is returned is what is handed out.** -/
theorem lookup_popBackup_eq_handedFrom :
    (popBackup bm cd self order).1.lookup m =
      (handedFrom bm cd self order m).bind fun source => snapshotEntry bm source.1 source.2 m := by
  rw [lookup_popBackup, pendingEntry, handedFrom]
  split
  · rw [findSome?_eq_find?, Option.bind_map]
    rfl
  · split
    · rw [findSome?_eq_find?, Option.bind_map]
      rfl
    · rfl

/-- **A snapshot that entries are handed out from** was pending, and is not
after. -/
theorem pendingSnapshot_of_handedFrom (h : handedFrom bm cd self order m = some (thread, c)) :
    (pendingSnapshot bm thread c).isSome ∧
      pendingSnapshot (popBackup bm cd self order).2 thread c = none := by
  unfold handedFrom at h
  split at h
  · rename_i hcd
    obtain ⟨th, hfind, hpair⟩ := Option.map_eq_some_iff.1 h
    obtain ⟨rfl, rfl⟩ := Prod.mk.inj hpair
    have hentry := List.find?_some hfind
    refine ⟨pendingSnapshot_of_snapshotEntry hentry, ?_⟩
    rw [pendingSnapshot, lookup_popBackup_snd hcd, if_pos (List.mem_of_find?_eq_some hfind)]
    rcases bm.lookup th with _ | classes
    · rfl
    · rw [Option.bind_some, leftOver_bind, if_pos rfl]
  · rename_i hcd
    obtain rfl := not_not.1 hcd
    split at h
    · rename_i hself
      obtain ⟨c', hfind, hpair⟩ := Option.map_eq_some_iff.1 h
      obtain ⟨rfl, rfl⟩ := Prod.mk.inj hpair
      have hentry := List.find?_some hfind
      refine ⟨pendingSnapshot_of_snapshotEntry hentry, ?_⟩
      rw [pendingSnapshot, lookup_popBackup_snd_thread hself, if_pos rfl, Option.bind_none]
    · exact absurd h nofun

/-- **What is pending after a pop** was pending. -/
theorem pendingSnapshot_popBackup
    (h : (pendingSnapshot (popBackup bm cd self order).2 thread c).isSome) :
    (pendingSnapshot bm thread c).isSome := by
  by_cases hcd : cd = nullptr
  · subst hcd
    by_cases hself : self = nullptr
    · subst hself
      have hsame : (popBackup bm nullptr nullptr order).2 = bm := by
        unfold popBackup
        split
        · rfl
        · rw [if_neg (not_not_intro rfl), if_neg (not_not_intro rfl)]
      rwa [hsame] at h
    · rw [pendingSnapshot, lookup_popBackup_snd_thread hself] at h
      split at h
      · exact absurd h Bool.false_ne_true
      · exact h
  · rw [pendingSnapshot, lookup_popBackup_snd hcd] at h
    split at h
    · rw [pendingSnapshot]
      rcases hthread : bm.lookup thread with _ | classes
      · rw [hthread] at h
        exact absurd h Bool.false_ne_true
      · rw [hthread, Option.bind_some, leftOver_bind] at h
        split at h
        · exact absurd h Bool.false_ne_true
        · exact h
    · exact h

/-- **A snapshot recorded** is the only one that changes, and only where
none was pending. -/
theorem pendingSnapshot_backupClassMethods {s : State}
    (h : ¬ (thread = self ∧ c = cd ∧ pendingSnapshot s.backupMethods self cd = none)) :
    pendingSnapshot (backupClassMethods s cd self).backupMethods thread c =
      pendingSnapshot s.backupMethods thread c := by
  unfold backupClassMethods
  split
  · rfl
  split
  · rfl
  show (Finmap.lookup thread (Finmap.insert self _ s.backupMethods)).bind _ = _
  rw [Table.lookup_insert_eq]
  split
  · rename_i hthread
    subst hthread
    rw [Option.bind_some, Table.lookup_emplace_eq]
    have hkept : (((s.backupMethods.lookup thread).getD ∅).lookup c) =
        pendingSnapshot s.backupMethods thread c := by
      rw [pendingSnapshot]
      rcases s.backupMethods.lookup thread with _ | classes <;> rfl
    split
    · rename_i hnew
      obtain ⟨rfl, hnot⟩ := hnew
      rw [← Finmap.lookup_eq_none, hkept] at hnot
      exact absurd ⟨rfl, rfl, hnot⟩ h
    · exact hkept
  · rfl

/-! ## Runs -/

/-- **Snapshots charged to the calls that recorded them**: nothing of a
pending one has been handed out, and of no other more than once. -/
structure IsCharged (bm : PendingBackups) (history : BackupHistory) : Prop where
  recordedBy_lt : ∀ thread c, (pendingSnapshot bm thread c).isSome →
    history.recordedBy thread c < history.calls
  injective : ∀ thread c thread' c', (pendingSnapshot bm thread c).isSome →
    (pendingSnapshot bm thread' c').isSome →
    history.recordedBy thread c = history.recordedBy thread' c' → thread = thread' ∧ c = c'
  pending : ∀ thread c m, (pendingSnapshot bm thread c).isSome →
    history.handedOut (history.recordedBy thread c) m = 0
  later : ∀ call m, history.calls ≤ call → history.handedOut call m = 0
  once : ∀ call m, history.handedOut call m ≤ 1

theorem isCharged_start : IsCharged ∅ .start :=
  ⟨nofun, nofun, nofun, fun _ _ _ => rfl, fun _ _ => Nat.zero_le 1⟩

variable {s : State} {history : BackupHistory}

/-- **A call of `BackupClassMethods`.** What it records is charged to it. -/
theorem IsCharged.backupClassMethods (h : IsCharged s.backupMethods history) :
    IsCharged (LSPlant.backupClassMethods s cd self).backupMethods
      (backupNext s history (.backupClassMethods cd self)) := by
  -- a pending snapshot is the one just recorded, or was pending
  have hold : ∀ thread c,
      (pendingSnapshot (LSPlant.backupClassMethods s cd self).backupMethods thread c).isSome →
      (backupNext s history (.backupClassMethods cd self)).recordedBy thread c = history.calls ∧
        thread = self ∧ c = cd ∨
      (pendingSnapshot s.backupMethods thread c).isSome ∧
        (backupNext s history (.backupClassMethods cd self)).recordedBy thread c =
          history.recordedBy thread c := by
    intro thread c hpending
    by_cases hnew : thread = self ∧ c = cd ∧ pendingSnapshot s.backupMethods self cd = none
    · exact Or.inl ⟨if_pos hnew, hnew.1, hnew.2.1⟩
    · rw [pendingSnapshot_backupClassMethods hnew] at hpending
      exact Or.inr ⟨hpending, if_neg hnew⟩
  refine ⟨fun thread c hp => ?_, fun thread c thread' c' hp hp' hsame => ?_,
    fun thread c m hp => ?_, fun call m hle => ?_, h.once⟩
  · show _ < history.calls + 1
    rcases hold thread c hp with ⟨hcall, -, -⟩ | ⟨hpending, hcall⟩
    · rw [hcall]
      exact Nat.lt_succ_self _
    · rw [hcall]
      exact Nat.lt_succ_of_lt (h.recordedBy_lt thread c hpending)
  · rcases hold thread c hp with ⟨hcall, rfl, rfl⟩ | ⟨hpending, hcall⟩ <;>
      rcases hold thread' c' hp' with ⟨hcall', hth, hc⟩ | ⟨hpending', hcall'⟩ <;>
      rw [hcall, hcall'] at hsame
    · exact ⟨hth.symm, hc.symm⟩
    · exact absurd (h.recordedBy_lt thread' c' hpending') (by omega)
    · exact absurd (h.recordedBy_lt thread c hpending) (by omega)
    · exact h.injective thread c thread' c' hpending hpending' hsame
  · show history.handedOut _ m = 0
    rcases hold thread c hp with ⟨hcall, -, -⟩ | ⟨hpending, hcall⟩
    · rw [hcall]
      exact h.later _ m (Nat.le_refl _)
    · rw [hcall]
      exact h.pending thread c m hpending
  · exact h.later call m (Nat.le_of_succ_le hle)

/-- **A call of `PopBackup`.** What it hands out had not been handed out. -/
theorem IsCharged.popBackup (h : IsCharged s.backupMethods history) :
    IsCharged (LSPlant.popBackup s.backupMethods cd self order).2
      (backupNext s history (.popBackup cd self order)) := by
  -- an entry handed out is of a snapshot that was pending
  have hnext : ∀ call m,
      (backupNext s history (.popBackup cd self order)).handedOut call m =
        history.handedOut call m ∨
      ∃ thread c, handedFrom s.backupMethods cd self order m = some (thread, c) ∧
        history.recordedBy thread c = call ∧
        (backupNext s history (.popBackup cd self order)).handedOut call m =
          history.handedOut call m + 1 := by
    intro call m
    by_cases hfrom : ((handedFrom s.backupMethods cd self order m).map fun source =>
        history.recordedBy source.1 source.2) = some call
    · obtain ⟨⟨thread, c⟩, hhanded, hcall⟩ := Option.map_eq_some_iff.1 hfrom
      exact Or.inr ⟨thread, c, hhanded, hcall, congrArg (_ + ·) (if_pos hfrom)⟩
    · exact Or.inl (congrArg (_ + ·) (if_neg hfrom))
  refine ⟨fun thread c hp => h.recordedBy_lt thread c (pendingSnapshot_popBackup hp),
    fun thread c thread' c' hp hp' => h.injective thread c thread' c'
      (pendingSnapshot_popBackup hp) (pendingSnapshot_popBackup hp'),
    fun thread c m hp => ?_, fun call m hle => ?_, fun call m => ?_⟩
  · have hpending := pendingSnapshot_popBackup hp
    rcases hnext (history.recordedBy thread c) m with hsame | ⟨thread', c', hfrom, hcall, -⟩
    · exact hsame.trans (h.pending thread c m hpending)
    · obtain ⟨hpending', hgone⟩ := pendingSnapshot_of_handedFrom hfrom
      obtain ⟨rfl, rfl⟩ := h.injective thread' c' thread c hpending' hpending hcall
      rw [hgone] at hp
      exact absurd hp nofun
  · rcases hnext call m with hsame | ⟨thread, c, hfrom, rfl, -⟩
    · exact hsame.trans (h.later call m hle)
    · have hlt := h.recordedBy_lt thread c (pendingSnapshot_of_handedFrom hfrom).1
      exact absurd hle (Nat.not_le.2 hlt)
  · rcases hnext call m with hsame | ⟨thread, c, hfrom, rfl, hmore⟩
    · rw [hsame]
      exact h.once call m
    · rw [hmore, h.pending thread c m (pendingSnapshot_of_handedFrom hfrom).1]

/-- **`PopBackup` partitions the pending snapshots**: it takes out those of
a class or of a thread and leaves the others as they are, what it returns is
what is handed out of them, and along a run nothing that a call recorded is
handed out twice. -/
theorem popBackup_partitions :
    (∀ (bm : PendingBackups) (classDef : ClassDefPtr) (self : ThreadPtr) (order : RestoreOrder),
      classDef ≠ nullptr → Table.Enumerates order.threads bm →
        PopsClass bm classDef (popBackup bm classDef self order)) ∧
    (∀ (bm : PendingBackups) (self : ThreadPtr) (order : RestoreOrder),
      self ≠ nullptr → Table.Enumerates order.classes ((bm.lookup self).getD ∅) →
        PopsThread bm self (popBackup bm nullptr self order)) ∧
    (∀ (bm : PendingBackups) (classDef : ClassDefPtr) (self : ThreadPtr) (order : RestoreOrder)
      (m : ArtMethodPtr), (popBackup bm classDef self order).1.lookup m =
        (handedFrom bm classDef self order m).bind fun source =>
          snapshotEntry bm source.1 source.2 m) ∧
    ∀ (s : State) (ops : List BackupOp),
      (backupMachine.withHistory backupNext).Everywhere
        (fun p => ∀ call m, p.2.handedOut call m ≤ 1)
        ({ s with backupMethods := ∅ }, .start) ops := by
  refine ⟨fun bm cd self order => popsClass, fun bm self order => popsThread,
    fun bm cd self order m => lookup_popBackup_eq_handedFrom, fun s ops => ?_⟩
  have hcharged : (backupMachine.withHistory backupNext).Everywhere
      (fun p => IsCharged p.1.backupMethods p.2) ({ s with backupMethods := ∅ }, .start) ops := by
    refine Machine.everywhere_of_step ?_ isCharged_start
    rintro ⟨s, history⟩ op h
    rcases op with ⟨cd, self⟩ | ⟨cd, self, order⟩ | s'
    · exact h.backupClassMethods
    · exact h.popBackup
    · exact h
  exact hcharged.mono fun _ h => h.once

/-- The snapshot of one method of a class. -/
def oneSnapshot (code : ℕ) : Table ClassDefPtr BackupMethods :=
  (∅ : Table ClassDefPtr BackupMethods).insert 7 ((∅ : BackupMethods).insert 3 (.code code))

/-- Two threads that keep one. -/
def twoThreads : PendingBackups :=
  ((∅ : PendingBackups).insert 1 (oneSnapshot 8)).insert 2 (oneSnapshot 9)

theorem popBackup_partitions_twoThreads :
    PopsClass twoThreads 7 (popBackup twoThreads 7 1 ⟨[2, 1], [], []⟩) ∧
      PopsThread twoThreads 1 (popBackup twoThreads nullptr 1 ⟨[], [7], []⟩) :=
  ⟨popBackup_partitions.1 _ 7 1 _ (by decide) (by decide),
    popBackup_partitions.2.1 _ 1 _ (by decide) (by decide)⟩

end LSPlant
