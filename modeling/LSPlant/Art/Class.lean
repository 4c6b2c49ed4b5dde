import LSPlant.State
/-!
# Class initialisation snapshots

`mirror::Class` of `class.cxx`: the entry points of a class's static
methods saved when its status becomes initialised, and taken back when
ART has fixed its static trampolines. A snapshot is kept by the thread
that initialises the class; it is taken back by class, from whichever
threads hold one, or all at once by thread.
-/

namespace LSPlant

variable (s : State)

/-- The entry points of those methods of a set that are static. -/
def staticEntryPoints (methods : Finset ArtMethodPtr) : BackupMethods :=
  Table.ofSet (methods.filter fun m => (s.heap m).isStatic) s.getEntryPoint

/-- The map `BackupClassMethods` collects for a class. -/
def classSnapshot (classDef : ClassDefPtr) : BackupMethods :=
  staticEntryPoints s (Registry.methodsOf s.hookedClasses classDef) ∪
    staticEntryPoints s (Registry.methodsOf s.deoptimizedClasses classDef)

/-- **`BackupClassMethods`.** -/
def backupClassMethods (classDef : ClassDefPtr) (self : ThreadPtr) : State :=
  if classDef = nullptr then s
  else if Table.IsEmpty (classSnapshot s classDef) then s
  else { s with
    backupMethods := s.backupMethods.insert self
      (Table.emplace ((s.backupMethods.lookup self).getD ∅) classDef (classSnapshot s classDef)) }

/-- The orders in which the loops of a `RestoreBackup` visit their hash
tables. -/
structure RestoreOrder where
  threads : List ThreadPtr
  classes : List ClassDefPtr
  methods : List ArtMethodPtr

/-- One pass of `PopBackup` over the threads. -/
def popClass (classDef : ClassDefPtr)
    (acc : BackupMethods × Table ThreadPtr (Table ClassDefPtr BackupMethods))
    (thread : ThreadPtr) (classes : Table ClassDefPtr BackupMethods) :
    BackupMethods × Table ThreadPtr (Table ClassDefPtr BackupMethods) :=
  let popped := match classes.lookup classDef with
    | some found => (acc.1 ∪ found, classes.erase classDef)
    | none => (acc.1, classes)
  -- a thread with no snapshot left is taken out
  if Table.IsEmpty popped.2 then (popped.1, acc.2.erase thread)
  else (popped.1, acc.2.insert thread popped.2)

/-- **`PopBackup`**: what it returns and the snapshots it leaves. -/
def popBackup (backupMethods : Table ThreadPtr (Table ClassDefPtr BackupMethods))
    (classDef : ClassDefPtr) (self : ThreadPtr) (order : RestoreOrder) :
    BackupMethods × Table ThreadPtr (Table ClassDefPtr BackupMethods) :=
  if Table.IsEmpty backupMethods then (∅, backupMethods)
  else if classDef ≠ nullptr then
    Table.forEach order.threads backupMethods (popClass classDef) (∅, backupMethods)
  else if self ≠ nullptr then
    match backupMethods.lookup self with
    | none => (∅, backupMethods)
    | some classes =>
      (Table.forEach order.classes classes (fun methods _ found => methods ∪ found) ∅,
        backupMethods.erase self)
  else (∅, backupMethods)

/-! ## What a snapshot holds -/

variable {s} {m : ArtMethodPtr} {e : EntryPoint} {cd cd' : ClassDefPtr} {self self' : ThreadPtr}

theorem lookup_staticEntryPoints {methods : Finset ArtMethodPtr} :
    (staticEntryPoints s methods).lookup m =
      if m ∈ methods ∧ (s.heap m).isStatic then some (s.getEntryPoint m) else none := by
  simp only [staticEntryPoints, Table.lookup_ofSet, Finset.mem_filter]

/-- **What a class's snapshot holds**: the entry point, of the methods that
are static and recorded for the class as hooked or deoptimized. -/
theorem lookup_classSnapshot :
    (classSnapshot s cd).lookup m =
      if (m ∈ Registry.methodsOf s.hookedClasses cd ∨
          m ∈ Registry.methodsOf s.deoptimizedClasses cd) ∧ (s.heap m).isStatic
      then some (s.getEntryPoint m) else none := by
  rw [classSnapshot, Table.lookup_union_eq, lookup_staticEntryPoints, lookup_staticEntryPoints]
  by_cases h : (s.heap m).isStatic <;>
    by_cases h1 : m ∈ Registry.methodsOf s.hookedClasses cd <;>
      by_cases h2 : m ∈ Registry.methodsOf s.deoptimizedClasses cd <;> simp [h, h1, h2]

/-- The entry point a thread's pending snapshot of a class holds. -/
def snapshotEntry (backupMethods : Table ThreadPtr (Table ClassDefPtr BackupMethods))
    (self : ThreadPtr) (classDef : ClassDefPtr) (m : ArtMethodPtr) : Option EntryPoint :=
  (backupMethods.lookup self).bind fun classes =>
    (classes.lookup classDef).bind fun methods => methods.lookup m

variable {bm : Table ThreadPtr (Table ClassDefPtr BackupMethods)} {order : RestoreOrder}

/-- A snapshot taken is added to the pending ones, unless the thread has
one of the class already. -/
theorem snapshotEntry_backupClassMethods
    (h : snapshotEntry (backupClassMethods s cd self).backupMethods self' cd' m = some e) :
    snapshotEntry s.backupMethods self' cd' m = some e ∨
      (cd' = cd ∧ self' = self ∧ (classSnapshot s cd).lookup m = some e) := by
  unfold backupClassMethods at h
  split_ifs at h with hnull hempty
  · exact Or.inl h
  · exact Or.inl h
  simp only [snapshotEntry, Table.lookup_insert_eq] at h ⊢
  split_ifs at h with hself
  · subst self'
    rw [Option.bind_some, Table.lookup_emplace_eq] at h
    split_ifs at h with hcd
    · exact Or.inr ⟨hcd.1, rfl, by simpa using h⟩
    · left
      cases hold : s.backupMethods.lookup self with
      | none => simp [hold] at h
      | some classes => simpa [hold] using h
  · exact Or.inl h

@[simp] theorem backupClassMethods_toRegistry :
    (backupClassMethods s cd self).toRegistry = s.toRegistry := by
  unfold backupClassMethods
  split_ifs <;> rfl

@[simp] theorem backupClassMethods_heap : (backupClassMethods s cd self).heap = s.heap := by
  unfold backupClassMethods
  split_ifs <;> rfl

@[simp] theorem backupClassMethods_trampolines :
    (backupClassMethods s cd self).trampolines = s.trampolines := by
  unfold backupClassMethods
  split_ifs <;> rfl

/-! ## What is popped -/

/-- **The entry point a `RestoreBackup` finds for a method**: that of the
first snapshot, in the order of its loop, that holds one. -/
def pendingEntry (backupMethods : Table ThreadPtr (Table ClassDefPtr BackupMethods))
    (classDef : ClassDefPtr) (self : ThreadPtr) (order : RestoreOrder) (m : ArtMethodPtr) :
    Option EntryPoint :=
  if classDef ≠ nullptr then
    order.threads.findSome? fun thread => snapshotEntry backupMethods thread classDef m
  else if self ≠ nullptr then
    order.classes.findSome? fun classDef => snapshotEntry backupMethods self classDef m
  else none

/-- A pass over a thread adds what the thread's snapshot of the class
holds and nothing has been found for yet. -/
theorem lookup_popClass {acc : BackupMethods × Table ThreadPtr (Table ClassDefPtr BackupMethods)}
    {thread : ThreadPtr} {classes : Table ClassDefPtr BackupMethods} :
    (popClass cd acc thread classes).1.lookup m =
      (acc.1.lookup m).or ((classes.lookup cd).bind fun ms => ms.lookup m) := by
  unfold popClass
  cases classes.lookup cd with
  | none => simp only; split_ifs <;> exact Option.or_none.symm
  | some found => simp only; split_ifs <;> exact Table.lookup_union_eq

theorem lookup_popClass_loop {threads : List ThreadPtr}
    {acc : BackupMethods × Table ThreadPtr (Table ClassDefPtr BackupMethods)} :
    (Table.forEach threads bm (popClass cd) acc).1.lookup m =
      (acc.1.lookup m).or
        (threads.findSome? fun thread => snapshotEntry bm thread cd m) := by
  induction threads generalizing acc with
  | nil => exact Option.or_none.symm
  | cons thread threads ih =>
    rw [Table.forEach_cons, ih, List.findSome?_cons, snapshotEntry]
    cases bm.lookup thread with
    | none => rfl
    | some classes =>
      simp only [lookup_popClass, Option.bind_some]
      cases acc.1.lookup m with
      | some v => rfl
      | none => cases (classes.lookup cd).bind fun ms => ms.lookup m <;> rfl

theorem lookup_mergeClasses {order : List ClassDefPtr} {classes : Table ClassDefPtr BackupMethods}
    {acc : BackupMethods} :
    (Table.forEach order classes (fun methods _ found => methods ∪ found) acc).lookup m =
      (acc.lookup m).or
        (order.findSome? fun cd => (classes.lookup cd).bind fun ms => ms.lookup m) := by
  induction order generalizing acc with
  | nil => exact Option.or_none.symm
  | cons cd order ih =>
    rw [Table.forEach_cons, ih, List.findSome?_cons]
    cases classes.lookup cd with
    | none => rfl
    | some found =>
      simp only [Table.lookup_union_eq, Option.bind_some]
      cases acc.lookup m with
      | some v => rfl
      | none => cases found.lookup m <;> rfl

/-- **What `PopBackup` returns.** -/
theorem lookup_popBackup : (popBackup bm cd self order).1.lookup m =
    pendingEntry bm cd self order m := by
  unfold popBackup pendingEntry
  by_cases hempty : Table.IsEmpty bm
  · have hnone := Table.isEmpty_iff.1 hempty
    have hentry : ∀ thread cd, snapshotEntry bm thread cd m = none := fun thread cd => by
      rw [snapshotEntry, hnone]; rfl
    rw [if_pos hempty]
    split_ifs
    · exact (List.findSome?_eq_none_iff.2 fun thread _ => hentry thread cd).symm
    · exact (List.findSome?_eq_none_iff.2 fun cd _ => hentry self cd).symm
    · rfl
  · rw [if_neg hempty]
    split_ifs
    · rw [lookup_popClass_loop]; rfl
    · unfold snapshotEntry
      cases bm.lookup self with
      | none => exact (List.findSome?_eq_none_iff.2 fun _ _ => rfl).symm
      | some classes => simp only [lookup_mergeClasses]; rfl
    · rfl

/-- What is popped was pending. -/
theorem snapshotEntry_of_pendingEntry (h : pendingEntry bm cd self order m = some e) :
    ∃ thread cd', snapshotEntry bm thread cd' m = some e := by
  unfold pendingEntry at h
  split_ifs at h
  · obtain ⟨thread, -, hthread⟩ := List.exists_of_findSome?_eq_some h
    exact ⟨thread, cd, hthread⟩
  · obtain ⟨cd', -, hcd⟩ := List.exists_of_findSome?_eq_some h
    exact ⟨self, cd', hcd⟩

/-- A pass drops snapshots and adds none. -/
theorem snapshotEntry_popClass
    {acc : BackupMethods × Table ThreadPtr (Table ClassDefPtr BackupMethods)}
    {thread : ThreadPtr} {classes : Table ClassDefPtr BackupMethods}
    (hthread : bm.lookup thread = some classes)
    (hacc : ∀ th c e, snapshotEntry acc.2 th c m = some e → snapshotEntry bm th c m = some e)
    {th : ThreadPtr} {c : ClassDefPtr}
    (h : snapshotEntry (popClass cd acc thread classes).2 th c m = some e) :
    snapshotEntry bm th c m = some e := by
  have hsub : ∀ rest : Table ClassDefPtr BackupMethods,
      (∀ ms, rest.lookup c = some ms → classes.lookup c = some ms) →
      snapshotEntry (if Table.IsEmpty rest then acc.2.erase thread
        else acc.2.insert thread rest) th c m = some e → snapshotEntry bm th c m = some e := by
    intro rest hrest hr
    split_ifs at hr
    · simp only [snapshotEntry, Table.lookup_erase_eq] at hr
      split_ifs at hr
      · simp at hr
      · exact hacc th c e hr
    · simp only [snapshotEntry, Table.lookup_insert_eq] at hr
      split_ifs at hr with hth
      · obtain ⟨ms, hms, hm⟩ := Option.bind_eq_some_iff.1 (by simpa using hr)
        rw [snapshotEntry, hth, hthread, Option.bind_some, hrest ms hms]
        exact hm
      · exact hacc th c e hr
  have hpop : (popClass cd acc thread classes).2 =
      if Table.IsEmpty (if (classes.lookup cd).isSome then classes.erase cd else classes)
      then acc.2.erase thread
      else acc.2.insert thread
        (if (classes.lookup cd).isSome then classes.erase cd else classes) := by
    unfold popClass
    cases classes.lookup cd <;> simp only [Option.isSome_some, Option.isSome_none, if_true] <;>
      split_ifs <;> simp_all
  rw [hpop] at h
  refine hsub _ (fun ms hms => ?_) h
  split_ifs at hms
  · rw [Table.lookup_erase_eq] at hms
    split_ifs at hms
    exact hms
  · exact hms

/-- **`PopBackup` leaves only snapshots that were pending.** -/
theorem snapshotEntry_popBackup {th : ThreadPtr} {c : ClassDefPtr}
    (h : snapshotEntry (popBackup bm cd self order).2 th c m = some e) :
    snapshotEntry bm th c m = some e := by
  unfold popBackup at h
  split_ifs at h
  · exact h
  · revert h
    refine Table.forEach_induction (P := fun acc : BackupMethods ×
      Table ThreadPtr (Table ClassDefPtr BackupMethods) =>
        ∀ th c e, snapshotEntry acc.2 th c m = some e → snapshotEntry bm th c m = some e)
      (fun _ _ _ h => h) (fun acc thread classes _ hthread hacc th c e h => ?_) th c e
    exact snapshotEntry_popClass hthread hacc h
  · cases hself : bm.lookup self with
    | none => rw [hself] at h; exact h
    | some classes =>
      rw [hself] at h
      simp only [snapshotEntry, Table.lookup_erase_eq] at h
      split_ifs at h
      · simp at h
      · exact h
  · exact h

end LSPlant
