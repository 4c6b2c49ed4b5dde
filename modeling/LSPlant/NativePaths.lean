import LSPlant.Sticky
import LSPlant.NativeUpdate
/-!
# The two paths of native registration

Where ART's `RegisterNative` and `UnregisterNative` can be intercepted,
each write goes to the backup of a hooked method. Where they cannot,
`JNIEnv`'s functions are, ART writes to the method itself, and the updater
moves to the backup what has changed there. It moves the entry point as
well, which for a hooked method is the trampoline, and it sees no change
where ART writes what the method has held since it was hooked.
-/

namespace LSPlant

/-! ## Calls -/

/-- **A call of `RegisterNatives` or `UnregisterNatives`**: the table, or
the methods of the class, what ART writes, and the order the updater
visits its own table in. -/
inductive NativeCall where
  | registerNatives (natives : List JNINativeMethod) (written : List (ArtMethodPtr × ℕ))
      (order : List ArtMethodPtr)
  | unregisterNatives (visited : List ArtMethodPtr) (written : List (ArtMethodPtr × ℕ))
      (order : List ArtMethodPtr)

namespace NativeCall

/-- The rows of the table. -/
def natives : NativeCall → List JNINativeMethod
  | registerNatives natives _ _ => natives
  | unregisterNatives _ _ _ => []

/-- The data pointers ART writes. -/
def written : NativeCall → List (ArtMethodPtr × ℕ)
  | registerNatives _ written _ => written
  | unregisterNatives _ written _ => written

/-- **The call intercepted at `JNIEnv`.** -/
def fallback (art : Art) (s : State) : NativeCall → State
  | registerNatives natives written order => LSPlant.registerNatives art s natives written order
  | unregisterNatives visited written order =>
    LSPlant.unregisterNatives art s visited written order

/-- **The call intercepted method by method.** -/
def direct (s : State) : NativeCall → State
  | registerNatives _ written _ => written.foldl (fun s w => registerNative s w.1 w.2) s
  | unregisterNatives _ written _ => written.foldl (fun s w => unregisterNative s w.1 w.2) s

/-- The updater's table. -/
def methods (s : State) : NativeCall → Table ArtMethodPtr NativeMethodState
  | registerNatives natives _ _ => registeredMethods s natives
  | unregisterNatives visited _ _ => unregisteredMethods s visited

/-- The order it is visited in. -/
def order : NativeCall → List ArtMethodPtr
  | registerNatives _ _ order => order
  | unregisterNatives _ _ order => order

end NativeCall

/-- **A row of a table names a method** and gives it a function: one of
JNI's two lookups finds the method. -/
def JNINativeMethod.Names (native : JNINativeMethod) (w : ArtMethodPtr × ℕ) : Prop :=
  native.hasName = true ∧ native.hasSignature = true ∧ native.fnPtr = w.2 ∧ w.2 ≠ 0 ∧
    ∃ isStatic : Bool, native.get isStatic = some w.1

instance (native : JNINativeMethod) (w : ArtMethodPtr × ℕ) : Decidable (native.Names w) :=
  inferInstanceAs (Decidable (_ ∧ _ ∧ _ ∧ _ ∧ ∃ isStatic : Bool,
    native.get isStatic = some w.1))

/-- **Its lookups do not compete**: they never find two different methods. -/
def JNINativeMethod.Unambiguous (native : JNINativeMethod) : Prop :=
  native.methodId = none ∨ native.staticMethodId = none

/-- **The two paths side by side**, each with a state of its own. -/
def pathsMachine (art : Art) : Machine (State × State) NativeCall where
  step p c := (c.fallback art p.1, c.direct p.2)
  admissible p c := Table.Enumerates c.order (c.methods p.1)

instance (art : Art) (p : State × State) (c : NativeCall) :
    Decidable ((pathsMachine art).admissible p c) :=
  inferInstanceAs (Decidable (Table.Enumerates c.order (c.methods p.1)))

/-- **The paths agree** on every target and every backup. -/
def PathsAgree (p : State × State) : Prop :=
  ∀ m, m ∈ p.1.hookedMethods ∨ m ∈ p.1.backupedMethods →
    p.1.getData m = p.2.getData m ∧ p.1.getEntryPoint m = p.2.getEntryPoint m

/-! ## What ART writes -/

variable {art : Art} {s u : State} {t b m n : ArtMethodPtr} {c : NativeCall}
  {methods : Table ArtMethodPtr NativeMethodState} {saved : NativeMethodState}
  {written : List (ArtMethodPtr × ℕ)} {order : List ArtMethodPtr}

/-- The last function a list of writes gives a method, or what it has. -/
def writtenData (s : State) (written : List (ArtMethodPtr × ℕ)) (n : ArtMethodPtr) : ℕ :=
  (lastInstalled n written).getD (s.getData n)

/-- Writes sent to backups. -/
def redirected (s : State) (written : List (ArtMethodPtr × ℕ)) : List (ArtMethodPtr × ℕ) :=
  written.map fun w => (mayGetBackup s w.1, w.2)

theorem getData_artSetNatives :
    (artSetNatives s written).getData n = writtenData s written n := by
  unfold writtenData
  induction written generalizing s with
  | nil => rfl
  | cons w written ih =>
    have hcons : artSetNatives s (w :: written) = artSetNatives (s.setData w.1 w.2) written := rfl
    rw [hcons, ih, State.getData_setData, lastInstalled]
    cases lastInstalled n written with
    | some d => rfl
    | none => simp only [Option.none_or, eq_comm (a := w.1)]; split <;> rfl

theorem NativeCall.direct_eq : c.direct s = artSetNatives s (redirected s c.written) := by
  have hfold : ∀ (written : List (ArtMethodPtr × ℕ)) (s : State),
      written.foldl (fun s w => registerNative s w.1 w.2) s =
        artSetNatives s (redirected s written) := by
    intro written
    induction written with
    | nil => exact fun s => rfl
    | cons w written ih => exact fun s => ih (registerNative s w.1 w.2)
  cases c with
  | registerNatives natives written order => exact hfold written s
  | unregisterNatives visited written order => exact hfold written s

/-- A hooked method is written to by nothing that goes to backups. -/
theorem writtenData_redirected_hooked (hc : Coherent art s) (ht : t ∈ s.hookedMethods) :
    writtenData u (redirected s written) t = u.getData t := by
  unfold writtenData
  rw [lastInstalled_eq_none]
  · rfl
  · intro w hw he
    obtain ⟨v, -, rfl⟩ := List.mem_map.1 hw
    have hnone : s.isHooked (mayGetBackup s v.1) = none := hc.isHooked_mayGetBackup
    rw [Registry.isHooked_eq_none] at hnone
    have he' : mayGetBackup s v.1 = t := he
    exact hnone (he' ▸ ht)

/-! ## What the updater's table holds -/

theorem mem_recordNative_of_mem (h : m ∈ methods) : m ∈ recordNative s methods n := by
  unfold recordNative
  cases s.isHooked n with
  | none => exact h
  | some b =>
    simp only
    split
    · exact Finmap.mem_insert.2 (Or.inr h)
    · exact h

theorem mem_recordNative (hb : s.isHooked m = some b) (hnative : (s.heap b).isNative = true) :
    m ∈ recordNative s methods m := by
  simp only [recordNative, hb, hnative, if_true]
  exact Finmap.mem_insert.2 (Or.inl rfl)

theorem mem_recordRegistered_of_mem {acc : Bool × Table ArtMethodPtr NativeMethodState}
    {native : JNINativeMethod} (h : m ∈ acc.2) : m ∈ (recordRegistered s acc native).2 := by
  unfold recordRegistered
  split
  · exact h
  · split
    · exact mem_recordNative_of_mem h
    · split
      · exact mem_recordNative_of_mem h
      · exact h

/-- **The pass of an unambiguous row** records the method it names, whichever
lookup is tried first. -/
theorem mem_recordRegistered (acc : Bool × Table ArtMethodPtr NativeMethodState)
    {native : JNINativeMethod} {d : ℕ} (hnames : native.Names (m, d)) (hone : native.Unambiguous)
    (hb : s.isHooked m = some b) (hnative : (s.heap b).isNative = true) :
    m ∈ (recordRegistered s acc native).2 := by
  obtain ⟨hname, hsig, hfn, hne, isStatic, hget⟩ := hnames
  have hother : native.get (!isStatic) = none := by
    cases isStatic with
    | false =>
      refine hone.resolve_left fun h => ?_
      exact absurd (hget.symm.trans h) (Option.some_ne_none m)
    | true =>
      refine hone.resolve_right fun h => ?_
      exact absurd (hget.symm.trans h) (Option.some_ne_none m)
  have hzero : (native.fnPtr == 0) = false := by
    rw [hfn]
    simpa using hne
  unfold recordRegistered
  rw [hname, hsig, hzero]
  by_cases hflag : acc.1 = isStatic
  · simp only [hflag, hget]
    exact mem_recordNative hb hnative
  · have hnot : acc.1 = !isStatic := by
      cases hacc : acc.1 <;> cases isStatic <;> simp_all
    simp only [hnot, hother, Bool.not_not, hget]
    exact mem_recordNative hb hnative

/-- **A method an unambiguous row names is recorded.** No pass takes a method
out. -/
theorem mem_registeredMethods {natives : List JNINativeMethod} {native : JNINativeMethod} {d : ℕ}
    (hn : native ∈ natives) (hnames : native.Names (m, d)) (hone : native.Unambiguous)
    (hb : s.isHooked m = some b) (hnative : (s.heap b).isNative = true) :
    m ∈ registeredMethods s natives := by
  obtain ⟨before, after, rfl⟩ := List.append_of_mem hn
  unfold registeredMethods
  rw [List.foldl_append, List.foldl_cons]
  refine List.foldlRecOn
    (motive := fun acc : Bool × Table ArtMethodPtr NativeMethodState => m ∈ acc.2) after _ ?_
    fun acc h row _ => ?_
  · exact mem_recordRegistered _ hnames hone hb hnative
  · exact mem_recordRegistered_of_mem h

theorem mem_unregisteredMethods {visited : List ArtMethodPtr} (hm : m ∈ visited)
    (hmn : (s.heap m).isNative = true) (hb : s.isHooked m = some b)
    (hnative : (s.heap b).isNative = true) : m ∈ unregisteredMethods s visited := by
  obtain ⟨before, after, rfl⟩ := List.append_of_mem hm
  unfold unregisteredMethods
  rw [List.foldl_append, List.foldl_cons]
  refine List.foldlRecOn (motive := fun methods => m ∈ methods) after _ ?_ fun methods h n _ => ?_
  · rw [if_pos hmn]
    exact mem_recordNative hb hnative
  · split
    · exact mem_recordNative_of_mem h
    · exact h

/-- **ART writes to native methods the table lists**, or the class has. -/
def NativeCall.Listed (s : State) : NativeCall → Prop
  | .registerNatives natives written _ => ∀ w ∈ written, (s.heap w.1).isNative = true ∧
    ∃ native ∈ natives, native.Names w
  | .unregisterNatives visited written _ => ∀ w ∈ written, (s.heap w.1).isNative = true ∧
    w.1 ∈ visited

/-- **A hooked method ART writes to is in the table**, where no row has two
methods to choose from. -/
theorem NativeCall.mem_methods (hr : BackupsRecorded s) (hl : c.Listed s)
    (hone : ∀ native ∈ c.natives, native.Unambiguous) (hb : s.isHooked t = some b)
    {w : ArtMethodPtr × ℕ} (hw : w ∈ c.written) (ht : w.1 = t) : t ∈ c.methods s := by
  have hbackup : (s.heap t).isNative = true → (s.heap b).isNative = true := fun h =>
    (ArtMethod.isNative_congr (hr.kind t b hb)).trans h
  subst ht
  cases c with
  | registerNatives natives written order =>
    obtain ⟨hnative, native, hmem, hnames⟩ := hl w hw
    exact mem_registeredMethods hmem hnames (hone native hmem) hb (hbackup hnative)
  | unregisterNatives visited written order =>
    obtain ⟨hnative, hmem⟩ := hl w hw
    exact mem_unregisteredMethods hmem hnative hb (hbackup hnative)

theorem NativeCall.recordOf_methods : RecordOf s (c.methods s) := by
  cases c with
  | registerNatives natives written order => exact recordOf_registeredMethods
  | unregisterNatives visited written order => exact recordOf_unregisteredMethods

theorem NativeCall.fallback_eq :
    c.fallback art s = withUpdater art s (c.methods s) c.written c.order := by
  cases c <;> rfl

/-! ## What the updater leaves -/

theorem getData_updateNative :
    (updateNative art u m saved).getData n =
      if u.getData m = saved.data ∧ u.getEntryPoint m = saved.entryPoint then u.getData n
      else if n = m then saved.data
      else if n = saved.backup then u.getData m else u.getData n := by
  unfold updateNative
  split
  · rfl
  · simp only [State.getData_setEntryPoint, State.getData_setData, State.getEntryPoint_setData]

/-- **ART's last write to a hooked method is something else** than what the
method has held since it was hooked. -/
def ChangesData (s : State) (written : List (ArtMethodPtr × ℕ)) (t : ArtMethodPtr) : Prop :=
  writtenData s written t ≠ s.getData t

instance : Decidable (ChangesData s written t) := inferInstanceAs (Decidable (_ ≠ _))

/-- Data pointers and entry points of a hooked method and its backup. -/
def pairFields (t b : ArtMethodPtr) (u : State) : ℕ × EntryPoint × ℕ × EntryPoint :=
  (u.getData t, u.getEntryPoint t, u.getData b, u.getEntryPoint b)

/-- What the method's pass of the destructor makes of them: what is not as
it was goes to the backup. -/
def movedFields (s : State) (t : ArtMethodPtr) (x : ℕ × EntryPoint × ℕ × EntryPoint) :
    ℕ × EntryPoint × ℕ × EntryPoint :=
  if x.1 = s.getData t ∧ x.2.1 = s.getEntryPoint t then x
  else (s.getData t, s.getEntryPoint t, x.1, x.2.1)

section Updater

variable (hc : Coherent art s) (hr : RecordOf s methods) (hb : s.isHooked t = some b)
include hc hr hb

/-- No other method's pass writes to the two. -/
theorem pairFields_updateNative_of_ne (hn : n ≠ t) (hl : methods.lookup n = some saved) :
    pairFields t b (updateNative art u n saved) = pairFields t b u := by
  obtain ⟨hnb, -, -, -⟩ := hr n saved hl
  have hmem : t ∈ s.hookedMethods := Registry.mem_hookedMethods.2 ⟨b, hb⟩
  have hnh : n ∈ s.hookedMethods := Registry.mem_hookedMethods.2 ⟨_, hnb⟩
  have htb : t ≠ saved.backup := (hc.ne_backup hmem hnb).symm
  have hbn : b ≠ n := hc.ne_backup hnh hb
  have hbb : b ≠ saved.backup := fun he => hn (hc.backup_injective (he ▸ hnb) hb)
  simp only [pairFields, getData_updateNative, getEntryPoint_updateNative, if_neg hn.symm,
    if_neg htb, if_neg hbn, if_neg hbb, ite_self]

theorem pairFields_updateNative_self (hl : methods.lookup t = some saved) :
    pairFields t b (updateNative art u t saved) = movedFields s t (pairFields t b u) := by
  obtain ⟨hsb, hd, he, -⟩ := hr t saved hl
  have hbt : b ≠ t := hc.ne_backup (Registry.mem_hookedMethods.2 ⟨b, hb⟩) hb
  have hbackup : saved.backup = b := Option.some.inj (hsb.symm.trans hb)
  by_cases hsame : u.getData t = s.getData t ∧ u.getEntryPoint t = s.getEntryPoint t
  · simp only [pairFields, movedFields, getData_updateNative, getEntryPoint_updateNative, hbackup,
      hd, he, hsame, and_self, if_true]
  · simp only [pairFields, movedFields, getData_updateNative, getEntryPoint_updateNative, hbackup,
      hd, he, hsame, if_true, if_false, if_neg hbt]

/-- **The destructor's loop** on the two. -/
theorem pairFields_withUpdater (written : List (ArtMethodPtr × ℕ))
    (ho : Table.Enumerates order methods) :
    pairFields t b (withUpdater art s methods written order) =
      if t ∈ methods then movedFields s t (pairFields t b (artSetNatives s written))
      else pairFields t b (artSetNatives s written) := by
  have hothers : ∀ u n saved, True → n ≠ t → methods.lookup n = some saved →
      pairFields t b (updateNative art u n saved) = pairFields t b u :=
    fun u n saved _ hn hl => pairFields_updateNative_of_ne hc hr hb hn hl
  cases hl : methods.lookup t with
  | none =>
    rw [if_neg (Finmap.lookup_eq_none.1 hl)]
    refine Table.forEach_read_of_untouched (f := pairFields t b) (I := fun _ => True) trivial
      (fun _ _ _ _ => trivial) fun u n saved hI _ hlook => hothers u n saved hI ?_ hlook
    rintro rfl
    rw [hl] at hlook
    cases hlook
  | some saved =>
    have ht : t ∈ methods := Table.mem_iff_lookup.2 ⟨saved, hl⟩
    rw [if_pos ht]
    exact Table.forEach_read (f := pairFields t b) (I := fun _ => True) (g := movedFields s t)
      trivial (fun _ _ _ _ => trivial) ho.nodup (ho.mem_iff.2 ht) hl
      (fun u _ => pairFields_updateNative_self hc hr hb hl)
      fun u n w hI _ hn hw => hothers u n w hI hn hw

end Updater

/-- **What the fallback leaves of a target and its backup.** -/
theorem withUpdater_spec (written : List (ArtMethodPtr × ℕ)) (hc : Coherent art s)
    (hr : RecordOf s methods) (ho : Table.Enumerates order methods) (hb : s.isHooked t = some b) :
    let s' := withUpdater art s methods written order
    let noticed := t ∈ methods ∧ ChangesData s written t
    s'.getData t = (if noticed then s.getData t else writtenData s written t) ∧
      s'.getEntryPoint t = s.getEntryPoint t ∧
      s'.getData b = (if noticed then writtenData s written t else writtenData s written b) ∧
      s'.getEntryPoint b = if noticed then s.getEntryPoint t else s.getEntryPoint b := by
  intro s' noticed
  have hstart : pairFields t b (artSetNatives s written) =
      (writtenData s written t, s.getEntryPoint t, writtenData s written b, s.getEntryPoint b) := by
    simp only [pairFields, getData_artSetNatives, getEntryPoint_artSetNatives]
  have hend : pairFields t b s' = if noticed then
      (s.getData t, s.getEntryPoint t, writtenData s written t, s.getEntryPoint t)
      else pairFields t b (artSetNatives s written) := by
    rw [pairFields_withUpdater hc hr hb written ho, hstart]
    by_cases ht : t ∈ methods
    · rw [if_pos ht]
      by_cases hchange : writtenData s written t = s.getData t
      · have hn : ¬ noticed := fun h => h.2 hchange
        rw [if_neg hn]
        simp only [movedFields, hchange, and_self, if_true]
      · have hy : noticed := ⟨ht, hchange⟩
        rw [if_pos hy]
        simp only [movedFields, hchange, false_and, if_false]
    · have hn : ¬ noticed := fun h => ht h.1
      rw [if_neg ht, if_neg hn]
  have hparts : s'.getData t = (pairFields t b s').1 ∧
      s'.getEntryPoint t = (pairFields t b s').2.1 ∧
      s'.getData b = (pairFields t b s').2.2.1 ∧
      s'.getEntryPoint b = (pairFields t b s').2.2.2 := ⟨rfl, rfl, rfl, rfl⟩
  obtain ⟨hdt, het, hdb, heb⟩ := hparts
  rw [hdt, het, hdb, heb, hend, hstart]
  split_ifs <;> exact ⟨rfl, rfl, rfl, rfl⟩

/-! ## When the paths agree -/

/-- **The updater notices what the call does and has the right things to
move.** Of each hooked method the call gives a function: where the last one
is what the method has held since it was hooked, and nothing seems to have
changed, the last one given to the method or its backup is what the backup
holds or is itself given; otherwise the updater has the method in its table,
that function is the last for the two of them, and they share their entry
point. -/
def RegistersAlike (s : State) (c : NativeCall) : Prop :=
  ∀ t ∈ s.hookedMethods, ∀ b ∈ s.isHooked t, ∀ d ∈ lastInstalled t c.written,
    if d = s.getData t then
      lastInstalled b (redirected s c.written) =
        some ((lastInstalled b c.written).getD (s.getData b))
    else t ∈ c.methods s ∧ s.getEntryPoint b = s.getEntryPoint t ∧
      lastInstalled b (redirected s c.written) = some d

instance (s : State) (c : NativeCall) : Decidable (RegistersAlike s c) :=
  decidable_of_iff (∀ t ∈ s.hookedMethods.keys, ∀ b ∈ s.isHooked t,
      ∀ d ∈ lastInstalled t c.written,
        if d = s.getData t then
          lastInstalled b (redirected s c.written) =
            some ((lastInstalled b c.written).getD (s.getData b))
        else t ∈ c.methods s ∧ s.getEntryPoint b = s.getEntryPoint t ∧
          lastInstalled b (redirected s c.written) = some d)
    (forall_congr' fun _ => imp_congr_left Finmap.mem_keys)

theorem mayGetBackup_eq_backup (hc : Coherent art s) (hb : s.isHooked t = some b) :
    mayGetBackup s n = b ↔ n = t ∨ n = b := by
  constructor
  · intro h
    cases hn : s.isHooked n with
    | none =>
      rw [mayGetBackup_of_unhooked hn] at h
      exact Or.inr h
    | some b' =>
      rw [mayGetBackup_of_hooked hn] at h
      subst h
      exact Or.inl (hc.backup_injective hn hb)
  · rintro (rfl | rfl)
    · exact mayGetBackup_of_hooked hb
    · exact mayGetBackup_of_unhooked (hc.isHooked_backup hb)

/-- Where nothing is written to the target, redirecting makes no difference
to its backup. -/
theorem lastInstalled_redirected_of_none (hc : Coherent art s) (hb : s.isHooked t = some b)
    (h : lastInstalled t written = none) :
    lastInstalled b (redirected s written) = lastInstalled b written := by
  induction written with
  | nil => rfl
  | cons w written ih =>
    obtain ⟨hrest, hw⟩ := Option.or_eq_none_iff.1 h
    have hne : w.1 ≠ t := fun he => by
      rw [if_pos he] at hw
      cases hw
    have hiff : mayGetBackup s w.1 = b ↔ w.1 = b :=
      (mayGetBackup_eq_backup hc hb).trans (or_iff_right hne)
    show (lastInstalled b (redirected s written)).or _ = (lastInstalled b written).or _
    rw [ih hrest]
    simp only [hiff]

/-- Where something is, something is to the backup. -/
theorem lastInstalled_redirected_of_some (hb : s.isHooked t = some b) {d : ℕ}
    (h : lastInstalled t written = some d) :
    ∃ x, lastInstalled b (redirected s written) = some x := by
  induction written with
  | nil => cases h
  | cons w written ih =>
    show ∃ x, (lastInstalled b (redirected s written)).or _ = some x
    rcases Option.or_eq_some_iff.1 h with hrest | ⟨-, hw⟩
    · obtain ⟨x, hx⟩ := ih hrest
      exact ⟨x, by rw [hx]; rfl⟩
    · have he : w.1 = t := by
        by_contra hne
        rw [if_neg hne] at hw
        cases hw
      cases lastInstalled b (redirected s written) with
      | some x => exact ⟨x, rfl⟩
      | none =>
        have hback : mayGetBackup s w.1 = b := by rw [he, mayGetBackup_of_hooked hb]
        exact ⟨w.2, if_pos hback⟩

/-- **What the two paths leave of a target and its backup**, compared. -/
theorem pair_agrees_iff (hc : Coherent art s) (hb : s.isHooked t = some b) :
    let noticed := t ∈ methods ∧ ChangesData s written t
    ((if noticed then s.getData t else writtenData s written t) = s.getData t ∧
      (if noticed then writtenData s written t else writtenData s written b) =
        writtenData s (redirected s written) b ∧
      (if noticed then s.getEntryPoint t else s.getEntryPoint b) = s.getEntryPoint b) ↔
    ∀ d ∈ lastInstalled t written,
      if d = s.getData t then
        lastInstalled b (redirected s written) =
          some ((lastInstalled b written).getD (s.getData b))
      else t ∈ methods ∧ s.getEntryPoint b = s.getEntryPoint t ∧
        lastInstalled b (redirected s written) = some d := by
  intro noticed
  cases hl : lastInstalled t written with
  | none =>
    have ht : writtenData s written t = s.getData t := by rw [writtenData, hl]; rfl
    have hn : ¬ noticed := fun h => h.2 ht
    have hdata : writtenData s (redirected s written) b = writtenData s written b := by
      rw [writtenData, lastInstalled_redirected_of_none hc hb hl]
      rfl
    rw [if_neg hn, if_neg hn, if_neg hn, hdata]
    exact iff_of_true ⟨ht, rfl, rfl⟩ fun d hd => by cases hd
  | some d =>
    obtain ⟨x, hx⟩ := lastInstalled_redirected_of_some (s := s) hb hl
    have ht : writtenData s written t = d := by rw [writtenData, hl]; rfl
    have hdata : writtenData s (redirected s written) b = x := by rw [writtenData, hx]; rfl
    have hone : ∀ {p : ℕ → Prop}, (∀ d' ∈ some d, p d') ↔ p d :=
      ⟨fun h => h d rfl, fun h d' hd => Option.some.inj hd ▸ h⟩
    rw [hone, hdata, hx]
    by_cases hd : d = s.getData t
    · -- nothing seems to have changed
      have hn : ¬ noticed := fun h => h.2 (ht.trans hd)
      rw [if_neg hn, if_neg hn, if_neg hn, if_pos hd, Option.some_inj]
      exact ⟨fun h => h.2.1.symm, fun h => ⟨ht.trans hd, h.symm, rfl⟩⟩
    · rw [if_neg hd, Option.some_inj]
      by_cases hm : t ∈ methods
      · have hy : noticed := ⟨hm, fun h => hd (ht.symm.trans h)⟩
        rw [if_pos hy, if_pos hy, if_pos hy, ht]
        exact ⟨fun h => ⟨hm, h.2.2.symm, h.2.1.symm⟩, fun h => ⟨rfl, h.2.2.symm, h.2.1.symm⟩⟩
      · -- a change the updater has no record of stays where it is
        have hn : ¬ noticed := fun h => hm h.1
        rw [if_neg hn, ht]
        exact ⟨fun h => absurd h.1 hd, fun h => absurd h.1 hm⟩

/-- What the runs of both paths keep. -/
structure PathsRelated (art : Art) (p : State × State) : Prop where
  coherent : Coherent art p.1
  registry : p.2.toRegistry = p.1.toRegistry

theorem NativeCall.sameRegistry_fallback : SameRegistry s (c.fallback art s) := by
  rw [c.fallback_eq]
  exact SameRegistry.withUpdater

theorem NativeCall.sameRegistry_direct : SameRegistry s (c.direct s) := by
  rw [c.direct_eq]
  exact sameRegistry_artSetNatives

theorem PathsRelated.step {p : State × State} (h : PathsRelated art p) :
    PathsRelated art ((pathsMachine art).step p c) := by
  have hf : SameRegistry p.1 (c.fallback art p.1) := c.sameRegistry_fallback
  constructor
  · exact h.coherent.congr hf.sameHooks
  · exact (NativeCall.sameRegistry_direct.toRegistry.trans h.registry).trans hf.toRegistry.symm

/-- **What the direct path leaves of a target and its backup**: the target
as it was, the backup with the last function given to the two of them. -/
theorem NativeCall.direct_spec (hc : Coherent art s) (hu : u.toRegistry = s.toRegistry)
    (ht : t ∈ s.hookedMethods) :
    (c.direct u).getData t = u.getData t ∧
      (∀ n, (c.direct u).getEntryPoint n = u.getEntryPoint n) ∧
      ∀ n, (c.direct u).getData n = writtenData u (redirected s c.written) n := by
  have hsame : redirected u c.written = redirected s c.written :=
    List.map_congr_left fun w _ => by rw [mayGetBackup, mayGetBackup, hu]
  rw [c.direct_eq, hsame]
  refine ⟨?_, fun n => getEntryPoint_artSetNatives, fun n => getData_artSetNatives⟩
  rw [getData_artSetNatives]
  exact writtenData_redirected_hooked hc ht

/-- **One call keeps the paths in agreement** exactly where it registers
alike. -/
theorem pathsAgree_step_iff {p : State × State} (hp : PathsRelated art p)
    (hA : (pathsMachine art).admissible p c) (h : PathsAgree p) :
    PathsAgree ((pathsMachine art).step p c) ↔ RegistersAlike p.1 c := by
  obtain ⟨s, u⟩ := p
  obtain ⟨hc, hu⟩ := hp
  have hf : SameHooks s (c.fallback art s) := NativeCall.sameRegistry_fallback.sameHooks
  -- what either path leaves of a target and its backup
  have hpair : ∀ {t b}, s.isHooked t = some b →
      ((((c.fallback art s).getData t = (c.direct u).getData t ∧
        (c.fallback art s).getEntryPoint t = (c.direct u).getEntryPoint t) ∧
      ((c.fallback art s).getData b = (c.direct u).getData b ∧
        (c.fallback art s).getEntryPoint b = (c.direct u).getEntryPoint b)) ↔
      ∀ d ∈ lastInstalled t c.written,
        if d = s.getData t then
          lastInstalled b (redirected s c.written) =
            some ((lastInstalled b c.written).getD (s.getData b))
        else t ∈ c.methods s ∧ s.getEntryPoint b = s.getEntryPoint t ∧
          lastInstalled b (redirected s c.written) = some d) := by
    intro t b hb
    have ht : t ∈ s.hookedMethods := Registry.mem_hookedMethods.2 ⟨b, hb⟩
    obtain ⟨htd, hte⟩ := h t (Or.inl ht)
    obtain ⟨hbd, hbe⟩ := h b (Or.inr (hc.mem_backuped.2 ⟨t, hb⟩))
    obtain ⟨h1, h2, h3, h4⟩ := withUpdater_spec c.written hc c.recordOf_methods hA hb
    rw [← c.fallback_eq] at h1 h2 h3 h4
    obtain ⟨k1, k2, k3⟩ := NativeCall.direct_spec (c := c) hc hu ht
    have hwritten : writtenData u (redirected s c.written) b =
        writtenData s (redirected s c.written) b := by
      rw [writtenData, writtenData, hbd]
    refine Iff.trans ?_ (pair_agrees_iff hc hb)
    rw [h1, h2, h3, h4, k1, k2, k2, k3, hwritten, ← hbe, ← htd]
    exact ⟨fun h => ⟨h.1.1, h.2⟩, fun h => ⟨⟨h.1, hte⟩, h.2⟩⟩
  constructor
  · intro hagree t ht b hb
    have hmem : t ∈ (c.fallback art s).hookedMethods := by
      rw [hf.hookedMethods]
      exact ht
    have hback : b ∈ (c.fallback art s).backupedMethods := by
      rw [hf.backupedMethods]
      exact hc.mem_backuped.2 ⟨t, hb⟩
    exact (hpair hb).1 ⟨hagree t (Or.inl hmem), hagree b (Or.inr hback)⟩
  · -- a method the law is about is a target, or the backup of one
    intro halike m hm
    have hm' : m ∈ s.hookedMethods ∨ m ∈ s.backupedMethods := by
      rw [← hf.hookedMethods, ← hf.backupedMethods]
      exact hm
    rcases hm' with hm | hm
    · obtain ⟨b, hb⟩ := Registry.mem_hookedMethods.1 hm
      exact ((hpair hb).2 (halike m hm b hb)).1
    · obtain ⟨t, hb⟩ := hc.mem_backuped.1 hm
      have ht : t ∈ s.hookedMethods := Registry.mem_hookedMethods.2 ⟨m, hb⟩
      exact ((hpair hb).2 (halike t ht m hb)).2

/-- **The two paths of native registration.** Wherever a run leads, they
agree all along a sequence of calls if and only if each call, on the
fallback path, registers alike. -/
theorem nativePaths_agree_iff {heap : ArtMethodPtr → ArtMethod} {mem : Memory} {ids : List ℕ}
    {owner : ℕ → ArtMethodPtr} {es : List Event}
    (hL : (machine art).Legal (State.initial heap mem ids owner) es) (calls : List NativeCall)
    (hcalls : let s := (machine art).exec (State.initial heap mem ids owner) es
      (pathsMachine art).Legal (s, s) calls) :
    let s := (machine art).exec (State.initial heap mem ids owner) es
    (pathsMachine art).Everywhere PathsAgree (s, s) calls ↔
      (pathsMachine art).EachStep (fun p c => RegistersAlike p.1 c) (s, s) calls := by
  intro s
  exact Machine.everywhere_iff_eachStep (Q := PathsRelated art) (fun p c hp _ => hp.step)
    (fun p c hp hA hagree => pathsAgree_step_iff hp hA hagree)
    ⟨coherent_exec coherent_initial hL, rfl⟩ (fun m _ => ⟨rfl, rfl⟩) hcalls

/-- A table with one row, for an instance method of this function, and ART
writing what it lists. -/
def sampleRegistration (m : ArtMethodPtr) (fnPtr : ℕ) : NativeCall :=
  .registerNatives [{
    hasName := true
    hasSignature := true
    fnPtr := fnPtr
    methodId := some m
    staticMethodId := none }] [(m, fnPtr)] [m]

/-- **A trampoline handed to a backup**: the fallback path copies the hooked
method's entry point along with the function it was given. -/
theorem fallback_copies_trampoline :
    let s := (machine sampleArt).exec (sampleState kAccNative)
      [sampleHook 110 210 211 (some 65536)]
    (machine sampleArt).Legal (sampleState kAccNative) [sampleHook 110 210 211 (some 65536)] ∧
      (pathsMachine sampleArt).Legal (s, s) [sampleRegistration 110 5] ∧
      ¬ (pathsMachine sampleArt).Everywhere PathsAgree (s, s) [sampleRegistration 110 5] := by
  intro s
  refine ⟨by decide, by decide, fun h => ?_⟩
  have hback : 211 ∈ ((sampleRegistration 110 5).fallback sampleArt s).backupedMethods := by decide
  exact absurd (h.2 211 (Or.inr hback)).2 (by decide)

/-- Calls it is about: the method is given the function it had when it was
hooked. -/
theorem nativePaths_agree_sample :
    let s := (machine sampleArt).exec (sampleState kAccNative)
      [.registerNative 110 9, sampleHook 110 210 211 (some 65536)]
    (pathsMachine sampleArt).Everywhere PathsAgree (s, s)
      [sampleRegistration 110 9, .unregisterNatives [110] [] [110]] := by
  intro s
  have hL : (machine sampleArt).Legal (sampleState kAccNative)
      [.registerNative 110 9, sampleHook 110 210 211 (some 65536)] := by decide
  exact (nativePaths_agree_iff hL _ (by decide)).2 (by decide)

end LSPlant
