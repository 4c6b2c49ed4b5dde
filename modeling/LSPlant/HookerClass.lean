import LSPlant.Sticky
import LSPlant.Initialization
/-!
# Initialising a hooker class

Every backup is recorded as deoptimized, under the class of its hook, so
that the fixup of static trampolines on that class leaves its entry point
alone. A restored class goes by membership in `deoptimized_methods_`, and
what it does for a method the user has deoptimized it does for a backup:
a static one that ART has not left to the interpreter is set to it.
-/

namespace LSPlant

variable {art : Art} {s u v : State} {t b m n : ArtMethodPtr} {e old : EntryPoint}
  {cd c : ClassDefPtr} {self th : ThreadPtr} {order : RestoreOrder}
  {rewritten : List (ArtMethodPtr × ℕ)}

/-! ## Access flags stay -/

/-- No method's access flags differ. -/
def SameFlags (s s' : State) : Prop :=
  ∀ n, (s'.heap n).accessFlags = (s.heap n).accessFlags

theorem SameFlags.trans {s' s'' : State} (h : SameFlags s s') (h' : SameFlags s' s'') :
    SameFlags s s'' := fun n => (h' n).trans (h n)

theorem sameFlags_modify {f : ArtMethod → ArtMethod} (h : ∀ r, (f r).accessFlags = r.accessFlags) :
    SameFlags s (s.modify m f) := fun n => by
  rw [State.heap_modify]
  split
  · subst n
    exact h _
  · rfl

theorem sameFlags_setEntryPoint : SameFlags s (s.setEntryPoint art m e) :=
  sameFlags_modify fun _ => rfl

theorem sameFlags_artSetEntryPoint {code : ℕ} : SameFlags s (s.artSetEntryPoint m code) :=
  sameFlags_modify fun _ => rfl

theorem sameFlags_setEntryPointsToInterpreter :
    SameFlags s (setEntryPointsToInterpreter art s m).1 := by
  unfold setEntryPointsToInterpreter
  split
  · exact sameFlags_setEntryPoint
  · split
    · exact sameFlags_artSetEntryPoint
    · exact fun n => rfl

theorem sameFlags_artInstall : SameFlags s (artInstall s rewritten) := by
  induction rewritten generalizing s with
  | nil => exact fun n => rfl
  | cons w rewritten ih => exact sameFlags_artSetEntryPoint.trans ih

theorem sameFlags_restoreMethod : SameFlags s (restoreMethod art s m old) := by
  simp only [restoreMethod]
  split
  · split
    · exact sameFlags_setEntryPoint.trans sameFlags_setEntryPoint
    · exact sameFlags_setEntryPoint
  · split
    · exact sameFlags_setEntryPoint.trans sameFlags_setEntryPointsToInterpreter
    · exact sameFlags_setEntryPoint

/-! ## What happens to a backup -/

/-- **A class's initialisation as ART brings it**: the class and the thread of
the snapshot, what ART rewrites, and what `RestoreBackup` is called with. -/
structure ClassInitialization where
  classDef : ClassDefPtr
  self : ThreadPtr
  rewritten : List (ArtMethodPtr × ℕ)
  restoredClass : ClassDefPtr
  restoredThread : ThreadPtr
  order : RestoreOrder

namespace ClassInitialization

variable (w : ClassInitialization)

/-- The state after it. -/
def run (art : Art) (s : State) : State :=
  initializeClass art s w.classDef w.self w.restoredClass w.restoredThread w.rewritten w.order

variable (s)

/-- The loops of the restoration visit what is pending. -/
def Orderly : Prop :=
  w.order.Of (backupClassMethods s w.classDef w.self) w.restoredClass w.restoredThread

instance : Decidable (w.Orderly s) := inferInstanceAs (Decidable (RestoreOrder.Of _ _ _ _))

/-- What the snapshots that are restored hold of a method. -/
def held (n : ArtMethodPtr) : Option EntryPoint :=
  pendingEntry (backupClassMethods s w.classDef w.self).backupMethods w.restoredClass
    w.restoredThread w.order n

/-- What ART leaves on a method. -/
def left (n : ArtMethodPtr) : EntryPoint :=
  (lastInstalled n w.rewritten).elim (s.getEntryPoint n) .code

/-- **ART has changed the target**, which is restored too and not deoptimized, so
that the change goes to the backup. -/
def SendsChange (t : ArtMethodPtr) : Prop :=
  ¬ s.isDeoptimized t ∧ ∃ old ∈ w.held s t, w.left s t ≠ old

instance : Decidable (w.SendsChange s t) :=
  inferInstanceAs (Decidable (¬ s.isDeoptimized t ∧ ∃ old ∈ w.held s t, w.left s t ≠ old))

/-- **What ART has put on the backup**, there or by way of its target. -/
def put (t b : ArtMethodPtr) : EntryPoint :=
  if w.SendsChange s t then w.left s t else w.left s b

/-- **The backup is restored**, and nothing goes to it afterwards. -/
def RestoredLast (t b : ArtMethodPtr) : Prop :=
  (w.held s b).isSome ∧ (w.SendsChange s t → w.order.methods.idxOf t < w.order.methods.idxOf b)

instance : Decidable (w.RestoredLast s t b) :=
  inferInstanceAs (Decidable ((w.held s b).isSome ∧ (w.SendsChange s t → _)))

variable (art) in
/-- **ART has put something else than the bridge on the backup**, which is not
native and which the interpreter has an entry point for. -/
def Reinterprets (t b : ArtMethodPtr) : Prop :=
  w.put s t b ≠ .code art.artQuickToInterpreterBridge ∧ (s.heap b).isNative = false ∧
    (interpreterEntryPoint art s b).isSome

instance : Decidable (w.Reinterprets art s t b) := inferInstanceAs (Decidable (_ ∧ _ ∧ _))

variable (art) in
/-- **The initialisation spares a backup.** One that is sent to the interpreter
was there before; one that is restored otherwise is restored from a snapshot that
has its entry point, and not from an older one; on another ART has put nothing
else. -/
structure Spares (t b : ArtMethodPtr) : Prop where
  reinterpreted : w.RestoredLast s t b → w.Reinterprets art s t b →
    interpreterEntryPoint art s b = some (s.getEntryPoint b)
  restored : w.RestoredLast s t b → ¬ w.Reinterprets art s t b →
    w.held s b = some (s.getEntryPoint b)
  notRestored : ¬ w.RestoredLast s t b → w.put s t b = s.getEntryPoint b

end ClassInitialization

/-! ## The two passes that write to a backup -/

/-- What the pass of a method of `deoptimized_methods_` leaves of an entry point
saved: not native, and found with anything but the bridge, it is deoptimized
again. -/
def restoredEntryPoint (art : Art) (s : State) (m : ArtMethodPtr) (old found : EntryPoint) :
    EntryPoint :=
  if found ≠ .code art.artQuickToInterpreterBridge ∧ (s.heap m).isNative = false then
    (interpreterEntryPoint art s m).getD old
  else old

/-- **The pass of a backup.** -/
theorem getEntryPoint_restoreMethod_recorded (hm : s.isHooked m = none) (hd : s.isDeoptimized m) :
    (restoreMethod art s m old).getEntryPoint m =
      restoredEntryPoint art s m old (s.getEntryPoint m) := by
  obtain ⟨-, hold, hredo⟩ := getEntryPoint_restoreMethod_unhooked art m old hm
  unfold restoredEntryPoint
  split
  · rename_i hr
    rw [hredo ⟨hd, hr.1, hr.2⟩, getEntryPoint_setEntryPointsToInterpreter,
      State.getEntryPoint_setEntryPoint, if_pos rfl]
    unfold interpreterEntryPoint
    rw [sameFlags_setEntryPoint m]
  · rename_i hr
    rw [hold fun h => hr ⟨h.2.1, h.2.2⟩]

theorem restoredEntryPoint_congr {found : EntryPoint} (h : SameFlags s u) :
    restoredEntryPoint art u m old found = restoredEntryPoint art s m old found := by
  have hnative : (u.heap m).isNative = (s.heap m).isNative := by
    unfold ArtMethod.isNative
    rw [h m]
  have hinterpreter : interpreterEntryPoint art u m = interpreterEntryPoint art s m := by
    unfold interpreterEntryPoint
    rw [h m]
  unfold restoredEntryPoint
  rw [hinterpreter, hnative]

/-- It is the interpreter's entry point, or what was saved. -/
theorem restoredEntryPoint_eq_iff {found : EntryPoint} :
    restoredEntryPoint art s m old found = e ↔
      if found ≠ .code art.artQuickToInterpreterBridge ∧ (s.heap m).isNative = false ∧
          (interpreterEntryPoint art s m).isSome then
        interpreterEntryPoint art s m = some e
      else old = e := by
  unfold restoredEntryPoint
  cases interpreterEntryPoint art s m with
  | none => simp
  | some entry =>
    simp only [Option.isSome_some, and_true, Option.getD_some, Option.some_inj]
    split <;> exact Iff.rfl

/-- What no pass of `RestoreBackup` changes. -/
structure Restoring (u v : State) : Prop where
  registry : SameRegistry u v
  flags : SameFlags u v

/-- The entry points of a hooked method and of its backup. -/
def pairEntryPoints (t b : ArtMethodPtr) (v : State) : EntryPoint × EntryPoint :=
  (v.getEntryPoint t, v.getEntryPoint b)

/-- What the pass of the hooked method makes of them. -/
def sentPair (u : State) (t : ArtMethodPtr) (old : EntryPoint) (x : EntryPoint × EntryPoint) :
    EntryPoint × EntryPoint :=
  (old, if ¬ u.isDeoptimized t ∧ x.1 ≠ old then x.1 else x.2)

/-- What the pass of the backup makes of them. -/
def putPair (art : Art) (u : State) (b : ArtMethodPtr) (old : EntryPoint)
    (x : EntryPoint × EntryPoint) : EntryPoint × EntryPoint :=
  (x.1, restoredEntryPoint art u b old x.2)

namespace Restoring

theorem popped : Restoring u (popped u cd th order) := ⟨sameRegistry_popped, fun _ => rfl⟩

theorem restoreMethod (h : Restoring u v) : Restoring u (restoreMethod art v n old) :=
  ⟨h.registry.trans SameRegistry.restoreMethod, h.flags.trans sameFlags_restoreMethod⟩

theorem isHooked (h : Restoring u v) : v.isHooked n = u.isHooked n :=
  congrArg (fun r : Registry => r.isHooked n) h.registry.toRegistry

theorem isDeoptimized (h : Restoring u v) : v.isDeoptimized n ↔ u.isDeoptimized n := by
  show v.toRegistry.isDeoptimized n ↔ _
  rw [h.registry.toRegistry]

/-- Another method's pass leaves the two. -/
theorem pair_of_ne (h : Restoring u v) (hc : Coherent art u) (hb : u.isHooked t = some b)
    (hnt : n ≠ t) (hnb : n ≠ b) :
    pairEntryPoints t b (LSPlant.restoreMethod art v n old) = pairEntryPoints t b v := by
  have hcv : Coherent art v := hc.congr h.registry.sameHooks
  have hvb : v.isHooked t = some b := h.isHooked.trans hb
  have hvt : t ∈ v.hookedMethods := Registry.mem_hookedMethods.2 ⟨b, hvb⟩
  unfold pairEntryPoints
  rw [getEntryPoint_restoreMethod_of_ne hcv hnt.symm fun he => hcv.ne_backup hvt he rfl,
    getEntryPoint_restoreMethod_of_ne hcv hnb.symm fun he => hnt (hcv.backup_injective he hvb)]

theorem pair_target (h : Restoring u v) (hc : Coherent art u) (hb : u.isHooked t = some b) :
    pairEntryPoints t b (LSPlant.restoreMethod art v t old) =
      sentPair u t old (pairEntryPoints t b v) := by
  have hbt : b ≠ t := hc.ne_backup (Registry.mem_hookedMethods.2 ⟨b, hb⟩) hb
  have hvb : v.isHooked t = some b := h.isHooked.trans hb
  have hsends : (True ∧ ¬ v.isDeoptimized t ∧ v.getEntryPoint t ≠ old) ↔
      (¬ u.isDeoptimized t ∧ v.getEntryPoint t ≠ old) := by
    rw [h.isDeoptimized, true_and]
  simp only [pairEntryPoints, sentPair, getEntryPoint_restoreMethod_hooked hvb hbt, if_true,
    if_neg hbt]
  exact Prod.ext rfl (if_congr hsends rfl rfl)

theorem pair_backup (h : Restoring u v) (hc : Coherent art u) (hb : u.isHooked t = some b)
    (hd : u.isDeoptimized b) :
    pairEntryPoints t b (LSPlant.restoreMethod art v b old) =
      putPair art u b old (pairEntryPoints t b v) := by
  have hbt : b ≠ t := hc.ne_backup (Registry.mem_hookedMethods.2 ⟨b, hb⟩) hb
  have hvb : v.isHooked b = none := h.isHooked.trans (hc.isHooked_backup hb)
  have hleft := (getEntryPoint_restoreMethod_unhooked art t old hvb).1 hbt.symm
  simp only [pairEntryPoints, putPair, hleft,
    getEntryPoint_restoreMethod_recorded hvb (h.isDeoptimized.2 hd),
    restoredEntryPoint_congr h.flags]

end Restoring

namespace ClassInitialization

variable {w : ClassInitialization}

variable (w s) in
/-- What the restoration meets. -/
def installed : State := artInstall (backupClassMethods s w.classDef w.self) w.rewritten

theorem sameRegistry_installed : SameRegistry s (w.installed s) :=
  SameRegistry.backupClassMethods.trans (sameRegistry_artInstall _ w.rewritten)

theorem sameFlags_installed : SameFlags s (w.installed s) := by
  have hsnapshot : SameFlags s (backupClassMethods s w.classDef w.self) := fun n => by
    rw [backupClassMethods_heap]
  exact hsnapshot.trans sameFlags_artInstall

theorem getEntryPoint_installed : (w.installed s).getEntryPoint n = w.left s n := by
  rw [installed, getEntryPoint_artInstall_eq, State.getEntryPoint, backupClassMethods_heap]
  rfl

variable (w s) in
/-- The snapshots it takes up. -/
def methods : Table ArtMethodPtr EntryPoint :=
  (popBackup (w.installed s).backupMethods w.restoredClass w.restoredThread w.order).1

theorem lookup_methods : (w.methods s).lookup n = w.held s n := by
  rw [methods, lookup_popBackup, installed, backupMethods_artInstall]
  rfl

theorem Orderly.methods (h : w.Orderly s) : Table.Enumerates w.order.methods (w.methods s) :=
  (RestoreOrder.Of.artInstall h).2.2

theorem not_sendsChange (h : w.held s t = none) : ¬ w.SendsChange s t := by
  rintro ⟨-, old, hold, -⟩
  rw [h] at hold
  cases hold

/-- The target's change goes to the backup. -/
theorem pass_target {x : EntryPoint} :
    ((w.methods s).pass t (sentPair s t) (w.left s t, x)).2 =
      if w.SendsChange s t then w.left s t else x := by
  rcases Option.eq_none_or_eq_some (w.held s t) with hheld | ⟨old, hheld⟩
  · rw [Table.pass_of_none (lookup_methods.trans hheld), if_neg (not_sendsChange hheld)]
  · have hsends : w.SendsChange s t ↔ ¬ s.isDeoptimized t ∧ w.left s t ≠ old := by
      unfold SendsChange
      rw [hheld]
      simp
    rw [Table.pass_of_some (lookup_methods.trans hheld)]
    exact if_congr hsends.symm rfl rfl

/-- The backup is restored. -/
theorem pass_backup {x : EntryPoint × EntryPoint} :
    (w.methods s).pass b (putPair art s b) x =
      (x.1, (w.held s b).elim x.2 fun old => restoredEntryPoint art s b old x.2) := by
  cases hheld : w.held s b with
  | none => rw [Table.pass_of_none (lookup_methods.trans hheld), Option.elim_none]
  | some old =>
    rw [Table.pass_of_some (lookup_methods.trans hheld), Option.elim_some]
    rfl

/-- **What the two passes make** of the entry points ART has left. -/
theorem pairEntryPoints_run (hc : Coherent art s) (ho : w.Orderly s) (hb : s.isHooked t = some b)
    (hd : s.isDeoptimized b) :
    pairEntryPoints t b (w.run art s) =
      if w.order.methods.idxOf t < w.order.methods.idxOf b then
        (w.methods s).pass b (putPair art s b)
          ((w.methods s).pass t (sentPair s t) (w.left s t, w.left s b))
      else
        (w.methods s).pass t (sentPair s t)
          ((w.methods s).pass b (putPair art s b) (w.left s t, w.left s b)) := by
  have hsame : SameRegistry s (w.installed s) := sameRegistry_installed
  have hcu : Coherent art (w.installed s) := hc.congr hsame.sameHooks
  have hbu : (w.installed s).isHooked t = some b := by
    rw [hsame.toRegistry]
    exact hb
  have hdu : (w.installed s).isDeoptimized b := by
    rw [hsame.toRegistry]
    exact hd
  have hbt : b ≠ t := hc.ne_backup (Registry.mem_hookedMethods.2 ⟨b, hb⟩) hb
  have hstart : pairEntryPoints t b (popped (w.installed s) w.restoredClass w.restoredThread
      w.order) = (w.left s t, w.left s b) :=
    Prod.ext getEntryPoint_installed getEntryPoint_installed
  show pairEntryPoints t b (restoreBackup art (w.installed s) _ _ _) = _
  rw [restoreBackup_eq, ← hstart]
  refine Table.forEach_read_two (f := pairEntryPoints t b) (I := Restoring (w.installed s))
    Restoring.popped (fun v n old hv => hv.restoreMethod) ho.methods hbt.symm
    (fun v old hv => ?_) (fun v old hv => ?_)
    fun v n old hv hnt hnb => hv.pair_of_ne hcu hbu hnt hnb
  · rw [hv.pair_target hcu hbu]
    refine Prod.ext rfl (if_congr (and_congr_left fun _ => ?_) rfl rfl)
    rw [hsame.toRegistry]
  · rw [hv.pair_backup hcu hbu hdu, putPair, restoredEntryPoint_congr sameFlags_installed]
    rfl

/-- **The entry point a backup ends up with.** -/
theorem getEntryPoint_run (hc : Coherent art s) (ho : w.Orderly s) (hb : s.isHooked t = some b)
    (hd : s.isDeoptimized b) :
    (w.run art s).getEntryPoint b =
      if w.RestoredLast s t b then
        restoredEntryPoint art s b ((w.held s b).getD (s.getEntryPoint b)) (w.put s t b)
      else w.put s t b := by
  show (pairEntryPoints t b (w.run art s)).2 = _
  rw [pairEntryPoints_run hc ho hb hd]
  unfold RestoredLast
  by_cases hlt : w.order.methods.idxOf t < w.order.methods.idxOf b
  · -- the backup's pass comes last and finds what ART has put there
    rw [if_pos hlt, pass_backup, pass_target]
    rcases Option.eq_none_or_eq_some (w.held s b) with hheld | ⟨old, hheld⟩ <;>
      simp [hheld, hlt, put]
  · rw [if_neg hlt, pass_backup, pass_target]
    by_cases hsends : w.SendsChange s t
    · simp [hlt, hsends, put]
    · rcases Option.eq_none_or_eq_some (w.held s b) with hheld | ⟨old, hheld⟩ <;>
        simp [hheld, hsends, put]

/-- **A backup keeps its entry point** exactly if the initialisation spares it. -/
theorem getEntryPoint_run_iff (hc : Coherent art s) (ho : w.Orderly s)
    (hb : s.isHooked t = some b) (hd : s.isDeoptimized b) :
    (w.run art s).getEntryPoint b = s.getEntryPoint b ↔ w.Spares art s t b := by
  rw [getEntryPoint_run hc ho hb hd]
  by_cases hlast : w.RestoredLast s t b
  · obtain ⟨old, hold⟩ := Option.isSome_iff_exists.1 hlast.1
    have hrestored : w.held s b = some (s.getEntryPoint b) ↔ old = s.getEntryPoint b := by
      rw [hold, Option.some_inj]
    rw [if_pos hlast, hold, Option.getD_some, restoredEntryPoint_eq_iff]
    change (if w.Reinterprets art s t b then _ else _) ↔ _
    by_cases hre : w.Reinterprets art s t b
    · rw [if_pos hre]
      exact ⟨fun h => ⟨fun _ _ => h, fun _ hnot => absurd hre hnot, fun hnot => absurd hlast hnot⟩,
        fun h => h.reinterpreted hlast hre⟩
    · rw [if_neg hre, ← hrestored]
      exact ⟨fun h => ⟨fun _ hre' => absurd hre' hre, fun _ _ => h, fun hnot => absurd hlast hnot⟩,
        fun h => h.restored hlast hre⟩
  · rw [if_neg hlast]
    exact ⟨fun h => ⟨fun hl => absurd hl hlast, fun hl => absurd hl hlast, fun _ => h⟩,
      fun h => h.notRestored hlast⟩

/-- **The plain case**, a target of another class and a snapshot of this very
initialisation: a backup is spared if ART has left the bridge on it, it is native,
or the interpreter has no entry point for it but the one it had. -/
theorem spares_iff_of_held (hb : w.held s b = some (s.getEntryPoint b)) (ht : w.held s t = none) :
    w.Spares art s t b ↔ (w.left s b ≠ .code art.artQuickToInterpreterBridge →
      (s.heap b).isNative = false → ∀ e ∈ interpreterEntryPoint art s b, e = s.getEntryPoint b) := by
  have hlast : w.RestoredLast s t b :=
    ⟨by rw [hb]; rfl, fun hsends => absurd hsends (not_sendsChange ht)⟩
  have hput : w.put s t b = w.left s b := if_neg (not_sendsChange ht)
  constructor
  · intro h hleft hnative e he
    have hre : w.Reinterprets art s t b :=
      ⟨by rw [hput]; exact hleft, hnative, Option.isSome_of_mem he⟩
    exact Option.some.inj ((Option.mem_def.1 he).symm.trans (h.reinterpreted hlast hre))
  · intro h
    refine ⟨fun _ hre => ?_, fun _ _ => hb, fun hnot => absurd hlast hnot⟩
    obtain ⟨hleft, hnative, hsome⟩ := hre
    obtain ⟨e, he⟩ := Option.isSome_iff_exists.1 hsome
    rw [he, h (hput ▸ hleft) hnative e he]

end ClassInitialization

/-- **Initialising a class and the backups of hooked methods.** Wherever a run
leads, whatever snapshots are pending and whatever ART rewrites, a backup has after
the restoration the entry point it had when the snapshot was taken exactly if the
initialisation spares it, be its target deoptimized or not. -/
theorem initializeClass_leavesBackup_iff {heap : ArtMethodPtr → ArtMethod} {mem : Memory}
    {ids : List ℕ} {owner : ℕ → ArtMethodPtr} {es : List Event} (w : ClassInitialization)
    (hL : (machine art).Legal (State.initial heap mem ids owner) es)
    (hb : ((machine art).exec (State.initial heap mem ids owner) es).isHooked t = some b)
    (ho : w.Orderly ((machine art).exec (State.initial heap mem ids owner) es)) :
    let s := (machine art).exec (State.initial heap mem ids owner) es
    (w.run art s).getEntryPoint b = s.getEntryPoint b ↔ w.Spares art s t b := by
  intro s
  have hinv : Coherent art s ∧ BackupsRecorded s :=
    Machine.exec_of_eachStep (P := fun s => Coherent art s ∧ BackupsRecorded s)
      (fun s e h hA => ⟨coherent_step h.1 hA, backupsRecorded_step h.1 hA h.2⟩)
      ⟨coherent_initial, backupsRecorded_initial⟩ hL
  exact ClassInitialization.getEntryPoint_run_iff hinv.1 ho hb (hinv.2.deoptimized t b hb)

/-- The hooker class initialised: ART puts other code on the backup in between. -/
def sampleInitialization : ClassInitialization where
  classDef := 3
  self := 5
  rewritten := [(211, 77)]
  restoredClass := 3
  restoredThread := 5
  order := ⟨[5], [], [211]⟩

/-- **A backup set to the interpreter** by the initialisation of the class
of its hook, although nobody has deoptimized anything. -/
theorem backup_set_to_interpreter :
    let run := [sampleHook 110 210 211 (some 65536)]
    let s := (machine sampleArt).exec (sampleState kAccStatic) run
    (machine sampleArt).Legal (sampleState kAccStatic) run ∧ s.isHooked 110 = some 211 ∧
      ¬ s.isDeoptimized 110 ∧ sampleInitialization.Orderly s ∧ s.getEntryPoint 211 = .code 1110 ∧
        (sampleInitialization.run sampleArt s).getEntryPoint 211 =
          .code sampleArt.artQuickToInterpreterBridge := by
  decide

/-- An initialisation that leaves the backup alone: of a native method. -/
theorem initializeClass_leavesBackup_sample :
    let s := (machine sampleArt).exec (sampleState (kAccStatic ||| kAccNative))
      [sampleHook 110 210 211 (some 65536)]
    (sampleInitialization.run sampleArt s).getEntryPoint 211 = s.getEntryPoint 211 := by
  intro s
  have hL : (machine sampleArt).Legal (sampleState (kAccStatic ||| kAccNative))
      [sampleHook 110 210 211 (some 65536)] := by decide
  exact (initializeClass_leavesBackup_iff (t := 110) sampleInitialization hL (by decide)
    (by decide)).2 ⟨by decide, by decide, by decide⟩

end LSPlant
