import LSPlant.InPlace
/-!
# Methods without a trampoline

Which steps can put a trampoline where there was none. Code updates,
deoptimization and registration by way of the backup install code or
nothing. A restored class can: it writes back what it saved, and sends
what it finds to the backup. The set of methods that are to be clean is a
parameter here; it is the backups for calls of the original, and all
methods that are not hooked for hooks that were taken out.
-/

namespace LSPlant

variable {art : Art} {s s' u : State} {t b m n : ArtMethodPtr} {e : Event}
  {D : ArtMethodPtr → Prop}

/-- **The methods of a set have no trampoline** as entry point. -/
def CleanOn (D : ArtMethodPtr → Prop) (s : State) : Prop :=
  ∀ m, D m → ¬ (s.getEntryPoint m).IsTrampoline

/-- **Pending snapshots of backups hold no trampoline.** -/
def SnapshotsClean (s : State) : Prop :=
  ∀ b ∈ s.backupedMethods, ∀ th cd e, snapshotEntry s.backupMethods th cd b = some e →
    ¬ e.IsTrampoline

/-! ## Steps that install code or nothing -/

/-- Entry points stay or become code. -/
def InstallsCode (s s' : State) : Prop :=
  ∀ n, s'.getEntryPoint n = s.getEntryPoint n ∨ ∃ c, s'.getEntryPoint n = .code c

theorem CleanOn.installsCode (h : CleanOn D s) (hs : InstallsCode s s') : CleanOn D s' := by
  intro m hm
  rcases hs m with he | ⟨c, he⟩ <;> rw [he]
  · exact h m hm
  · exact not_isTrampoline_code

theorem installsCode_setEntryPointsToInterpreter (art : Art) (s : State) (m : ArtMethodPtr) :
    InstallsCode s (setEntryPointsToInterpreter art s m).1 := by
  intro n
  obtain ⟨c, hc⟩ := view_setEntryPointsToInterpreter art s n m
  rw [← State.view_entryPoint, hc]
  split
  · exact Or.inr ⟨c, rfl⟩
  · exact Or.inl rfl

theorem installsCode_deoptimize {method : Option ArtMethodPtr} :
    InstallsCode s (deoptimize art s method).1 := by
  rcases deoptimize_cases art s method with ⟨-, he⟩ | ⟨n, -, -, -, he⟩ <;> rw [he]
  · exact fun n => Or.inl rfl
  · exact installsCode_setEntryPointsToInterpreter art { s with
      toRegistry := s.recordDeoptimized (s.classDef art n) n (s.getEntryPoint n) } _

theorem installsCode_updateMethodsCode (hc : Coherent art s) {q i : ℕ} :
    InstallsCode s (updateMethodsCode art s m q i) := by
  intro n
  cases hm : s.isHooked m with
  | none =>
    rw [getEntryPoint_updateMethodsCode_unhooked hm]
    split
    · subst n
      split
      · exact Or.inl rfl
      · exact Or.inr ⟨i, rfl⟩
    · exact Or.inl rfl
  | some b =>
    have hne : b ≠ m := hc.ne_backup (Registry.mem_hookedMethods.2 ⟨b, hm⟩) hm
    by_cases hold : s.getEntryPoint m = .code q
    · have hup : updateMethodsCode art s m q i = s.artSetEntryPoint m i := by
        rw [updateMethodsCode]
        exact if_neg (not_not.2 hold)
      rw [hup, State.getEntryPoint_artSetEntryPoint]
      split
      · exact Or.inr ⟨i, rfl⟩
      · exact Or.inl rfl
    · rw [getEntryPoint_updateMethodsCode_hooked hm hne hold]
      split
      · subst n; exact Or.inl rfl
      · split
        · exact Or.inr ⟨q, rfl⟩
        · exact Or.inl rfl

theorem installsCode_artInstall {rewritten : List (ArtMethodPtr × ℕ)} :
    InstallsCode s (artInstall s rewritten) := fun _ =>
  (getEntryPoint_artInstall s _ rewritten).imp (·.2) (·.2)

theorem installsCode_setHookEnabled {tm : Option ArtMethodPtr} {enabled : Bool} :
    InstallsCode s (setHookEnabled art s tm enabled).1 := by
  refine fun n => Or.inl ?_
  rcases setHookEnabled_cases art s tm enabled with
    ⟨h, -⟩ | ⟨t, record, -, -, ⟨-, h⟩ | ⟨-, h⟩⟩ <;> rw [h]
  rfl

theorem installsCode_moveObsoleteMethods : InstallsCode s (moveObsoleteMethods art s) :=
  fun _ => Or.inl getEntryPoint_moveObsoleteMethods

/-- The events that install code or nothing, whatever the state. -/
def Event.installsCode : Event → Bool
  | .deoptimize _ | .updateMethodsCode .. | .registerNative .. | .unregisterNative ..
  | .backupClassMethods .. | .collect => true
  | _ => false

theorem Event.isHooking_of_installsCode (h : e.installsCode = true) : e.isHooking = false := by
  cases e <;> first | rfl | cases h

theorem installsCode_step (hc : Coherent art s) (h : e.installsCode = true) :
    InstallsCode s (step art s e) := by
  cases e with
  | deoptimize method => exact installsCode_deoptimize
  | updateMethodsCode m q i => exact installsCode_updateMethodsCode hc
  | registerNative m d => exact fun n => Or.inl State.getEntryPoint_setData
  | unregisterNative m d => exact fun n => Or.inl State.getEntryPoint_setData
  | backupClassMethods cd self =>
    exact fun n => Or.inl (congrArg (fun heap => (heap n).entryPoint) backupClassMethods_heap)
  | collect => exact installsCode_moveObsoleteMethods
  | _ => cases h

/-! ## A snapshot taken -/

/-- A snapshot holds what methods have: clean ones of clean methods. -/
theorem SnapshotsClean.backupClassMethods (h : SnapshotsClean s)
    (hclean : CleanOn (· ∈ s.backupedMethods) s) {cd : ClassDefPtr} {self : ThreadPtr} :
    SnapshotsClean (backupClassMethods s cd self) := by
  intro b hb th c e he
  rw [backupClassMethods_toRegistry] at hb
  rcases snapshotEntry_backupClassMethods he with hold | ⟨-, -, hnew⟩
  · exact h b hb th c e hold
  · rw [lookup_classSnapshot] at hnew
    split at hnew
    · obtain rfl := Option.some.inj hnew
      exact hclean b hb
    · cases hnew

/-! ## A class restored -/

section Fixup

variable {cd : ClassDefPtr} {self : ThreadPtr} {rewritten : List (ArtMethodPtr × ℕ)}
  {order : RestoreOrder}

/-- **What a restored class sends to backups is clean**: where the entry
point ART left on a hooked method goes to its backup, it is no
trampoline. -/
def SendsClean (s : State) (cd : ClassDefPtr) (self : ThreadPtr)
    (rewritten : List (ArtMethodPtr × ℕ)) (order : RestoreOrder) : Prop :=
  ∀ t ∈ s.hookedMethods, ∀ old ∈ pendingEntry s.backupMethods cd self order t,
    s.isDeoptimized t ∨ (artInstall s rewritten).getEntryPoint t = old ∨
      ¬ ((artInstall s rewritten).getEntryPoint t).IsTrampoline

instance : Decidable (SendsClean s cd self rewritten order) :=
  inferInstanceAs (Decidable (∀ t ∈ s.hookedMethods,
    ∀ old ∈ pendingEntry s.backupMethods cd self order t, s.isDeoptimized t ∨
      (artInstall s rewritten).getEntryPoint t = old ∨
        ¬ ((artInstall s rewritten).getEntryPoint t).IsTrampoline))

/-- **What it writes back to a method that is not hooked is clean**, or the
method is set to the interpreter again. -/
def WritesClean (art : Art) (s : State) (rewritten : List (ArtMethodPtr × ℕ)) (m : ArtMethodPtr)
    (old : EntryPoint) : Prop :=
  ¬ old.IsTrampoline ∨ (s.isDeoptimized m ∧
    (artInstall s rewritten).getEntryPoint m ≠ .code art.artQuickToInterpreterBridge ∧
      (s.heap m).isNative = false ∧ canSetEntryPointsToInterpreter art = true)

instance {old : EntryPoint} : Decidable (WritesClean art s rewritten m old) :=
  inferInstanceAs (Decidable (¬ old.IsTrampoline ∨ _ ∧ _ ∧ _ ∧ _))

/-- One pass keeps a set clean that holds no hooked method. -/
theorem cleanOn_restoreMethod {old : EntryPoint} (hc : Coherent art u)
    (hD : ∀ n, D n → n ∉ u.hookedMethods) (hclean : CleanOn D u)
    (hsend : m ∈ u.hookedMethods → u.isDeoptimized m ∨ u.getEntryPoint m = old ∨
      ¬ (u.getEntryPoint m).IsTrampoline)
    (hwrite : D m → ¬ old.IsTrampoline ∨
      (Redeoptimized art u m ∧ canSetEntryPointsToInterpreter art = true)) :
    CleanOn D (restoreMethod art u m old) := by
  intro n hn
  cases hm : u.isHooked m with
  | some b =>
    have hmem : m ∈ u.hookedMethods := Registry.mem_hookedMethods.2 ⟨b, hm⟩
    have hnm : n ≠ m := fun he => hD n hn (he ▸ hmem)
    rw [getEntryPoint_restoreMethod_hooked hm (hc.ne_backup hmem hm), if_neg hnm]
    split
    · rename_i h
      exact ((hsend hmem).resolve_left h.2.1).resolve_left h.2.2
    · exact hclean n hn
  | none =>
    obtain ⟨hother, hold, hredo⟩ := getEntryPoint_restoreMethod_unhooked art n old hm
    by_cases hnm : n = m
    · subst n
      by_cases hr : Redeoptimized art u m
      · rw [hredo hr]
        rcases hwrite hn with hclean' | ⟨-, hcan⟩
        · rcases installsCode_setEntryPointsToInterpreter art
            (u.setEntryPoint art m old) m m with he | ⟨c, he⟩ <;> rw [he]
          · rw [State.getEntryPoint_setEntryPoint, if_pos rfl]
            exact hclean'
          · exact not_isTrampoline_code
        · exact not_isTrampoline_setEntryPointsToInterpreter hcan
      · rw [hold hr]
        exact (hwrite hn).resolve_right fun h => hr h.1
    · rw [hother hnm]
      exact hclean n hn

/-- **A restored class keeps a set clean** that has the backups and no
hooked method, if what it sends and what it writes back is clean. -/
theorem cleanOn_fixup (hc : Coherent art s) (ho : order.Of s cd self)
    (hD : ∀ n, D n → n ∉ s.hookedMethods) (hclean : CleanOn D s) (hsnap : SnapshotsClean s)
    (hsend : SendsClean s cd self rewritten order)
    (hwrite : ∀ m old, D m → m ∉ s.backupedMethods →
      pendingEntry s.backupMethods cd self order m = some old →
        WritesClean art s rewritten m old) :
    CleanOn D (fixupStaticTrampolines art s cd self rewritten order) := by
  have hs := sameRegistry_artInstall s rewritten
  have hbm := backupMethods_artInstall s rewritten
  unfold fixupStaticTrampolines
  rw [restoreBackup_eq, hbm]
  -- a method that is no backup is touched by its own pass only
  refine (Table.forEach_induction_fresh (P := fun u => SameRegistry s u ∧ CleanOn D u)
    (K := fun m => m ∉ s.backupedMethods) (f := fun m (u : State) => u.getEntryPoint m)
    (r := (artInstall s rewritten).getEntryPoint) ho.2.2.nodup
    ⟨hs.trans sameRegistry_popped, hclean.installsCode installsCode_artInstall⟩
    (fun m _ _ => rfl) ?_ ?_).2
  · rintro u a n old ⟨hu, -⟩ ha hn -
    refine getEntryPoint_restoreMethod_of_ne (hc.congr hu.sameHooks) (Ne.symm hn) fun he => ha ?_
    rw [hu.toRegistry] at he
    exact hc.mem_backuped.2 ⟨n, he⟩
  · rintro u m old hm hfresh ⟨hu, hcl⟩
    have hcu := hc.congr hu.sameHooks
    rw [lookup_popBackup] at hm
    refine ⟨hu.trans SameRegistry.restoreMethod, cleanOn_restoreMethod hcu
      (fun n hn => by rw [hu.toRegistry]; exact hD n hn) hcl (fun ht => ?_) fun hDm => ?_⟩
    · rw [hu.toRegistry] at ht ⊢
      rw [hfresh (hc.apart m ht)]
      exact hsend m ht old hm
    · by_cases hb : m ∈ s.backupedMethods
      · obtain ⟨th, c, hth⟩ := snapshotEntry_of_pendingEntry hm
        exact Or.inl (hsnap m hb th c old hth)
      · refine (hwrite m old hDm hb hm).imp id fun h => ⟨⟨?_, ?_, ?_⟩, h.2.2.2⟩
        · show u.toRegistry.isDeoptimized m
          rw [hu.toRegistry]
          exact h.1
        · rw [hfresh hb]
          exact h.2.1
        · rw [State.isNative_congr (hu.methods m).1]
          exact h.2.2.1

/-- A restored class leaves no snapshot that was not pending. -/
theorem SnapshotsClean.fixup (h : SnapshotsClean s) :
    SnapshotsClean (fixupStaticTrampolines art s cd self rewritten order) := by
  intro b hb th c e he
  rw [SameRegistry.fixupStaticTrampolines.toRegistry] at hb
  unfold fixupStaticTrampolines at he
  rw [backupMethods_restoreBackup] at he
  have hold := snapshotEntry_popBackup he
  rw [backupMethods_artInstall] at hold
  exact h b hb th c e hold

end Fixup

end LSPlant
