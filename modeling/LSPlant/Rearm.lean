import LSPlant.CallOriginal
/-!
# Methods unhooked stay unhooked

A snapshot of a class holds entry points as they were when it was taken.
A method unhooked before the class is restored gets the trampoline of the
hook it no longer has written back; only if it is deoptimized as well,
and ART has put something else than the bridge in its place, is it set to
the interpreter instead. The same write, for a method hooked again in the
meantime, sends the trampoline of the new hook to the new backup.
-/

namespace LSPlant

variable {art : Art} {s s' : State} {m n : ArtMethodPtr} {e : Event}

/-- **No method that is not hooked has a trampoline**, backups among
them. -/
def UnhookedClean (s : State) : Prop := CleanOn (· ∉ s.hookedMethods) s

/-- **The step re-arms no method**: a class restored sends backups and
writes back to methods that are neither hooked nor backups what is clean. -/
def RearmsNothing (art : Art) (s : State) : Event → Prop
  | .fixupStaticTrampolines classDef self rewritten order =>
    SendsClean s classDef self rewritten order ∧ ∀ m ∈ order.methods, m ∉ s.hookedMethods →
      m ∉ s.backupedMethods → ∀ old ∈ pendingEntry s.backupMethods classDef self order m,
        WritesClean art s rewritten m old
  | _ => True

instance (s : State) : ∀ e, Decidable (RearmsNothing art s e)
  | .fixupStaticTrampolines classDef self rewritten order =>
    inferInstanceAs (Decidable (SendsClean s classDef self rewritten order ∧
      ∀ m ∈ order.methods, m ∉ s.hookedMethods → m ∉ s.backupedMethods →
        ∀ old ∈ pendingEntry s.backupMethods classDef self order m,
          WritesClean art s rewritten m old))
  | .hook _ | .unHook _ | .setHookEnabled _ _ | .deoptimize _ | .updateMethodsCode _ _ _
  | .registerNative _ _ | .unregisterNative _ _ | .registerNatives _ _ _
  | .unregisterNatives _ _ _ | .backupClassMethods _ _ | .mapBootImageMethods _ _
  | .collect => isTrue trivial

/-- Two wrappers move entry points between targets and backups on their own
account: the updater around `JNIEnv`'s registration and the remapping of
the boot image. -/
def Event.movesEntryPoints : Event → Bool
  | .registerNatives _ _ _ | .unregisterNatives _ _ _ | .mapBootImageMethods _ _ => true
  | _ => false

/-- Backups are not hooked, so they are clean. -/
theorem UnhookedClean.backupsClean (h : UnhookedClean s) (hc : Coherent art s) :
    BackupsClean s := fun b hb => h b fun hh => hc.apart b hh hb

/-- **A step that re-arms nothing keeps the methods that are not hooked
clean.** -/
theorem unhookedClean_step (hc : Coherent art s) (hsnap : SnapshotsClean s)
    (hclean : UnhookedClean s) (hA : admissible art s e) (hmove : e.movesEntryPoints = false)
    (hG : RearmsNothing art s e) : UnhookedClean (step art s e) := by
  have hkeep : e.isHooking = false → CleanOn (· ∉ s.hookedMethods) (step art s e) →
      UnhookedClean (step art s e) := fun h hcl => by
    unfold UnhookedClean
    rw [(sameHooks_step h).hookedMethods]
    exact hcl
  -- what is left then are hooks and restored classes
  by_cases hcode : e.installsCode = true
  · exact hkeep (e.isHooking_of_installsCode hcode)
      (hclean.installsCode (installsCode_step hc hcode))
  cases e with
  | hook request =>
    show UnhookedClean (hookMethod art s request).1
    rcases hookMethod_cases art s request (backup_ne_target hA) with
      ⟨T, -, h⟩ | ⟨target, stub, a, slot, s', h, hh⟩ <;> rw [h]
    · exact hclean
    · intro n hn
      rw [hh.hookedMethods, Finmap.mem_insert, not_or] at hn
      rw [← State.view_entryPoint, hh.view, if_neg hn.1]
      split
      · exact hclean target hh.notHooked
      · exact hclean n hn.2
  | unHook tm =>
    show UnhookedClean (unHook art s tm).1
    rcases unHook_cases art s tm with ⟨h, -⟩ | ⟨target, record, s', -, h, hu⟩ <;> rw [h]
    · exact hclean
    · intro n hn
      rw [← State.view_entryPoint, hu.view]
      split
      · -- what comes back is the backup's, which is not hooked
        exact hclean record.backup
          (Registry.isHooked_eq_none.1 (hc.isHooked_backup hu.isHooked_target))
      · rename_i hne
        refine hclean n fun hh => hn ?_
        rw [hu.toRegistry]
        exact Finmap.mem_erase.2 ⟨hne, hh⟩
  | setHookEnabled tm enabled =>
    intro n hn
    refine (CleanOn.installsCode hclean installsCode_setHookEnabled) n fun hh => hn ?_
    rw [Registry.mem_hookedMethods] at hh ⊢
    simpa only [step, isHooked_setHookEnabled] using hh
  | fixupStaticTrampolines cd self rewritten order =>
    refine hkeep rfl (cleanOn_fixup hc hA.2 (fun n hn => hn) hclean hsnap hG.1
      fun m old hm hb hp => ?_)
    exact hG.2 m ((mem_restoreOrder hA.2).2 ⟨old, hp⟩) hm hb old hp
  | registerNatives natives written order => cases hmove
  | unregisterNatives visited written order => cases hmove
  | mapBootImageMethods remapped order => cases hmove
  | _ => exact absurd rfl hcode

/-! ## Runs -/

/-- **No unhooked method is re-armed** in a run none of whose restored
classes writes back or sends a trampoline to one that is not hooked. -/
theorem unhookedClean_everywhere {heap : ArtMethodPtr → ArtMethod} {mem : Memory}
    {ids : List ℕ} {owner : ℕ → ArtMethodPtr} {es : List Event}
    (hheap : ∀ m, ¬ (heap m).entryPoint.IsTrampoline)
    (hL : (machine art).Legal (State.initial heap mem ids owner) es)
    (hmove : ∀ e ∈ es, e.movesEntryPoints = false)
    (hG : (machine art).EachStep (RearmsNothing art) (State.initial heap mem ids owner) es) :
    (machine art).Everywhere UnhookedClean (State.initial heap mem ids owner) es := by
  have hsteps := Machine.eachStep_and.2 ⟨hL, Machine.eachStep_and.2
    ⟨Machine.eachStep_of_forall hmove, hG⟩⟩
  refine (Machine.everywhere_of_eachStep
    (P := fun s => Coherent art s ∧ SnapshotsClean s ∧ UnhookedClean s) ?_ ?_ hsteps).mono
      fun s hs => hs.2.2
  · rintro s e ⟨hc, hsnap, hclean⟩ ⟨hA, hm, hg⟩
    exact ⟨coherent_step hc hA, snapshotsClean_step hsnap (hclean.backupsClean hc) hA,
      unhookedClean_step hc hsnap hclean hA hm hg⟩
  · exact ⟨coherent_initial, fun b hb => absurd hb Finmap.notMem_empty, fun m _ => hheap m⟩

/-- A run it is about: hooked before its class is initialised and unhooked
after it, as the tests do. -/
theorem unhookedClean_everywhere_sample :
    (machine sampleArt).Everywhere UnhookedClean (sampleState kAccStatic)
      [sampleHook 110 210 211 (some 65536), .backupClassMethods 2 5,
        .fixupStaticTrampolines 2 5 [(110, 77)] ⟨[5], [], [110]⟩, .unHook (some 110)] :=
  unhookedClean_everywhere (fun m => not_isTrampoline_code) (by decide)
    (by decide) (by decide)

/-- **A method unhooked in the window of its class is re-armed**: hooked,
the class initialised, unhooked, and only then the class restored, it has
the trampoline of the hook that was taken out. -/
theorem unhooked_in_window_is_rearmed :
    let run := [sampleHook 110 210 211 (some 65536), .backupClassMethods 2 5,
      .unHook (some 110), .fixupStaticTrampolines 2 5 [(110, 77)] ⟨[5], [], [110]⟩]
    let s := (machine sampleArt).exec (sampleState kAccStatic) run
    (machine sampleArt).Legal (sampleState kAccStatic) run ∧ s.isHooked 110 = none ∧
      s.getEntryPoint 110 = .trampoline 65536 ∧ ¬ UnhookedClean s := by
  intro run s
  have hh : s.isHooked 110 = none := by decide
  have he : s.getEntryPoint 110 = .trampoline 65536 := by decide
  refine ⟨by decide, hh, he, fun hclean => ?_⟩
  have h := hclean 110 (Registry.isHooked_eq_none.1 hh)
  rw [he] at h
  exact h isTrampoline_trampoline

end LSPlant
