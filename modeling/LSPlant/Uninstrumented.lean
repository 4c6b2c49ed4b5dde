import LSPlant.MapMethods
import LSPlant.Rearm
/-!
# What ART sees of the boot image

At the moment `MapBootImageMethods` calls ART's own function a hooked
method shows what its backup shows, and a deoptimized one the entry point
recorded of it. What is recorded is the entry point at the time of the
first `Deoptimize`, and stays. Of a method hooked at that time it is the
trampoline: no matter while the hook lasts, but shown to ART once it is
taken out.
-/

namespace LSPlant

variable {art : Art} {s s' : State} {t m n : ArtMethodPtr} {e : Event}

/-- **ART sees no trampoline** on a hooked or deoptimized method, whatever
order the loops before it take. -/
def ShowsUninstrumented (art : Art) (s : State) : Prop :=
  ∀ order : MapOrder, order.Of art s → ∀ m, m ∈ s.hookedMethods ∨ m ∈ s.deoptimizedMethods →
    ¬ ((dressUp art s order).1.getEntryPoint m).IsTrampoline

/-- **What is recorded of methods that are not hooked is no trampoline.** -/
def RecordsClean (s : State) : Prop :=
  ∀ n entryPoint, s.deoptimizedMethods.lookup n = some entryPoint → n ∉ s.hookedMethods →
    ¬ entryPoint.IsTrampoline

/-- **No hook is taken out of a method a trampoline is recorded of.** -/
def UnHooksUnrecorded (s : State) : Event → Prop
  | .unHook target => ∀ t ∈ target, t ∈ s.hookedMethods →
    ∀ entryPoint ∈ s.deoptimizedMethods.lookup t, ¬ entryPoint.IsTrampoline
  | _ => True

instance (s : State) : ∀ e, Decidable (UnHooksUnrecorded s e)
  | .unHook target =>
    inferInstanceAs (Decidable (∀ t ∈ target, t ∈ s.hookedMethods →
      ∀ entryPoint ∈ s.deoptimizedMethods.lookup t, ¬ entryPoint.IsTrampoline))
  | .hook _ | .setHookEnabled _ _ | .deoptimize _ | .updateMethodsCode _ _ _
  | .registerNative _ _ | .unregisterNative _ _ | .registerNatives _ _ _
  | .unregisterNatives _ _ _ | .backupClassMethods _ _ | .fixupStaticTrampolines _ _ _ _
  | .mapBootImageMethods _ _ | .collect => isTrue trivial

/-- A call of `Hook`, `UnHook` or `Deoptimize`. -/
def Event.hooksOrDeoptimizes : Event → Bool
  | .hook _ | .unHook _ | .deoptimize _ => true
  | _ => false

/-! ## The view, read off the records -/

theorem enumerates_toList {β : Type*} (t : Table ArtMethodPtr β) :
    Table.Enumerates t.keys.toList t :=
  ⟨Finset.nodup_toList _, fun a => by rw [Finset.mem_toList, Finmap.mem_keys]⟩

/-- The loops have some order to take. -/
theorem exists_mapOrder (art : Art) (s : State) : ∃ order : MapOrder, order.Of art s := by
  let loops : MapOrder :=
    { deoptimized := s.deoptimizedMethods.keys.toList, hooked := s.hookedMethods.keys.toList,
      saved := [] }
  exact ⟨{ loops with saved := (dressUp art s loops).2.keys.toList },
    enumerates_toList _, enumerates_toList _, enumerates_toList _⟩

/-- **The view is clean if the records are**, where no unhooked method has
a trampoline. -/
theorem showsUninstrumented_iff (hc : Coherent art s) (hclean : UnhookedClean s) :
    ShowsUninstrumented art s ↔ RecordsClean s := by
  constructor
  · intro h n entryPoint hn hnh
    obtain ⟨order, ho⟩ := exists_mapOrder art s
    have hshown := h order ho n (Or.inr (Table.mem_iff_lookup.2 ⟨entryPoint, hn⟩))
    rwa [(dressUp_of_not_mem ho hnh).1, originalEntryPoint, hn] at hshown
  · intro h order ho m hm
    have horiginal : ∀ n, n ∉ s.hookedMethods → ¬ (originalEntryPoint s n).IsTrampoline := by
      intro n hn
      unfold originalEntryPoint
      cases hr : s.deoptimizedMethods.lookup n with
      | none => exact hclean n hn
      | some entryPoint => exact h n entryPoint hr hn
    cases hb : s.isHooked m with
    | some b =>
      rw [(dressUp_of_hooked hc ho hb).1]
      exact horiginal b (Registry.isHooked_eq_none.1 (hc.isHooked_backup hb))
    | none =>
      have hnh : m ∉ s.hookedMethods := Registry.isHooked_eq_none.1 hb
      rw [(dressUp_of_not_mem ho hnh).1]
      exact horiginal m hnh

/-! ## A step -/

/-- A hook records the entry point its target had, which was clean. -/
theorem Hooked.recordsClean {request : HookRequest} {target : ArtMethodPtr} {stub : Stub}
    {a slot : ℕ} (hh : Hooked art s request target stub a slot s') (hclean : UnhookedClean s)
    (h : RecordsClean s) : RecordsClean s' := by
  intro n entryPoint hn hnh
  rw [hh.hookedMethods, Finmap.mem_insert, not_or] at hnh
  rw [hh.deoptimizedMethods, Table.lookup_emplace_eq] at hn
  split at hn
  · obtain rfl := Option.some.inj hn
    exact hclean target hh.notHooked
  · exact h n entryPoint hn hnh.2

/-- Taking a hook out leaves the records as they are, and its target to
show its own. -/
theorem UnHooked.recordsClean_iff {target : ArtMethodPtr} {record : HookRecord}
    (hu : UnHooked art s target record s') (h : RecordsClean s) :
    RecordsClean s' ↔
      ∀ entryPoint ∈ s.deoptimizedMethods.lookup target, ¬ entryPoint.IsTrampoline := by
  have hd : s'.deoptimizedMethods = s.deoptimizedMethods := by
    rw [hu.toRegistry]
    rfl
  have hm : ∀ n, n ∈ s'.hookedMethods ↔ n ≠ target ∧ n ∈ s.hookedMethods := fun n => by
    rw [hu.toRegistry]
    exact Finmap.mem_erase
  constructor
  · intro h' entryPoint he
    refine h' target entryPoint (by rw [hd]; exact he) fun ht => ?_
    exact ((hm target).1 ht).1 rfl
  · intro ht n entryPoint hn hnh
    rw [hd] at hn
    by_cases hnt : n = target
    · subst n
      exact ht entryPoint hn
    · exact h n entryPoint hn fun hh => hnh ((hm n).2 ⟨hnt, hh⟩)

/-- A method deoptimized while it is not hooked has a clean entry point. -/
theorem recordsClean_deoptimize {method : Option ArtMethodPtr} (hclean : UnhookedClean s)
    (h : RecordsClean s) : RecordsClean (deoptimize art s method).1 := by
  rcases deoptimize_cases art s method with ⟨-, he⟩ | ⟨m, -, -, -, he⟩ <;> rw [he]
  · exact h
  · -- emplace: only what had no record yet gets one
    intro n entryPoint hn hnh
    rw [(onlyHeap_setEntryPointsToInterpreter art _ _).toRegistry] at hn hnh
    simp only [Registry.recordDeoptimized, Table.lookup_emplace_eq] at hn
    split at hn
    · rename_i hnew
      obtain rfl := Option.some.inj hn
      rw [← hnew.1]
      exact hclean n hnh
    · exact h n entryPoint hn hnh

/-- **What a step does to the view.** -/
theorem recordsClean_step_iff (hclean : UnhookedClean s) (hA : admissible art s e)
    (hcall : e.hooksOrDeoptimizes = true) (h : RecordsClean s) :
    RecordsClean (step art s e) ↔ UnHooksUnrecorded s e := by
  cases e with
  | hook request =>
    refine iff_of_true ?_ trivial
    show RecordsClean (hookMethod art s request).1
    rcases hookMethod_cases art s request (backup_ne_target hA) with
      ⟨T, -, heq⟩ | ⟨target, stub, a, slot, s', heq, hh⟩ <;> rw [heq]
    · exact h
    · exact hh.recordsClean hclean h
  | unHook tm =>
    show RecordsClean (unHook art s tm).1 ↔ _
    rcases unHook_cases art s tm with ⟨heq, hnot⟩ | ⟨target, record, s', rfl, heq, hu⟩ <;> rw [heq]
    · exact iff_of_true h fun t ht hh => absurd hh (hnot t ht)
    · rw [hu.recordsClean_iff h]
      constructor
      · intro ht t htt _
        obtain rfl := Option.some.inj htt
        exact ht
      · intro ht
        exact ht target rfl (Table.mem_iff_lookup.2 ⟨record, hu.hooked⟩)
  | deoptimize method => exact iff_of_true (recordsClean_deoptimize hclean h) trivial
  | _ => cases hcall

/-! ## Runs -/

/-- **The view ART has of the boot image** is free of trampolines in every
state of a run of `Hook`, `UnHook` and `Deoptimize` if and only if no hook
of the run is taken out of a method a trampoline is recorded of, that is,
one deoptimized for the first time while it was hooked. -/
theorem showsUninstrumented_everywhere_iff {heap : ArtMethodPtr → ArtMethod} {mem : Memory}
    {ids : List ℕ} {owner : ℕ → ArtMethodPtr} {es : List Event}
    (hheap : ∀ m, ¬ (heap m).entryPoint.IsTrampoline)
    (hcalls : ∀ e ∈ es, e.hooksOrDeoptimizes = true)
    (hL : (machine art).Legal (State.initial heap mem ids owner) es) :
    (machine art).Everywhere (ShowsUninstrumented art) (State.initial heap mem ids owner) es ↔
      (machine art).EachStep UnHooksUnrecorded (State.initial heap mem ids owner) es := by
  -- no class is initialised in such a run, so no snapshot is ever pending
  have hsnap : ∀ s : State, s.backupMethods = ∅ → SnapshotsClean s := by
    intro s hs b _ th cd entryPoint h
    rw [snapshotEntry, hs] at h
    cases h
  have hinv : ∀ s e, (Coherent art s ∧ UnhookedClean s ∧ s.backupMethods = ∅) →
      (admissible art s e ∧ e.hooksOrDeoptimizes = true) →
      Coherent art (step art s e) ∧ UnhookedClean (step art s e) ∧
        (step art s e).backupMethods = ∅ := by
    rintro s e ⟨hc, hclean, hbm⟩ ⟨hA, hcall⟩
    have hmove : e.movesEntryPoints = false := by cases e <;> first | rfl | cases hcall
    have hinit : e.isInitialization = false := by cases e <;> first | rfl | cases hcall
    have hrearm : RearmsNothing art s e := by cases e <;> trivial
    exact ⟨coherent_step hc hA, unhookedClean_step hc (hsnap s hbm) hclean hA hmove hrearm,
      (backupMethods_step hA hinit).trans hbm⟩
  refine Machine.everywhere_iff_eachStep hinv ?_ ⟨coherent_initial, fun m _ => hheap m, rfl⟩
    ?_ ?_
  · rintro s e hQ ⟨hA, hcall⟩ hP
    obtain ⟨hc', hclean', -⟩ := hinv s e hQ ⟨hA, hcall⟩
    rw [showsUninstrumented_iff hQ.1 hQ.2.1] at hP
    rw [machine_step, showsUninstrumented_iff hc' hclean']
    exact recordsClean_step_iff hQ.2.1 hA hcall hP
  · rw [showsUninstrumented_iff coherent_initial fun m _ => hheap m]
    intro n entryPoint hn
    simp [State.initial, Registry.empty] at hn
  · exact Machine.eachStep_and.2 ⟨hL, Machine.eachStep_of_forall hcalls⟩

/-- A run it is about: a method deoptimized before it is hooked, and
unhooked again. -/
theorem showsUninstrumented_everywhere_sample :
    (machine sampleArt).Everywhere (ShowsUninstrumented sampleArt) (sampleState kAccPublic)
      [.deoptimize (some 110), sampleHook 110 210 211 (some 65536), .unHook (some 110)] :=
  (showsUninstrumented_everywhere_iff (fun m => not_isTrampoline_code) (by decide)
    (by decide)).2 (by decide)

/-- **A dead trampoline shown to ART**: hooked, deoptimized and unhooked, a
method is dressed up as the trampoline of the hook it no longer has. -/
theorem dead_trampoline_shown :
    let run := [sampleHook 110 210 211 (some 65536), .deoptimize (some 110), .unHook (some 110)]
    let s := (machine sampleArt).exec (sampleState kAccPublic) run
    (machine sampleArt).Legal (sampleState kAccPublic) run ∧
      ¬ ShowsUninstrumented sampleArt s := by
  intro run s
  have hrecorded : s.deoptimizedMethods.lookup 110 = some (.trampoline 65536) := by decide
  refine ⟨by decide, fun h => ?_⟩
  obtain ⟨order, ho⟩ := exists_mapOrder sampleArt s
  have hshown := h order ho 110 (Or.inr (Table.mem_iff_lookup.2 ⟨_, hrecorded⟩))
  rw [(dressUp_of_not_mem ho (by decide)).1, originalEntryPoint, hrecorded] at hshown
  exact hshown isTrampoline_trampoline

end LSPlant
