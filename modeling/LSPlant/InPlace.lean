import LSPlant.MapMethods
import LSPlant.NativeUpdate
import LSPlant.Restore
/-!
# Hooks stay in place

Four interceptors save, overwrite and restore the entry point of a hooked
method. Code updates and native registration always put it back. A class
restored puts back what its snapshot holds, which is the trampoline only
if the snapshot was taken while the present hook was in place, and keeps
what ART has written where there is no snapshot. Remapping the boot image
puts back what was recorded when the method was deoptimized, which is the
trampoline only if the method was hooked first.
-/

namespace LSPlant

variable {art : Art} {s s' : State} {t b m n : ArtMethodPtr} {e : Event}

/-- **The trampoline a method's latest successful `Hook` generated.** -/
def latestTrampoline (art : Art) (s : State) (address : ArtMethodPtr → ℕ) :
    Event → ArtMethodPtr → ℕ
  | .hook request => match request.target, request.built, (hookMethod art s request).2 with
    | some t, some stub, some _ =>
      match (generateTrampolineFor art s.trampolines stub.hook request.mmap
        request.mprotectOk).2 with
      | some (a, _) => Function.update address t a
      | none => address
    | _, _, _ => address
  | _ => address

/-- The machine, with the trampolines generated last. -/
abbrev hookMachine (art : Art) : Machine (State × (ArtMethodPtr → ℕ)) Event :=
  (machine art).withHistory (latestTrampoline art)

/-- **No hook is lost**: every hooked method has the trampoline of its
latest hook as entry point. -/
def InPlace (s : State) (address : ArtMethodPtr → ℕ) : Prop :=
  ∀ t ∈ s.hookedMethods, s.getEntryPoint t = .trampoline (address t)

/-- **The step finds no stale entry point of a hooked method.** A class is
restored: what its snapshots hold for a hooked method is what the method
has, and one they do not hold is not rewritten. The boot image is
remapped: what was recorded of a hooked method that is deoptimized is what
it has. -/
def FindsNothingStale (s : State) : Event → Prop
  | .fixupStaticTrampolines classDef self rewritten order => ∀ t ∈ s.hookedMethods,
    (∀ old ∈ pendingEntry s.backupMethods classDef self order t, old = s.getEntryPoint t) ∧
      (pendingEntry s.backupMethods classDef self order t = none →
        t ∉ rewritten.map Prod.fst)
  | .mapBootImageMethods _ _ => ∀ t ∈ s.hookedMethods,
    ∀ original ∈ s.deoptimizedMethods.lookup t, original = s.getEntryPoint t
  | _ => True

instance (s : State) : ∀ e, Decidable (FindsNothingStale s e)
  | .fixupStaticTrampolines classDef self rewritten order =>
    inferInstanceAs (Decidable (∀ t ∈ s.hookedMethods,
      (∀ old ∈ pendingEntry s.backupMethods classDef self order t, old = s.getEntryPoint t) ∧
        (pendingEntry s.backupMethods classDef self order t = none →
          t ∉ rewritten.map Prod.fst)))
  | .mapBootImageMethods _ _ =>
    inferInstanceAs (Decidable (∀ t ∈ s.hookedMethods,
      ∀ original ∈ s.deoptimizedMethods.lookup t, original = s.getEntryPoint t))
  | .hook _ | .unHook _ | .setHookEnabled _ _ | .deoptimize _ | .updateMethodsCode _ _ _
  | .registerNative _ _ | .unregisterNative _ _ | .registerNatives _ _ _
  | .unregisterNatives _ _ _ | .backupClassMethods _ _ | .collect => isTrue trivial

/-! ## Steps -/

/-- What is recorded for the interpreter is no hooked method's. -/
theorem getEntryPoint_deoptimize_hooked (hc : Coherent art s) (ht : t ∈ s.hookedMethods)
    {method : Option ArtMethodPtr} :
    (deoptimize art s method).1.getEntryPoint t = s.getEntryPoint t := by
  rcases deoptimize_cases art s method with ⟨-, he⟩ | ⟨n, -, -, -, he⟩ <;> rw [he]
  obtain ⟨c, hview⟩ := view_setEntryPointsToInterpreter art { s with
    toRegistry := s.recordDeoptimized (s.classDef art n) n (s.getEntryPoint n) } t
    (mayGetBackup s n)
  have hbody : t ≠ mayGetBackup s n := by
    intro ht'
    unfold mayGetBackup at ht'
    cases hn : s.isHooked n with
    | none =>
      rw [hn, Option.getD_none] at ht'
      exact Registry.isHooked_eq_none.1 hn (ht' ▸ ht)
    | some b =>
      rw [hn, Option.getD_some] at ht'
      exact hc.ne_backup ht hn ht'.symm
  rw [if_neg fun h => hbody h.1] at hview
  rw [← State.view_entryPoint, hview, State.view_entryPoint]
  rfl

/-- **A hooked method keeps its entry point** through every step that is
not a call, a restored class or a remapped boot image. -/
theorem getEntryPoint_step_hooked {address : ArtMethodPtr → ℕ} (hc : Coherent art s)
    (hP : InPlace s address) (ht : t ∈ s.hookedMethods) (hhook : e.isHooking = false)
    (hfix : ∀ c th r o, e ≠ .fixupStaticTrampolines c th r o)
    (hmap : ∀ r o, e ≠ .mapBootImageMethods r o) :
    (step art s e).getEntryPoint t = s.getEntryPoint t := by
  cases e with
  | hook request => cases hhook
  | unHook tm => cases hhook
  | setHookEnabled tm enabled => cases hhook
  | deoptimize method => exact getEntryPoint_deoptimize_hooked hc ht
  | updateMethodsCode m q i =>
    show (updateMethodsCode art s m q i).getEntryPoint t = _
    cases hm : s.isHooked m with
    | none =>
      rw [getEntryPoint_updateMethodsCode_unhooked hm, if_neg]
      rintro rfl
      exact Registry.isHooked_eq_none.1 hm ht
    | some b =>
      have hmem : m ∈ s.hookedMethods := Registry.mem_hookedMethods.2 ⟨b, hm⟩
      rw [getEntryPoint_updateMethodsCode_hooked hm (hc.ne_backup hmem hm)
        (by rw [hP m hmem]; exact fun h => EntryPoint.noConfusion h)]
      split
      · subst t; rfl
      · rw [if_neg fun h => hc.ne_backup ht hm h.1.symm]
  | registerNative m d => exact State.getEntryPoint_setData
  | unregisterNative m d => exact State.getEntryPoint_setData
  | registerNatives natives written order =>
    exact getEntryPoint_withUpdater_hooked hc recordOf_registeredMethods ht
  | unregisterNatives visited written order =>
    exact getEntryPoint_withUpdater_hooked hc recordOf_unregisteredMethods ht
  | backupClassMethods cd self =>
    exact congrArg (fun h => (h t).entryPoint) backupClassMethods_heap
  | fixupStaticTrampolines cd self r o => exact absurd rfl (hfix cd self r o)
  | mapBootImageMethods r o => exact absurd rfl (hmap r o)
  | collect =>
    exact getEntryPoint_moveObsoleteMethods

/-- **A restored class keeps every hook exactly when it finds nothing
stale.** -/
theorem inPlace_fixup_iff {address : ArtMethodPtr → ℕ} (hc : Coherent art s)
    (hP : InPlace s address) {cd : ClassDefPtr} {self : ThreadPtr}
    {rewritten : List (ArtMethodPtr × ℕ)} {order : RestoreOrder}
    (ho : order.Of s cd self) :
    InPlace (fixupStaticTrampolines art s cd self rewritten order) address ↔
      FindsNothingStale s (.fixupStaticTrampolines cd self rewritten order) := by
  have hs := sameRegistry_artInstall s rewritten
  have hbm := backupMethods_artInstall s rewritten
  have hmem : ∀ t, t ∈ (fixupStaticTrampolines art s cd self rewritten order).hookedMethods ↔
      t ∈ s.hookedMethods := fun t => by
    rw [SameRegistry.fixupStaticTrampolines.sameHooks.hookedMethods]
  have hentry : ∀ t ∈ s.hookedMethods,
      (fixupStaticTrampolines art s cd self rewritten order).getEntryPoint t =
        (pendingEntry s.backupMethods cd self order t).getD
          ((artInstall s rewritten).getEntryPoint t) := fun t ht => by
    rw [← hbm]
    exact getEntryPoint_restoreBackup_hooked (hc.congr hs.sameHooks) ho.artInstall
      (hs.sameHooks.hookedMethods ▸ ht)
  unfold InPlace FindsNothingStale
  simp only [hmem]
  refine forall₂_congr fun t ht => ?_
  rw [hentry t ht, ← hP t ht]
  cases pendingEntry s.backupMethods cd self order t with
  | some old => simp
  | none =>
    simp only [Option.getD_none, Option.mem_def, reduceCtorEq, false_implies, implies_true,
      true_and, forall_const]
    rcases getEntryPoint_artInstall s t rewritten with
      ⟨hn, he⟩ | ⟨hn, c, he⟩
    · exact ⟨fun _ => hn, fun _ => he⟩
    · rw [he, hP t ht]
      exact ⟨fun h => EntryPoint.noConfusion h, fun h => absurd hn h⟩

/-- **So does a remapped boot image.** -/
theorem inPlace_map_iff {address : ArtMethodPtr → ℕ} (hc : Coherent art s)
    {remapped : List (ArtMethodPtr × ℕ × ℕ)} {order : MapOrder} (ho : order.Of art s)
    (hP : InPlace s address) :
    InPlace (mapBootImageMethods art s remapped order) address ↔
      FindsNothingStale s (.mapBootImageMethods remapped order) := by
  have hmem : ∀ t, t ∈ (mapBootImageMethods art s remapped order).hookedMethods ↔
      t ∈ s.hookedMethods := fun t => by rw [SameHooks.mapBootImageMethods.hookedMethods]
  unfold InPlace FindsNothingStale
  simp only [hmem]
  refine forall₂_congr fun t ht => ?_
  rw [getEntryPoint_mapBootImageMethods_hooked hc ho ht, ← hP t ht, originalEntryPoint]
  cases s.deoptimizedMethods.lookup t with
  | none => exact ⟨fun _ _ h => (by cases h), fun _ => rfl⟩
  | some original =>
    exact ⟨fun h _ he => (Option.some.inj he) ▸ h, fun h => h original rfl⟩

variable {p : State × (ArtMethodPtr → ℕ)}

/-- **A hook is in place when it is made**, and leaves the others. -/
theorem Hooked.inPlace {request : HookRequest} {target : ArtMethodPtr} {stub : Stub} {a slot : ℕ}
    {address : ArtMethodPtr → ℕ} (hh : Hooked art s request target stub a slot s')
    (hbackup : stub.backup ∉ s.hookedMethods) (hP : InPlace s address) :
    InPlace s' (Function.update address target a) := by
  intro n hn
  rw [← State.view_entryPoint, hh.view]
  rw [hh.hookedMethods, Finmap.mem_insert] at hn
  split
  · subst n
    rw [Function.update_self]
  · rename_i hne
    have hold := hn.resolve_left hne
    have hnb : n ≠ stub.backup := fun he => hbackup (he ▸ hold)
    rw [if_neg hnb, Function.update_of_ne hne]
    exact hP n hold

theorem UnHooked.inPlace {target : ArtMethodPtr} {record : HookRecord} {address : ArtMethodPtr → ℕ}
    (hu : UnHooked art s target record s') (hP : InPlace s address) : InPlace s' address := by
  intro n hn
  rw [hu.toRegistry] at hn
  obtain ⟨hne, hold⟩ := Finmap.mem_erase.1 hn
  rw [← State.view_entryPoint, hu.view, if_neg hne]
  exact hP n hold

theorem inPlace_setHookEnabled {tm : Option ArtMethodPtr} {enabled : Bool}
    {address : ArtMethodPtr → ℕ} (hP : InPlace s address) :
    InPlace (setHookEnabled art s tm enabled).1 address := by
  intro n hn
  have hold : n ∈ s.hookedMethods := by
    rw [Registry.mem_hookedMethods] at hn ⊢
    simpa only [isHooked_setHookEnabled] using hn
  rw [← hP n hold]
  rcases setHookEnabled_cases art s tm enabled with
    ⟨h, -⟩ | ⟨t, record, -, -, ⟨-, h⟩ | ⟨-, h⟩⟩ <;> rw [h]
  rfl

/-- **A step keeps every hook in place exactly when it finds nothing
stale.** -/
theorem inPlace_step_iff (hc : Coherent art p.1) (hA : admissible art p.1 e)
    (hP : InPlace p.1 p.2) :
    InPlace ((hookMachine art).step p e).1 ((hookMachine art).step p e).2 ↔
      FindsNothingStale p.1 e := by
  cases hhook : e.isHooking with
  | true =>
    cases e with
    | hook request =>
      refine ⟨fun _ => trivial, fun _ => ?_⟩
      rcases hookMethod_cases art p.1 request (backup_ne_target hA) with
        ⟨T, -, h⟩ | ⟨target, stub, a, slot, s', h, hh⟩ <;>
        simp only [Machine.withHistory_step, machine_step, step, latestTrampoline, h]
      · cases request.target <;> cases request.built <;> exact hP
      · have hf := hA.1 target hh.target_eq stub hh.built_eq
        simp only [hh.target_eq, hh.built_eq, hh.generated]
        exact hh.inPlace hf.1.1 hP
    | unHook tm =>
      refine ⟨fun _ => trivial, fun _ => ?_⟩
      rcases unHook_cases art p.1 tm with ⟨h, -⟩ | ⟨target, record, s', -, h, hu⟩ <;>
        simp only [Machine.withHistory_step, machine_step, step, latestTrampoline, h]
      · exact hP
      · exact hu.inPlace hP
    | setHookEnabled tm enabled => exact ⟨fun _ => trivial, fun _ => inPlace_setHookEnabled hP⟩
    | _ => cases hhook
  | false =>
    by_cases hfix : ∃ c th r o, e = .fixupStaticTrampolines c th r o
    · obtain ⟨c, th, r, o, rfl⟩ := hfix
      exact inPlace_fixup_iff hc hP hA.2
    · by_cases hmap : ∃ r o, e = .mapBootImageMethods r o
      · obtain ⟨r, o, rfl⟩ := hmap
        exact inPlace_map_iff hc hA hP
      · have hkept : InPlace ((hookMachine art).step p e).1 ((hookMachine art).step p e).2 := by
          intro n hn
          have hold : n ∈ p.1.hookedMethods := (sameHooks_step hhook).hookedMethods ▸ hn
          have haddress : latestTrampoline art p.1 p.2 e = p.2 := by
            cases e with
            | hook request => cases hhook
            | _ => rfl
          simp only [Machine.withHistory_step, machine_step, haddress]
          rw [getEntryPoint_step_hooked hc hP hold hhook
            (fun c th r o he => hfix ⟨c, th, r, o, he⟩) (fun r o he => hmap ⟨r, o, he⟩)]
          exact hP n hold
        refine ⟨fun _ => ?_, fun _ => hkept⟩
        cases e with
        | fixupStaticTrampolines c th r o => exact absurd ⟨c, th, r, o, rfl⟩ hfix
        | mapBootImageMethods r o => exact absurd ⟨r, o, rfl⟩ hmap
        | _ => trivial

/-! ## Runs -/

/-- **Every hook is in place everywhere along a run exactly when no step of
the run finds a stale entry point of a hooked method.** -/
theorem inPlace_everywhere_iff {heap : ArtMethodPtr → ArtMethod} {mem : Memory} {ids : List ℕ}
    {owner : ℕ → ArtMethodPtr} {address : ArtMethodPtr → ℕ} {es : List Event}
    (hL : (machine art).Legal (State.initial heap mem ids owner) es) :
    (hookMachine art).Everywhere (fun p => InPlace p.1 p.2)
        (State.initial heap mem ids owner, address) es ↔
      (machine art).EachStep FindsNothingStale (State.initial heap mem ids owner) es := by
  have hL' := (Machine.withHistory_eachStep (latestTrampoline art)
    (State.initial heap mem ids owner, address)).2 hL
  have hstart : InPlace (State.initial heap mem ids owner) address := fun t ht =>
    absurd ht Finmap.notMem_empty
  refine Iff.trans ?_ (Machine.withHistory_eachStep (G := FindsNothingStale)
    (latestTrampoline art) (State.initial heap mem ids owner, address))
  exact Machine.everywhere_iff_eachStep (Q := fun p => Coherent art p.1)
    (fun p e hc hA => coherent_step hc hA) (fun p e hc hA hP => inPlace_step_iff hc hA hP)
    coherent_initial hstart hL'

/-- A run it is about: a static method is hooked, its class initialised
with ART rewriting it in between, and the boot image remapped. -/
theorem inPlace_everywhere_sample :
    (hookMachine sampleArt).Everywhere (fun p => InPlace p.1 p.2)
      (sampleState kAccStatic, fun _ => 0)
      [sampleHook 110 210 211 (some 65536), .backupClassMethods 2 5,
        .fixupStaticTrampolines 2 5 [(110, 77)] ⟨[5], [], [110]⟩,
        .mapBootImageMethods [(110, 0, 78)] ⟨[211], [110], [110, 211]⟩] := by
  exact (inPlace_everywhere_iff (by decide)).2 (by decide)

/-- **A hook is lost**: a method deoptimized and then hooked has its
original code back once the boot image has been remapped, while it is
still recorded as hooked. -/
theorem hook_lost_by_remapping :
    let run := [.deoptimize (some 110), sampleHook 110 210 211 (some 65536),
      .mapBootImageMethods [] ⟨[110, 211], [110], [110, 211]⟩]
    let p := (hookMachine sampleArt).exec (sampleState kAccPublic, fun _ => 0) run
    (machine sampleArt).Legal (sampleState kAccPublic) run ∧ p.1.isHooked 110 = some 211 ∧
      p.2 110 = 65536 ∧ p.1.getEntryPoint 110 = .code 1110 ∧ ¬ InPlace p.1 p.2 := by
  intro run p
  have hh : p.1.isHooked 110 = some 211 := by decide
  have he : p.1.getEntryPoint 110 = .code 1110 := by decide
  refine ⟨by decide, hh, by decide, he, fun hP => ?_⟩
  have h := hP 110 (Registry.mem_hookedMethods.2 ⟨211, hh⟩)
  rw [he] at h
  cases h

end LSPlant
