import LSPlant.Coherence
/-!
# Pending JIT movements

`Hook` queues a movement of compiled code from target to backup, and the
next collection of ART's code cache carries it out. `UnHook` leaves the
queue as it is: a method unhooked before the next collection still has
its movement pending, and the collection then takes compiled code, or the
data pointer, from a method that is no longer hooked. Where no `UnHook`
finds a movement of its method pending, pending movements are those of
live hooks and collections touch hooked methods only.
-/

namespace LSPlant

variable {art : Art} {s s' : State} {t b m : ArtMethodPtr} {e : Event}

/-- **Pending movements are those of live hooks.** -/
def MovementsLive (s : State) : Prop := ∀ p ∈ s.jitMovements, s.isHooked p.1 = some p.2

/-- **A collection spares the methods that are not hooked**: their data
pointers and their compiled code. -/
def CollectionSpares (art : Art) (s : State) : Prop :=
  ∀ m, m ∉ s.hookedMethods →
    (moveObsoleteMethods art s).getData m = s.getData m ∧
      ∀ code, s.codeOwner code = m → (moveObsoleteMethods art s).codeOwner code = m

/-- **No `UnHook` finds a movement of its method pending.** -/
def UnHooksSettled (s : State) : Event → Prop
  | .unHook (some t) => t ∈ s.hookedMethods → ∀ p ∈ s.jitMovements, p.1 ≠ t
  | _ => True

/-! ## What a collection does -/

/-- A movement touches the data pointer of its first method at most. -/
theorem getData_moveObsoleteMethod {p : ArtMethodPtr × ArtMethodPtr} (h : m ≠ p.1) :
    (moveObsoleteMethod art s p).getData m = s.getData m := by
  unfold moveObsoleteMethod
  split
  · rfl
  · rw [State.getData_setData, if_neg h, State.getData_setData]
    split
    · subst m; rfl
    · rfl

/-- And the compiled code of its first method. -/
theorem codeOwner_moveObsoleteMethod {p : ArtMethodPtr × ArtMethodPtr} {code : ℕ}
    (h : s.codeOwner code ≠ p.1) :
    (moveObsoleteMethod art s p).codeOwner code = s.codeOwner code := by
  unfold moveObsoleteMethod
  split
  · exact art.moveObsoleteMethod_other _ ‹_› _ _ _ _ h
  · rfl

/-- A list of movements, none of them of the method. -/
theorem moveObsoleteMethods_spares {movements : List (ArtMethodPtr × ArtMethodPtr)}
    (h : ∀ p ∈ movements, m ≠ p.1) :
    (movements.foldl (moveObsoleteMethod art) s).getData m = s.getData m ∧
      ∀ code, s.codeOwner code = m →
        (movements.foldl (moveObsoleteMethod art) s).codeOwner code = m := by
  induction movements generalizing s with
  | nil => exact ⟨rfl, fun _ h => h⟩
  | cons p movements ih =>
    have hp : m ≠ p.1 := h p List.mem_cons_self
    obtain ⟨hdata, hcode⟩ := ih (s := moveObsoleteMethod art s p)
      fun q hq => h q (List.mem_cons_of_mem p hq)
    refine ⟨hdata.trans (getData_moveObsoleteMethod hp), fun code hc => hcode code ?_⟩
    rw [codeOwner_moveObsoleteMethod (hc ▸ hp), hc]

/-- **With only live movements pending, a collection spares what is not
hooked.** -/
theorem MovementsLive.collectionSpares (h : MovementsLive s) : CollectionSpares art s := by
  intro m hm
  have hne : ∀ p ∈ s.jitMovements, m ≠ p.1 := fun p hp he =>
    hm (he ▸ Registry.mem_hookedMethods.2 ⟨p.2, h p hp⟩)
  exact moveObsoleteMethods_spares (s := { s with jitMovements := [] }) hne

/-! ## Steps -/

/-- No event but these three touches the queue. -/
theorem jitMovements_step (hh : e.isHooking = false) (hc : e ≠ .collect) :
    (step art s e).jitMovements = s.jitMovements := by
  cases e with
  | hook request => cases hh
  | unHook tm => cases hh
  | setHookEnabled tm enabled => cases hh
  | deoptimize method =>
    show (deoptimize art s method).1.jitMovements = _
    rcases deoptimize_cases art s method with ⟨-, he⟩ | ⟨n, -, -, -, he⟩ <;> rw [he]
    rw [SameRegistry.setEntryPointsToInterpreter.toRegistry]
    rfl
  | updateMethodsCode n q i =>
    exact congrArg Registry.jitMovements SameRegistry.updateMethodsCode.toRegistry
  | registerNative n d => rfl
  | unregisterNative n d => rfl
  | registerNatives natives written order =>
    exact congrArg Registry.jitMovements SameRegistry.withUpdater.toRegistry
  | unregisterNatives visited written order =>
    exact congrArg Registry.jitMovements SameRegistry.withUpdater.toRegistry
  | backupClassMethods cd self =>
    exact congrArg Registry.jitMovements backupClassMethods_toRegistry
  | fixupStaticTrampolines cd self rewritten order =>
    exact congrArg Registry.jitMovements SameRegistry.fixupStaticTrampolines.toRegistry
  | mapBootImageMethods remapped order =>
    refine mapBootImageMethods_induction (P := fun u : State => u.jitMovements = s.jitMovements)
      (fun u hu => congrArg Registry.jitMovements hu.toRegistry) fun u n saved hu => ?_
    rcases toRegistry_dressDown art u n saved with h | h <;> rw [h] <;> exact hu
  | collect => exact absurd rfl hc

/-- A hook's own movement is live, and no other is of its method. -/
theorem Hooked.movementsLive {request : HookRequest} {target : ArtMethodPtr} {stub : Stub}
    {a slot : ℕ} (hh : Hooked art s request target stub a slot s') (hP : MovementsLive s) :
    MovementsLive s' := by
  have hold : ∀ p ∈ s.jitMovements, s'.isHooked p.1 = some p.2 := by
    intro p hp
    have hne : p.1 ≠ target := fun he =>
      hh.notHooked (he ▸ Registry.mem_hookedMethods.2 ⟨p.2, hP p hp⟩)
    rw [hh.isHooked_eq, if_neg hne]
    exact hP p hp
  intro p hp
  rw [hh.jitMovements] at hp
  split at hp
  · exact hold p hp
  · rcases List.mem_append.1 hp with hp | hp
    · exact hold p hp
    · obtain rfl := List.mem_singleton.1 hp
      exact hh.isHooked_eq.trans (if_pos rfl)

/-- **An `UnHook` leaves the movements queued**, those of its method too. -/
theorem UnHooked.movementsLive_iff {target : ArtMethodPtr} {record : HookRecord}
    (hu : UnHooked art s target record s') (hP : MovementsLive s) :
    MovementsLive s' ↔ ∀ p ∈ s.jitMovements, p.1 ≠ target := by
  have hqueue : s'.jitMovements = s.jitMovements := by
    rw [hu.toRegistry]
    rfl
  constructor
  · intro hlive p hp he
    have hnone := hlive p (hqueue ▸ hp)
    rw [hu.isHooked_eq, if_pos he] at hnone
    cases hnone
  · intro hsettled p hp
    have hold : p ∈ s.jitMovements := hqueue ▸ hp
    rw [hu.isHooked_eq, if_neg (hsettled p hold)]
    exact hP p hold

theorem movementsLive_setHookEnabled {tm : Option ArtMethodPtr} {enabled : Bool}
    (hP : MovementsLive s) : MovementsLive (setHookEnabled art s tm enabled).1 := by
  intro p hp
  have hqueue : (setHookEnabled art s tm enabled).1.jitMovements = s.jitMovements := by
    rcases setHookEnabled_cases art s tm enabled with
      ⟨h, -⟩ | ⟨n, record, -, -, ⟨-, h⟩ | ⟨-, h⟩⟩ <;> rw [h]
  rw [hqueue] at hp
  exact isHooked_setHookEnabled.trans (hP p hp)

/-- **A step keeps pending movements live exactly when it unhooks no method
with one pending.** -/
theorem movementsLive_step_iff (hA : admissible art s e) (hP : MovementsLive s) :
    MovementsLive (step art s e) ↔ UnHooksSettled s e := by
  by_cases hcollect : e = .collect
  · subst hcollect
    refine ⟨fun _ => trivial, fun _ p hp => ?_⟩
    have hnil : (step art s .collect).jitMovements = [] :=
      congrArg Registry.jitMovements
        (SameRegistry.foldl (fun _ _ => SameHooks.moveObsoleteMethod) s.jitMovements
          { s with jitMovements := [] }).toRegistry
    rw [hnil] at hp
    cases hp
  · cases hhook : e.isHooking with
    | false =>
      have hlive : MovementsLive (step art s e) := fun p hp => by
        rw [jitMovements_step hhook hcollect] at hp
        rw [Registry.isHooked, (sameHooks_step hhook).hookedMethods]
        exact hP p hp
      refine ⟨fun _ => ?_, fun _ => hlive⟩
      cases e <;> trivial
    | true =>
      cases e with
      | hook request =>
        refine ⟨fun _ => trivial, fun _ => ?_⟩
        show MovementsLive (hookMethod art s request).1
        rcases hookMethod_cases art s request (backup_ne_target hA) with
          ⟨T, -, h⟩ | ⟨target, stub, a, slot, s', h, hh⟩ <;> rw [h]
        · exact hP
        · exact hh.movementsLive hP
      | unHook tm =>
        show MovementsLive (unHook art s tm).1 ↔ _
        rcases unHook_cases art s tm with ⟨h, hn⟩ | ⟨target, record, s', rfl, h, hu⟩ <;> rw [h]
        · refine ⟨fun _ => ?_, fun _ => hP⟩
          cases tm with
          | none => trivial
          | some t => exact fun ht => absurd ht (hn t rfl)
        · have ht : target ∈ s.hookedMethods := Table.mem_iff_lookup.2 ⟨record, hu.hooked⟩
          exact (hu.movementsLive_iff hP).trans ⟨fun h _ => h, fun h => h ht⟩
      | setHookEnabled tm enabled =>
        exact ⟨fun _ => trivial, fun _ => movementsLive_setHookEnabled hP⟩
      | _ => cases hhook

/-! ## Runs -/

/-- **Pending movements are live, and collections spare what is not hooked,
everywhere along a run exactly when no `UnHook` of the run finds a
movement of its method pending.** -/
theorem movementsLive_everywhere_iff {heap : ArtMethodPtr → ArtMethod} {mem : Memory}
    {ids : List ℕ} {owner : ℕ → ArtMethodPtr} {es : List Event}
    (hL : (machine art).Legal (State.initial heap mem ids owner) es) :
    (machine art).Everywhere (fun s => MovementsLive s ∧ CollectionSpares art s)
        (State.initial heap mem ids owner) es ↔
      (machine art).EachStep UnHooksSettled (State.initial heap mem ids owner) es := by
  have hstart : MovementsLive (State.initial heap mem ids owner) := fun p hp => by cases hp
  have hiff := Machine.everywhere_iff_eachStep (M := machine art) (Q := fun _ => True)
    (G := admissible art) (H := UnHooksSettled) (P := MovementsLive) (fun _ _ _ _ => trivial)
    (fun s e _ hA hP => movementsLive_step_iff hA hP) trivial hstart hL
  constructor
  · exact fun h => hiff.1 (h.mono fun s hs => hs.1)
  · exact fun h => (hiff.2 h).mono fun s hs => ⟨hs, hs.collectionSpares⟩

/-- A run it is about: a hook, the collection that settles it, and only
then the method unhooked. -/
theorem movementsLive_everywhere_sample :
    (machine sampleArt).Everywhere (fun s => MovementsLive s ∧ CollectionSpares sampleArt s)
      (sampleState kAccPublic)
      [sampleHook 110 210 211 (some 65536), .collect, .unHook (some 110)] :=
  (movementsLive_everywhere_iff (by decide)).2
    ⟨trivial, trivial, fun _ => by decide, trivial⟩

/-- **A movement outlives its hook**: hooked, unhooked and then collected,
a method has its compiled code taken by what was its backup. -/
theorem movement_outlives_hook :
    let run := [sampleHook 110 210 211 (some 65536), .unHook (some 110)]
    let s := (machine sampleArt).exec (sampleState kAccPublic) run
    (machine sampleArt).Legal (sampleState kAccPublic) run ∧ s.isHooked 110 = none ∧
      s.jitMovements = [(110, 211)] ∧ s.codeOwner 110 = 110 ∧
      (moveObsoleteMethods sampleArt s).codeOwner 110 = 211 ∧
      ¬ MovementsLive s ∧ ¬ CollectionSpares sampleArt s := by
  intro run s
  have hnone : s.isHooked 110 = none := by decide
  have hqueue : s.jitMovements = [(110, 211)] := by decide
  have howner : (moveObsoleteMethods sampleArt s).codeOwner 110 = 211 := by decide
  refine ⟨by decide, hnone, hqueue, by decide, howner, fun hlive => ?_, fun hspares => ?_⟩
  · have h := hlive (110, 211) (by rw [hqueue]; exact List.mem_singleton.2 rfl)
    rw [hnone] at h
    cases h
  · have h := (hspares 110 (Registry.isHooked_eq_none.1 hnone)).2 110 (by decide)
    rw [howner] at h
    exact absurd h (by decide)

end LSPlant
