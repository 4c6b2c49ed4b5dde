import LSPlant.Coherence
/-!
# The method ids LSPlant calls the runtime through

`InitJNI` looks up the methods LSPlant itself needs and keeps their ids.
A hook on one of them would come back into LSPlant, so `HookMethod` puts
the id of the backup where the id of the target was and `UnHook` puts the
old one back. Each walks `kInternalMethods` and stops at the first id
that matches. That this keeps every variable right rests on the ids:
those looked up differ, and a backup is none of the methods looked up.
-/

namespace LSPlant

/-- **The variables `kInternalMethods` points to.** -/
inductive InternalMethod where
  | methodGetName
  | methodGetDeclaringClass
  | classGetName
  | classGetClassLoader
  | classGetDeclaredConstructors
  | classGetDeclaredMethods
  | dexFileInit
  | dexFileInitWithCl
  | loadClass
  | setAccessible
  | methodGetParameterTypes
  | methodGetReturnType
  | pathClassLoaderInit
  | unsafeGetIntMethod
  | unsafePutIntMethod
deriving DecidableEq

/-- `kInternalMethods`, in its order. -/
def kInternalMethods : List InternalMethod :=
  [.methodGetName, .methodGetDeclaringClass, .classGetName, .classGetClassLoader,
    .classGetDeclaredConstructors, .classGetDeclaredMethods, .dexFileInit, .dexFileInitWithCl,
    .loadClass, .setAccessible, .methodGetParameterTypes, .methodGetReturnType,
    .pathClassLoaderInit, .unsafeGetIntMethod, .unsafePutIntMethod]

theorem nodup_kInternalMethods : kInternalMethods.Nodup := by decide

theorem mem_kInternalMethods (v : InternalMethod) : v ∈ kInternalMethods := by
  cases v <;> decide

/-- **What `InitJNI` found**: the method of each variable, or none for one
that stays null. -/
abbrev Originals := InternalMethod → Option ArtMethodPtr

/-- The id a variable starts with. -/
def Originals.id (originals : Originals) (art : Art) (v : InternalMethod) : ℕ :=
  match originals v with
  | none => nullptr
  | some m => art.methodId m

/-- **The method id a variable is to hold**: that of the backup while the
variable's method is hooked, its own otherwise. -/
def Originals.currentId (originals : Originals) (art : Art) (s : State) (v : InternalMethod) : ℕ :=
  match originals v with
  | none => nullptr
  | some m =>
    match s.hookedMethods.lookup m with
    | some record => record.backupMethod
    | none => art.methodId m

/-- **Method ids name methods.** -/
structure MethodIds (art : Art) : Prop where
  injective : Function.Injective art.methodId
  ne_null : ∀ m, m ≠ nullptr → art.methodId m ≠ nullptr

/-- **What JNI promises of a `Hook`**: the id `BuildDex` reports is the
backup's, and the backup, of a class just built, is none of the methods
`InitJNI` looked up. -/
def Identified (art : Art) (originals : Originals) : Event → Prop
  | .hook request =>
    (∀ target ∈ request.target, target ≠ nullptr) ∧
      ∀ stub ∈ request.built, stub.backupMethod = art.methodId stub.backup ∧
        stub.backup ≠ nullptr ∧ ∀ v ∈ kInternalMethods, originals v ≠ some stub.backup
  | _ => True

instance (art : Art) (originals : Originals) : ∀ e, Decidable (Identified art originals e)
  | .hook request =>
    inferInstanceAs (Decidable ((∀ target ∈ request.target, target ≠ nullptr) ∧
      ∀ stub ∈ request.built, stub.backupMethod = art.methodId stub.backup ∧
        stub.backup ≠ nullptr ∧ ∀ v ∈ kInternalMethods, originals v ≠ some stub.backup))
  | .unHook _ | .setHookEnabled _ _ | .deoptimize _ | .updateMethodsCode _ _ _
  | .registerNative _ _ | .unregisterNative _ _ | .registerNatives _ _ _
  | .unregisterNatives _ _ _ | .backupClassMethods _ _ | .fixupStaticTrampolines _ _ _ _
  | .mapBootImageMethods _ _ | .collect => isTrue trivial

/-- A call of `Hook` or `UnHook`. -/
def Event.hooksOrUnhooks : Event → Bool
  | .hook _ | .unHook _ => true
  | _ => false

variable {art : Art} {originals : Originals} {s s' : State} {request : HookRequest}
  {target b : ArtMethodPtr} {stub : Stub} {record : HookRecord} {a slot : ℕ}

/-! ## The walk over the variables -/

/-- **The walk replaces the id it looks for** where one variable at most
holds it: stopping at the first match misses none. -/
theorem propagateInternalMethod_map {α : Type*} {f : α → ℕ} {old new : ℕ} {l : List α}
    (hnd : l.Nodup) (huniq : ∀ v ∈ l, ∀ w ∈ l, f v = old → f w = old → v = w) :
    propagateInternalMethod old new (l.map f) =
      l.map fun v => if f v = old then new else f v := by
  induction l with
  | nil => rfl
  | cons v l ih =>
    obtain ⟨hv, hnd⟩ := List.nodup_cons.1 hnd
    rw [List.map_cons, List.map_cons, propagateInternalMethod]
    by_cases h : f v = old
    · rw [if_pos h, if_pos h]
      congr 1
      refine List.map_congr_left fun w hw => ?_
      -- a second match would be the first variable over again
      have hne : f w ≠ old := fun hw' => hv <| by
        rw [huniq v List.mem_cons_self w (List.mem_cons_of_mem v hw) h hw']
        exact hw
      rw [if_neg hne]
    · rw [if_neg h, if_neg h]
      congr 1
      exact ih hnd fun w hw w' hw' => huniq w (List.mem_cons_of_mem v hw) w'
        (List.mem_cons_of_mem v hw')

theorem internalMethods_backupTo :
    (backupTo art s target b).internalMethods = s.internalMethods := by
  simp only [backupTo]
  split <;> rfl

theorem internalMethods_doHook {hook : ArtMethodPtr} {mmap : Option ℕ} {ok : Bool} :
    (doHook art s target hook b mmap ok).1.internalMethods = s.internalMethods := by
  unfold doHook
  split
  · rfl
  · exact internalMethods_backupTo

/-- What a successful `Hook` does to the variables. -/
theorem internalMethods_hookMethod (h : hookMethod art s request = (s', some b))
    (ht : request.target = some target) (hb : request.built = some stub) :
    s'.internalMethods =
      propagateInternalMethod (art.methodId target) stub.backupMethod s.internalMethods := by
  simp only [hookMethod, ht, hb] at h
  split_ifs at h with hpack habstract hdup hforeign
  · cases h
  · cases h
  · cases h
  · cases h
  rcases hdo : doHook art s target stub.hook stub.backup request.mmap request.mprotectOk with
    ⟨u, _ | slot⟩
  · rw [hdo] at h
    cases h
  · have hu := congrArg (fun p => p.1.internalMethods) hdo
    rw [internalMethods_doHook] at hu
    rw [hdo] at h
    obtain rfl := (Prod.mk.inj h).1
    rw [recordHook_eq, hu]

/-- What `UnHook` does to them. -/
theorem internalMethods_unHook (h : unHook art s (some target) = (s', true))
    (hr : s.hookedMethods.lookup target = some record) :
    s'.internalMethods =
      propagateInternalMethod record.backupMethod (art.methodId target) s.internalMethods := by
  simp only [unHook, hr] at h
  obtain rfl := (Prod.mk.inj h).1
  rfl

/-! ## The invariant -/

/-- **The variables follow the hooks**: each holds what it is to hold, no
null pointer is hooked, and what is recorded of a backup is its id. -/
structure IdsFollow (art : Art) (originals : Originals) (s : State) : Prop where
  values : s.internalMethods = kInternalMethods.map (originals.currentId art s)
  ne_null : ∀ t ∈ s.hookedMethods, t ≠ nullptr
  recorded : ∀ t record, s.hookedMethods.lookup t = some record →
    record.backupMethod = art.methodId record.backup ∧ record.backup ≠ nullptr ∧
      ∀ v, originals v ≠ some record.backup

theorem idsFollow_initial {heap : ArtMethodPtr → ArtMethod} {mem : Memory}
    {owner : ℕ → ArtMethodPtr} :
    IdsFollow art originals
      (State.initial heap mem (kInternalMethods.map (originals.id art)) owner) where
  values := by
    refine List.map_congr_left fun v _ => ?_
    unfold Originals.id Originals.currentId
    cases originals v <;> rfl
  ne_null t h := absurd h Finmap.notMem_empty
  recorded t record h := by simp [State.initial, Registry.empty] at h

/-- **Whose id a variable holds**: its method's, which is not hooked then,
or the backup's its method has. -/
theorem IdsFollow.currentId_eq_methodId (h : IdsFollow art originals s) (hids : MethodIds art)
    {m : ArtMethodPtr} (hm : m ≠ nullptr) {v : InternalMethod}
    (hv : originals.currentId art s v = art.methodId m) :
    (originals v = some m ∧ m ∉ s.hookedMethods) ∨
      ∃ n, originals v = some n ∧ s.isHooked n = some m := by
  unfold Originals.currentId at hv
  cases ho : originals v with
  | none =>
    rw [ho] at hv
    exact absurd hv.symm (hids.ne_null m hm)
  | some n =>
    rw [ho] at hv
    cases hr : s.hookedMethods.lookup n with
    | none =>
      simp only [hr] at hv
      obtain rfl := hids.injective hv
      exact Or.inl ⟨rfl, Finmap.lookup_eq_none.1 hr⟩
    | some record =>
      simp only [hr, (h.recorded n record hr).1] at hv
      obtain rfl := hids.injective hv
      exact Or.inr ⟨n, rfl, Registry.isHooked_eq_some.2 ⟨record, hr, rfl⟩⟩

/-- **A hook keeps the variables right.** -/
theorem Hooked.idsFollow (hh : Hooked art s request target stub a slot s')
    (hprop : s'.internalMethods =
      propagateInternalMethod (art.methodId target) stub.backupMethod s.internalMethods)
    (h : IdsFollow art originals s) (hc : Coherent art s) (hids : MethodIds art)
    (hdistinct : ∀ v w m, originals v = some m → originals w = some m → v = w)
    (hI : Identified art originals (.hook request)) : IdsFollow art originals s' := by
  obtain ⟨hid, hnn, hnew⟩ := hI.2 stub hh.built_eq
  have htn : target ≠ nullptr := hI.1 target hh.target_eq
  -- the target is no backup, so only its own variable can hold its id
  have hmatch : ∀ v, originals.currentId art s v = art.methodId target ↔
      originals v = some target := by
    intro v
    constructor
    · intro hv
      rcases h.currentId_eq_methodId hids htn hv with ⟨ho, -⟩ | ⟨n, -, hn⟩
      · exact ho
      · exact absurd (hc.mem_backuped.2 ⟨n, hn⟩) hh.notBackup
    · intro hv
      simp only [Originals.currentId, hv, Finmap.lookup_eq_none.2 hh.notHooked]
  refine ⟨?_, fun t ht => ?_, fun t record hr => ?_⟩
  · rw [hprop, h.values, propagateInternalMethod_map nodup_kInternalMethods
      fun v _ w _ hv hw => hdistinct v w target ((hmatch v).1 hv) ((hmatch w).1 hw)]
    refine List.map_congr_left fun v _ => ?_
    by_cases hv : originals v = some target
    · rw [if_pos ((hmatch v).2 hv)]
      simp only [Originals.currentId, hv, hh.hookedMethods, Table.lookup_insert_eq, if_true]
      rfl
    · rw [if_neg fun hm => hv ((hmatch v).1 hm)]
      unfold Originals.currentId
      cases ho : originals v with
      | none => rfl
      | some n =>
        have hne : n ≠ target := fun he => hv (by rw [ho, he])
        simp only [hh.hookedMethods, Table.lookup_insert_eq, if_neg hne]
  · rw [hh.hookedMethods, Finmap.mem_insert] at ht
    rcases ht with rfl | ht
    · exact htn
    · exact h.ne_null t ht
  · rw [hh.hookedMethods, Table.lookup_insert_eq] at hr
    split at hr
    · obtain rfl := Option.some.inj hr
      exact ⟨hid, hnn, fun v => hnew v (mem_kInternalMethods v)⟩
    · exact h.recorded t record hr

/-- **And so does taking one out.** -/
theorem UnHooked.idsFollow (hu : UnHooked art s target record s')
    (hprop : s'.internalMethods =
      propagateInternalMethod record.backupMethod (art.methodId target) s.internalMethods)
    (h : IdsFollow art originals s) (hc : Coherent art s) (hids : MethodIds art)
    (hdistinct : ∀ v w m, originals v = some m → originals w = some m → v = w) :
    IdsFollow art originals s' := by
  obtain ⟨hid, hnn, hnot⟩ := h.recorded target record hu.hooked
  -- no variable's method is the backup, so only the target's holds its id
  have hmatch : ∀ v, originals.currentId art s v = record.backupMethod ↔
      originals v = some target := by
    intro v
    constructor
    · intro hv
      rw [hid] at hv
      rcases h.currentId_eq_methodId hids hnn hv with ⟨ho, -⟩ | ⟨n, ho, hn⟩
      · exact absurd ho (hnot v)
      · rw [ho, hc.backup_injective hn hu.isHooked_target]
    · intro hv
      simp only [Originals.currentId, hv, hu.hooked]
  have hlookup : ∀ n, s'.hookedMethods.lookup n =
      if n = target then none else s.hookedMethods.lookup n := fun n => by
    rw [hu.toRegistry, Registry.recordUnhooked, Table.lookup_erase_eq]
  refine ⟨?_, fun t ht => ?_, fun t r hr => ?_⟩
  · rw [hprop, h.values, propagateInternalMethod_map nodup_kInternalMethods
      fun v _ w _ hv hw => hdistinct v w target ((hmatch v).1 hv) ((hmatch w).1 hw)]
    refine List.map_congr_left fun v _ => ?_
    by_cases hv : originals v = some target
    · rw [if_pos ((hmatch v).2 hv)]
      simp only [Originals.currentId, hv, hlookup, if_true]
    · rw [if_neg fun hm => hv ((hmatch v).1 hm)]
      unfold Originals.currentId
      cases ho : originals v with
      | none => rfl
      | some n =>
        have hne : n ≠ target := fun he => hv (by rw [ho, he])
        simp only [hlookup, if_neg hne]
  · rw [hu.toRegistry] at ht
    exact h.ne_null t (Finmap.mem_erase.1 ht).2
  · rw [hlookup] at hr
    split at hr
    · cases hr
    · exact h.recorded t r hr

/-- A state with the same hooks and the same variables. -/
theorem IdsFollow.congr (h : IdsFollow art originals s)
    (hm : s'.hookedMethods = s.hookedMethods)
    (hi : s'.internalMethods = s.internalMethods) : IdsFollow art originals s' where
  values := by
    rw [hi, h.values]
    unfold Originals.currentId
    rw [hm]
  ne_null := by
    rw [hm]
    exact h.ne_null
  recorded := by
    rw [hm]
    exact h.recorded

/-- **Every call of `Hook` or `UnHook` keeps the variables right**, whether
it succeeds or not. -/
theorem idsFollow_step {e : Event} (hids : MethodIds art)
    (hdistinct : ∀ v w m, originals v = some m → originals w = some m → v = w)
    (h : IdsFollow art originals s) (hc : Coherent art s) (hA : admissible art s e)
    (hcall : e.hooksOrUnhooks = true) (hI : Identified art originals e) :
    IdsFollow art originals (step art s e) := by
  cases e with
  | hook request =>
    show IdsFollow art originals (hookMethod art s request).1
    rcases hookMethod_cases art s request (backup_ne_target hA) with
      ⟨T, -, heq⟩ | ⟨target, stub, a, slot, s', heq, hh⟩
    · rw [heq]
      exact h.congr rfl rfl
    · have hprop := internalMethods_hookMethod heq hh.target_eq hh.built_eq
      rw [heq]
      exact hh.idsFollow hprop h hc hids hdistinct hI
  | unHook tm =>
    show IdsFollow art originals (unHook art s tm).1
    rcases unHook_cases art s tm with ⟨heq, -⟩ | ⟨target, record, s', rfl, heq, hu⟩
    · rw [heq]
      exact h
    · have hprop := internalMethods_unHook heq hu.hooked
      rw [heq]
      exact hu.idsFollow hprop h hc hids hdistinct
  | _ => cases hcall

/-- **The invariant over a run of `Hook` and `UnHook` calls.** -/
theorem idsFollow_exec {heap : ArtMethodPtr → ArtMethod} {mem : Memory}
    {owner : ℕ → ArtMethodPtr} {es : List Event} (hids : MethodIds art)
    (hdistinct : ∀ v w m, originals v = some m → originals w = some m → v = w)
    (hcalls : ∀ e ∈ es, e.hooksOrUnhooks = true)
    (hI : ∀ e ∈ es, Identified art originals e)
    (hL : (machine art).Legal
      (State.initial heap mem (kInternalMethods.map (originals.id art)) owner) es) :
    IdsFollow art originals ((machine art).exec
      (State.initial heap mem (kInternalMethods.map (originals.id art)) owner) es) := by
  have hrun := Machine.eachStep_and.2 ⟨hL, Machine.eachStep_and.2
    ⟨Machine.eachStep_of_forall hcalls, Machine.eachStep_of_forall hI⟩⟩
  refine (Machine.exec_of_eachStep
    (P := fun s => IdsFollow art originals s ∧ Coherent art s) ?_
    ⟨idsFollow_initial, coherent_initial⟩ hrun).1
  rintro s e ⟨h, hc⟩ ⟨hA, hcall, hid⟩
  exact ⟨idsFollow_step hids hdistinct h hc hA hcall hid, coherent_step hc hA⟩

/-- **The internal method ids follow the hooks.** After any `Hook` and
`UnHook` calls, in any order and on any methods, every variable of
`kInternalMethods` holds the id of the backup its method currently has,
or the id it was given at first if the method is not hooked. -/
theorem internalMethods_follow_hooks {heap : ArtMethodPtr → ArtMethod} {mem : Memory}
    {owner : ℕ → ArtMethodPtr} {es : List Event} (hids : MethodIds art)
    (hdistinct : ∀ v w m n, originals v = some m → originals w = some n →
      art.methodId m = art.methodId n → v = w)
    (hcalls : ∀ e ∈ es, e.hooksOrUnhooks = true)
    (hI : ∀ e ∈ es, Identified art originals e)
    (hL : (machine art).Legal
      (State.initial heap mem (kInternalMethods.map (originals.id art)) owner) es) :
    let s := (machine art).exec
      (State.initial heap mem (kInternalMethods.map (originals.id art)) owner) es
    s.internalMethods = kInternalMethods.map fun v =>
      match originals v with
      | none => nullptr
      | some m =>
        match s.hookedMethods.lookup m with
        | some record => record.backupMethod
        | none => art.methodId m :=
  (idsFollow_exec hids (fun v w m hv hw => hdistinct v w m m hv hw rfl) hcalls hI hL).values

/-- Method 110 for `Method.getName` and 120 for `ClassLoader.loadClass`,
and nothing else found. -/
def sampleOriginals : Originals
  | .methodGetName => some 110
  | .loadClass => some 120
  | _ => none

/-- A process in which they have just been looked up. -/
def sampleInitialized : State :=
  .initial (sampleHeap kAccPublic) (fun _ => 0)
    (kInternalMethods.map (sampleOriginals.id sampleArt)) id

theorem methodIds_sampleArt : MethodIds sampleArt :=
  ⟨fun _ _ h => h, fun _ h => h⟩

theorem sampleOriginals_distinct (v w : InternalMethod) (m n : ArtMethodPtr)
    (hv : sampleOriginals v = some m) (hw : sampleOriginals w = some n)
    (h : sampleArt.methodId m = sampleArt.methodId n) : v = w := by
  obtain rfl : m = n := h
  revert hv hw
  cases v <;> cases w <;> simp only [sampleOriginals] <;> grind

/-- A run it is about: both hooked, one hooked again after it was taken
out. -/
theorem internalMethods_follow_hooks_sample :
    ((machine sampleArt).exec sampleInitialized
      [sampleHook 110 210 211 (some 65536), sampleHook 120 220 221 none, .unHook (some 110),
        sampleHook 110 230 231 none]).internalMethods =
      [231, 0, 0, 0, 0, 0, 0, 0, 221, 0, 0, 0, 0, 0, 0] :=
  (internalMethods_follow_hooks methodIds_sampleArt sampleOriginals_distinct (by decide)
    (by decide) (by decide)).trans (by decide)

end LSPlant
