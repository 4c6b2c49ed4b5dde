import LSPlant.MapMethods
import LSPlant.NativeUpdate
/-!
# Deoptimization lasts

`Deoptimize` sets a method's body, the method or its backup, to the
interpreter bridge and records the method; `Hook` records the backup it
makes. The body is deoptimized from then on, whatever is hooked and
unhooked. Its entry point leaves the bridge only where it is restored or
remapped: a snapshot older than the deoptimization is written back where
ART left the bridge, and the boot image is remapped with the backup
visited before its target, whose original code then goes to the backup.
-/

namespace LSPlant

variable {art : Art} {s s' : State} {t b m n : ArtMethodPtr} {e : Event}

/-! ## What is recorded of backups -/

/-- **Every backup is recorded as deoptimized**, and is of its target's
kind. -/
structure BackupsRecorded (s : State) : Prop where
  deoptimized : ∀ t b, s.isHooked t = some b → s.isDeoptimized b
  kind : ∀ t b, s.isHooked t = some b → (s.view b).kind = (s.view t).kind

/-- **What is deoptimized stays deoptimized.** -/
theorem isDeoptimized_step (hA : admissible art s e) (h : s.isDeoptimized n) :
    (step art s e).isDeoptimized n := by
  have hsame : ∀ u, SameRegistry s u → u.isDeoptimized n := fun u hu => by
    rw [hu.toRegistry]
    exact h
  cases e with
  | hook request =>
    show (hookMethod art s request).1.isDeoptimized n
    rcases hookMethod_cases art s request (backup_ne_target hA) with
      ⟨T, -, he⟩ | ⟨target, stub, a, slot, s', he, hh⟩ <;> rw [he]
    · exact h
    · show n ∈ s'.deoptimizedMethods
      rw [hh.deoptimizedMethods, Table.mem_emplace]
      exact Or.inr h
  | unHook tm =>
    show (unHook art s tm).1.isDeoptimized n
    rcases unHook_cases art s tm with ⟨he, -⟩ | ⟨target, record, s', -, he, hu⟩ <;> rw [he]
    · exact h
    · rw [hu.toRegistry]
      exact h
  | setHookEnabled tm enabled =>
    show (setHookEnabled art s tm enabled).1.isDeoptimized n
    rcases setHookEnabled_cases art s tm enabled with
      ⟨he, -⟩ | ⟨m, record, -, -, ⟨-, he⟩ | ⟨-, he⟩⟩ <;> rw [he] <;> exact h
  | deoptimize method =>
    show (deoptimize art s method).1.isDeoptimized n
    rcases deoptimize_cases art s method with ⟨-, he⟩ | ⟨m, -, -, -, he⟩ <;> rw [he]
    · exact h
    · rw [SameRegistry.setEntryPointsToInterpreter.toRegistry]
      exact Table.mem_emplace.2 (Or.inr h)
  | updateMethodsCode m q i => exact hsame _ SameRegistry.updateMethodsCode
  | registerNative m d => exact h
  | unregisterNative m d => exact h
  | registerNatives natives written order => exact hsame _ SameRegistry.withUpdater
  | unregisterNatives visited written order => exact hsame _ SameRegistry.withUpdater
  | backupClassMethods cd self => exact hsame _ SameRegistry.backupClassMethods
  | fixupStaticTrampolines cd self rewritten order =>
    exact hsame _ SameRegistry.fixupStaticTrampolines
  | mapBootImageMethods remapped order =>
    refine mapBootImageMethods_induction (P := fun u : State => u.isDeoptimized n) hsame
      fun u m saved hu => ?_
    rcases toRegistry_dressDown art u m saved with h | h <;> rw [h]
    · exact hu
    · exact Finmap.mem_insert.2 (Or.inr hu)
  | collect =>
    have hmove : ∀ (l : List (ArtMethodPtr × ArtMethodPtr)) (u : State), u.isDeoptimized n →
        (l.foldl (moveObsoleteMethod art) u).isDeoptimized n := by
      intro l u hu
      rw [(SameRegistry.foldl (fun _ _ => SameHooks.moveObsoleteMethod) l u).toRegistry]
      exact hu
    exact hmove s.jitMovements { s with jitMovements := [] } h

/-- Nor does its kind change: the one method a step makes another kind of
is a fresh backup. -/
theorem kind_step (hA : admissible art s e) (h : s.isDeoptimized n) :
    ((step art s e).view n).kind = (s.view n).kind := by
  cases hcall : e.isHooking with
  | false => exact ((sameHooks_step hcall).methods n).1
  | true =>
    cases e with
    | hook request =>
      show ((hookMethod art s request).1.view n).kind = _
      rcases hookMethod_cases art s request (backup_ne_target hA) with
        ⟨T, -, he⟩ | ⟨target, stub, a, slot, s', he, hh⟩ <;> rw [he]
      · rfl
      · have hf := hA.1 target hh.target_eq stub hh.built_eq
        have hnb : n ≠ stub.backup := fun hc => hf.1.2.2.1 (hc ▸ h)
        rw [hh.view, if_neg hnb]
        split
        · subst n; rfl
        · rfl
    | unHook tm =>
      show ((unHook art s tm).1.view n).kind = _
      rcases unHook_cases art s tm with ⟨he, -⟩ | ⟨target, record, s', -, he, hu⟩ <;> rw [he]
      rw [hu.view]
      split
      · subst n; rfl
      · rfl
    | setHookEnabled tm enabled =>
      show ((setHookEnabled art s tm enabled).1.view n).kind = _
      rcases setHookEnabled_cases art s tm enabled with
        ⟨he, -⟩ | ⟨m, record, -, -, ⟨-, he⟩ | ⟨-, he⟩⟩
      · rw [he]
      · rw [he]
      · rw [he]; rfl
    | _ => cases hcall

/-- Hooking records its backup, of the target's kind. -/
theorem Hooked.backupsRecorded {request : HookRequest} {target : ArtMethodPtr} {stub : Stub}
    {a slot : ℕ} (h : Hooked art s request target stub a slot s') (hc : Coherent art s)
    (hf : stub.Fresh art s target) (hr : BackupsRecorded s) : BackupsRecorded s' := by
  have hold : ∀ t b, s.isHooked t = some b → t ≠ target → t ≠ stub.backup ∧ b ≠ target ∧
      b ≠ stub.backup := by
    intro t b hb ht
    refine ⟨?_, ?_, ?_⟩
    · rintro rfl
      exact hf.1.1 (Registry.mem_hookedMethods.2 ⟨b, hb⟩)
    · rintro rfl
      exact h.notBackup (hc.mem_backuped.2 ⟨t, hb⟩)
    · rintro rfl
      exact hf.1.2.1 (hc.mem_backuped.2 ⟨t, hb⟩)
  constructor
  · intro t b hb
    show b ∈ s'.deoptimizedMethods
    rw [h.isHooked_eq] at hb
    rw [h.deoptimizedMethods, Table.mem_emplace]
    split at hb
    · exact Or.inl (Option.some.inj hb).symm
    · exact Or.inr (hr.deoptimized t b hb)
  · intro t b hb
    rw [h.isHooked_eq] at hb
    split at hb
    · rename_i ht
      obtain rfl := Option.some.inj hb
      rw [h.view, h.view, if_neg hf.2.1, if_pos rfl, if_pos ht]
    · rename_i ht
      obtain ⟨h1, h2, h3⟩ := hold t b hb ht
      rw [h.view, h.view, if_neg h2, if_neg h3, if_neg ht, if_neg h1]
      exact hr.kind t b hb

theorem UnHooked.backupsRecorded {target : ArtMethodPtr} {record : HookRecord}
    (h : UnHooked art s target record s') (hc : Coherent art s) (hr : BackupsRecorded s) :
    BackupsRecorded s' := by
  have hold : ∀ t b, s'.isHooked t = some b → t ≠ target ∧ s.isHooked t = some b := by
    intro t b hb
    rw [h.isHooked_eq] at hb
    split at hb
    · cases hb
    · exact ⟨‹_›, hb⟩
  constructor
  · intro t b hb
    rw [h.toRegistry]
    exact hr.deoptimized t b (hold t b hb).2
  · intro t b hb
    obtain ⟨ht, hb⟩ := hold t b hb
    have hbt : b ≠ target :=
      hc.ne_backup (Registry.mem_hookedMethods.2 ⟨_, h.isHooked_target⟩) hb
    rw [h.view, h.view, if_neg hbt, if_neg ht]
    exact hr.kind t b hb

theorem backupsRecorded_step (hc : Coherent art s) (hA : admissible art s e)
    (hr : BackupsRecorded s) : BackupsRecorded (step art s e) := by
  have hgrow : ∀ b, s.isDeoptimized b → (step art s e).isDeoptimized b :=
    fun b => isDeoptimized_step hA
  cases hcall : e.isHooking with
  | false =>
    have hs : SameHooks s (step art s e) := sameHooks_step hcall
    have hh : ∀ t, (step art s e).isHooked t = s.isHooked t := fun t => by
      rw [Registry.isHooked, hs.hookedMethods]; rfl
    constructor
    · intro t b hb
      rw [hh] at hb
      exact hgrow b (hr.deoptimized t b hb)
    · intro t b hb
      rw [hh] at hb
      rw [(hs.methods b).1, (hs.methods t).1]
      exact hr.kind t b hb
  | true =>
    cases e with
    | hook request =>
      rcases hookMethod_cases art s request (backup_ne_target hA) with
        ⟨T, -, he⟩ | ⟨target, stub, a, slot, s', he, hh⟩
      · show BackupsRecorded (hookMethod art s request).1
        rw [he]
        exact ⟨hr.deoptimized, hr.kind⟩
      · show BackupsRecorded (hookMethod art s request).1
        rw [he]
        exact hh.backupsRecorded hc (hA.1 target hh.target_eq stub hh.built_eq) hr
    | unHook tm =>
      show BackupsRecorded (unHook art s tm).1
      rcases unHook_cases art s tm with ⟨he, -⟩ | ⟨target, record, s', -, he, hu⟩ <;> rw [he]
      · exact hr
      · exact hu.backupsRecorded hc hr
    | setHookEnabled tm enabled =>
      have hh : ∀ t, (setHookEnabled art s tm enabled).1.isHooked t = s.isHooked t :=
        fun t => isHooked_setHookEnabled
      have hv : ∀ t, (setHookEnabled art s tm enabled).1.view t = s.view t := fun t => by
        rcases setHookEnabled_cases art s tm enabled with
          ⟨he, -⟩ | ⟨m, record, -, -, ⟨-, he⟩ | ⟨-, he⟩⟩
        · rw [he]
        · rw [he]
        · rw [he]; rfl
      constructor
      · intro t b hb
        exact hgrow b (hr.deoptimized t b ((hh t).symm.trans hb))
      · intro t b hb
        exact (congrArg ArtMethod.View.kind (hv b)).trans
          ((hr.kind t b ((hh t).symm.trans hb)).trans
            (congrArg ArtMethod.View.kind (hv t)).symm)
    | _ => cases hcall

/-! ## The body of a deoptimized method -/

/-- **The method's own body runs in the interpreter**: the method if it is
not hooked, its backup if it is. -/
def Interpreted (art : Art) (t : ArtMethodPtr) (s : State) : Prop :=
  s.getEntryPoint (mayGetBackup s t) = .code art.artQuickToInterpreterBridge

instance (art : Art) (t : ArtMethodPtr) (s : State) : Decidable (Interpreted art t s) :=
  inferInstanceAs (Decidable (_ = _))

/-- What holds of a deoptimized method in every state to come. -/
structure Deoptimized (art : Art) (t : ArtMethodPtr) (s : State) : Prop where
  coherent : Coherent art s
  recorded : BackupsRecorded s
  deoptimized : s.isDeoptimized t
  notNative : (s.heap t).isNative = false

/-- **The step keeps the body where it is.** The code of an update is not
installed on it by way of the bridge, nor sent there from a target. A class
is restored: the body is in a snapshot that holds the bridge, or ART has
left something else there; or it is in none and ART has left the bridge;
and no target sends what ART left. The boot image is remapped: a target of
the body comes before it, or shows the bridge when ART is done. -/
def KeepsBridge (art : Art) (t : ArtMethodPtr) (s : State) : Event → Prop
  | .updateMethodsCode m quickCode installed =>
    (m = mayGetBackup s t → quickCode = art.artQuickToInterpreterBridge → installed = quickCode) ∧
      (s.isHooked m = some (mayGetBackup s t) → ¬ s.isDeoptimized m →
        quickCode = art.artQuickToInterpreterBridge)
  | .fixupStaticTrampolines classDef self rewritten order =>
    (∀ old ∈ pendingEntry s.backupMethods classDef self order (mayGetBackup s t),
        (artInstall s rewritten).getEntryPoint (mayGetBackup s t) =
            .code art.artQuickToInterpreterBridge →
          old = .code art.artQuickToInterpreterBridge) ∧
      (pendingEntry s.backupMethods classDef self order (mayGetBackup s t) = none →
        (artInstall s rewritten).getEntryPoint (mayGetBackup s t) =
          .code art.artQuickToInterpreterBridge) ∧
      ∀ m ∈ s.hookedMethods, s.isHooked m = some (mayGetBackup s t) → ¬ s.isDeoptimized m →
        ∀ old ∈ pendingEntry s.backupMethods classDef self order m,
          (artInstall s rewritten).getEntryPoint m = old
  | .mapBootImageMethods remapped order => ∀ m ∈ s.hookedMethods,
    s.isHooked m = some (mayGetBackup s t) →
      order.saved.idxOf m < order.saved.idxOf (mayGetBackup s t) ∨
        (lastRemapped m remapped).elim (originalEntryPoint s (mayGetBackup s t)) .code =
          .code art.artQuickToInterpreterBridge
  | _ => True

instance (art : Art) (t : ArtMethodPtr) (s : State) : ∀ e, Decidable (KeepsBridge art t s e)
  | .updateMethodsCode m quickCode installed =>
    inferInstanceAs (Decidable ((m = mayGetBackup s t →
      quickCode = art.artQuickToInterpreterBridge → installed = quickCode) ∧
        (s.isHooked m = some (mayGetBackup s t) → ¬ s.isDeoptimized m →
          quickCode = art.artQuickToInterpreterBridge)))
  | .fixupStaticTrampolines classDef self rewritten order =>
    inferInstanceAs (Decidable (
      (∀ old ∈ pendingEntry s.backupMethods classDef self order (mayGetBackup s t),
        (artInstall s rewritten).getEntryPoint (mayGetBackup s t) =
            .code art.artQuickToInterpreterBridge →
          old = .code art.artQuickToInterpreterBridge) ∧
      (pendingEntry s.backupMethods classDef self order (mayGetBackup s t) = none →
        (artInstall s rewritten).getEntryPoint (mayGetBackup s t) =
          .code art.artQuickToInterpreterBridge) ∧
      ∀ m ∈ s.hookedMethods, s.isHooked m = some (mayGetBackup s t) → ¬ s.isDeoptimized m →
        ∀ old ∈ pendingEntry s.backupMethods classDef self order m,
          (artInstall s rewritten).getEntryPoint m = old))
  | .mapBootImageMethods remapped order =>
    inferInstanceAs (Decidable (∀ m ∈ s.hookedMethods,
      s.isHooked m = some (mayGetBackup s t) →
        order.saved.idxOf m < order.saved.idxOf (mayGetBackup s t) ∨
          (lastRemapped m remapped).elim (originalEntryPoint s (mayGetBackup s t)) .code =
            .code art.artQuickToInterpreterBridge))
  | .hook _ | .unHook _ | .setHookEnabled _ _ | .deoptimize _ | .registerNative _ _
  | .unregisterNative _ _ | .registerNatives _ _ _ | .unregisterNatives _ _ _
  | .backupClassMethods _ _ | .collect => isTrue trivial

namespace Deoptimized

variable (h : Deoptimized art t s)
include h

/-- The body is recorded as well, and is not native either. -/
theorem body : s.isDeoptimized (mayGetBackup s t) ∧
    (s.heap (mayGetBackup s t)).isNative = false := by
  cases ht : s.isHooked t with
  | none =>
    rw [mayGetBackup_of_unhooked ht]
    exact ⟨h.deoptimized, h.notNative⟩
  | some b =>
    rw [mayGetBackup_of_hooked ht]
    refine ⟨h.recorded.deoptimized t b ht, ?_⟩
    rw [ArtMethod.isNative_congr (h.recorded.kind t b ht)]
    exact h.notNative

/-- The body is not hooked. -/
theorem body_not_mem : mayGetBackup s t ∉ s.hookedMethods :=
  Registry.isHooked_eq_none.1 h.coherent.isHooked_mayGetBackup

/-- **A hook keeps the body interpreted**: of the method itself, it moves
the body to the backup. -/
theorem interpreted_hook {request : HookRequest} {target : ArtMethodPtr} {stub : Stub}
    {a slot : ℕ} (hh : Hooked art s request target stub a slot s')
    (hf : stub.Fresh art s target) (hP : Interpreted art t s) : Interpreted art t s' := by
  unfold Interpreted at hP ⊢
  by_cases htt : t = target
  · have hnone : s.isHooked t = none := Registry.isHooked_eq_none.2 (htt ▸ hh.notHooked)
    have hb : s'.isHooked t = some stub.backup := by rw [hh.isHooked_eq, if_pos htt]
    rw [mayGetBackup_of_unhooked hnone] at hP
    rw [mayGetBackup_of_hooked hb, ← State.view_entryPoint, hh.view, if_neg hf.2.1, if_pos rfl,
      ← htt]
    exact hP
  · have hbody : mayGetBackup s' t = mayGetBackup s t := by
      rw [mayGetBackup, hh.isHooked_eq, if_neg htt]; rfl
    have hnb : mayGetBackup s t ≠ stub.backup := fun he =>
      hf.1.2.2.1 (he ▸ h.body.1)
    have hnt : mayGetBackup s t ≠ target := by
      cases ht : s.isHooked t with
      | none => rw [mayGetBackup_of_unhooked ht]; exact htt
      | some b =>
        rw [mayGetBackup_of_hooked ht]
        rintro rfl
        exact hh.notBackup (h.coherent.mem_backuped.2 ⟨t, ht⟩)
    rw [hbody, ← State.view_entryPoint, hh.view, if_neg hnt, if_neg hnb]
    exact hP

/-- **So does an unhook**: of the method itself, it moves the body back. -/
theorem interpreted_unHook {target : ArtMethodPtr} {record : HookRecord}
    (hu : UnHooked art s target record s') (hP : Interpreted art t s) :
    Interpreted art t s' := by
  unfold Interpreted at hP ⊢
  by_cases htt : t = target
  · have hnone : s'.isHooked t = none := by rw [hu.isHooked_eq, if_pos htt]
    rw [mayGetBackup_of_hooked (htt ▸ hu.isHooked_target)] at hP
    rw [mayGetBackup_of_unhooked hnone, ← State.view_entryPoint, hu.view, if_pos htt]
    exact hP
  · have hbody : mayGetBackup s' t = mayGetBackup s t := by
      rw [mayGetBackup, hu.isHooked_eq, if_neg htt]; rfl
    have hnt : mayGetBackup s t ≠ target := fun he =>
      h.body_not_mem (he ▸ Registry.mem_hookedMethods.2 ⟨_, hu.isHooked_target⟩)
    rw [hbody, ← State.view_entryPoint, hu.view, if_neg hnt]
    exact hP

omit h in
/-- A further `Deoptimize` leaves the body alone or sets it to the bridge. -/
theorem interpreted_deoptimize (hbridge : art.artQuickToInterpreterBridge ≠ 0)
    {method : Option ArtMethodPtr} (hP : Interpreted art t s) :
    Interpreted art t (deoptimize art s method).1 := by
  rcases deoptimize_cases art s method with ⟨-, he⟩ | ⟨n, -, -, -, he⟩ <;> rw [he]
  · exact hP
  · rw [setEntryPointsToInterpreter_of_bridge hbridge]
    unfold Interpreted at hP ⊢
    rw [State.getEntryPoint_setEntryPoint]
    split
    · rfl
    · exact hP

/-- **New code does not stay on the body.** -/
theorem interpreted_updateMethodsCode {q i : ℕ} (hP : Interpreted art t s)
    (hG : KeepsBridge art t s (.updateMethodsCode m q i)) :
    Interpreted art t (updateMethodsCode art s m q i) := by
  have hbody : mayGetBackup (updateMethodsCode art s m q i) t = mayGetBackup s t := by
    rw [mayGetBackup, SameRegistry.updateMethodsCode.toRegistry]; rfl
  unfold Interpreted at hP ⊢
  rw [hbody]
  cases hm : s.isHooked m with
  | none =>
    rw [getEntryPoint_updateMethodsCode_unhooked hm]
    split
    · rename_i hxm
      rw [← hxm, hP]
      split
      · rfl
      · rename_i hcond
        -- the bridge was asked for, and is what ART has installed
        have hq : q = art.artQuickToInterpreterBridge := by
          refine not_not.1 fun hne => hcond ⟨fun he => hne ?_, h.body.1⟩
          exact (EntryPoint.code.inj he).symm
        rw [hG.1 hxm.symm hq, hq]
    · exact hP
  | some b =>
    have hmem : m ∈ s.hookedMethods := Registry.mem_hookedMethods.2 ⟨b, hm⟩
    have hxm : mayGetBackup s t ≠ m := fun he => h.body_not_mem (he ▸ hmem)
    rcases getEntryPoint_updateMethodsCode_other art q i hm (h.coherent.ne_backup hmem hm) hxm with
      he | ⟨hxb, hd, he⟩ <;> rw [he]
    · exact hP
    · rw [hG.2 (hxb ▸ hm) hd]

/-- **A restored class**, its snapshot or ART having left the bridge. -/
theorem interpreted_fixup (hbridge : art.artQuickToInterpreterBridge ≠ 0) {cd : ClassDefPtr}
    {self : ThreadPtr} {rewritten : List (ArtMethodPtr × ℕ)} {order : RestoreOrder}
    (ho : order.Of s cd self)
    (hG : KeepsBridge art t s (.fixupStaticTrampolines cd self rewritten order)) :
    Interpreted art t (fixupStaticTrampolines art s cd self rewritten order) := by
  obtain ⟨hpop, hkeep, htarget⟩ := hG
  have hs := sameRegistry_artInstall s rewritten
  have hbm := backupMethods_artInstall s rewritten
  have hx : (artInstall s rewritten).isHooked (mayGetBackup s t) = none := by
    rw [hs.toRegistry]
    exact h.coherent.isHooked_mayGetBackup
  have hd : (artInstall s rewritten).isDeoptimized (mayGetBackup s t) := by
    rw [hs.toRegistry]
    exact h.body.1
  have hnative : ((artInstall s rewritten).heap (mayGetBackup s t)).isNative = false := by
    rw [State.isNative_congr (hs.methods _).1]
    exact h.body.2
  have hread := getEntryPoint_restoreBackup_deoptimized (h.coherent.congr hs.sameHooks)
    ho.artInstall hbridge hx hd hnative (by rw [hbm]; exact hpop) (by rw [hbm]; exact hkeep) ?_
  · show (fixupStaticTrampolines art s cd self rewritten order).getEntryPoint
      (mayGetBackup (fixupStaticTrampolines art s cd self rewritten order) t) = _
    rw [mayGetBackup, SameRegistry.fixupStaticTrampolines.toRegistry]
    exact hread
  · intro m old hm hmd hp
    rw [hs.toRegistry] at hm hmd
    rw [hbm] at hp
    exact htarget m (Registry.mem_hookedMethods.2 ⟨_, hm⟩) hm hmd old hp

/-- **A remapped boot image**, its targets coming first or having shown the
bridge. -/
theorem interpreted_map {remapped : List (ArtMethodPtr × ℕ × ℕ)} {order : MapOrder}
    (ho : order.Of art s) (hP : Interpreted art t s)
    (hG : KeepsBridge art t s (.mapBootImageMethods remapped order)) :
    Interpreted art t (mapBootImageMethods art s remapped order) := by
  have hbody : mayGetBackup (mapBootImageMethods art s remapped order) t = mayGetBackup s t := by
    rw [mayGetBackup, Registry.isHooked, SameHooks.mapBootImageMethods.hookedMethods]
    rfl
  have hread := getEntryPoint_mapBootImageMethods_deoptimized remapped h.coherent ho
    h.coherent.isHooked_mayGetBackup h.body.1 fun m hm => ?_
  · unfold Interpreted at hP ⊢
    rw [hbody, hread]
    exact hP
  · rw [hP]
    exact hG m (Registry.mem_hookedMethods.2 ⟨_, hm⟩) hm

/-- **A step that keeps the bridge keeps the body interpreted.** -/
theorem interpreted_step (hbridge : art.artQuickToInterpreterBridge ≠ 0)
    (hA : admissible art s e) (hG : KeepsBridge art t s e) (hP : Interpreted art t s) :
    Interpreted art t (step art s e) := by
  -- registries and the body's entry point are all that matters
  have hsame : ∀ u : State, SameRegistry s u → (u.getEntryPoint (mayGetBackup s t) =
      s.getEntryPoint (mayGetBackup s t)) → Interpreted art t u := by
    intro u hu he
    unfold Interpreted at hP ⊢
    rw [mayGetBackup, hu.toRegistry]
    exact he.trans hP
  cases e with
  | hook request =>
    show Interpreted art t (hookMethod art s request).1
    rcases hookMethod_cases art s request (backup_ne_target hA) with
      ⟨T, -, he⟩ | ⟨target, stub, a, slot, s', he, hh⟩ <;> rw [he]
    · exact hP
    · exact h.interpreted_hook hh (hA.1 target hh.target_eq stub hh.built_eq) hP
  | unHook tm =>
    show Interpreted art t (unHook art s tm).1
    rcases unHook_cases art s tm with ⟨he, -⟩ | ⟨target, record, s', -, he, hu⟩ <;> rw [he]
    · exact hP
    · exact h.interpreted_unHook hu hP
  | setHookEnabled tm enabled =>
    have hbody : mayGetBackup (setHookEnabled art s tm enabled).1 t = mayGetBackup s t := by
      rw [mayGetBackup, isHooked_setHookEnabled]
      rfl
    show (setHookEnabled art s tm enabled).1.getEntryPoint
      (mayGetBackup (setHookEnabled art s tm enabled).1 t) = _
    rw [hbody]
    rcases setHookEnabled_cases art s tm enabled with
      ⟨he, -⟩ | ⟨m, record, -, -, ⟨-, he⟩ | ⟨-, he⟩⟩ <;> rw [he] <;> exact hP
  | deoptimize method => exact interpreted_deoptimize hbridge hP
  | updateMethodsCode m q i => exact h.interpreted_updateMethodsCode hP hG
  | registerNative m d => exact hsame _ SameRegistry.setData State.getEntryPoint_setData
  | unregisterNative m d => exact hsame _ SameRegistry.setData State.getEntryPoint_setData
  | registerNatives natives written order =>
    exact hsame _ SameRegistry.withUpdater (getEntryPoint_withUpdater_of_not_native
      recordOf_registeredMethods h.body_not_mem h.body.2)
  | unregisterNatives visited written order =>
    exact hsame _ SameRegistry.withUpdater (getEntryPoint_withUpdater_of_not_native
      recordOf_unregisteredMethods h.body_not_mem h.body.2)
  | backupClassMethods cd self =>
    exact hsame _ SameRegistry.backupClassMethods
      (congrArg (fun heap => (heap (mayGetBackup s t)).entryPoint) backupClassMethods_heap)
  | fixupStaticTrampolines cd self rewritten order => exact h.interpreted_fixup hbridge hA.2 hG
  | mapBootImageMethods remapped order => exact h.interpreted_map hA hP hG
  | collect =>
    have hbody : mayGetBackup (moveObsoleteMethods art s) t = mayGetBackup s t := by
      rw [mayGetBackup, Registry.isHooked, SameHooks.moveObsoleteMethods.hookedMethods]
      rfl
    show (moveObsoleteMethods art s).getEntryPoint (mayGetBackup (moveObsoleteMethods art s) t) = _
    rw [hbody, getEntryPoint_moveObsoleteMethods]
    exact hP

/-- **And the method stays deoptimized.** -/
theorem step (hA : admissible art s e) : Deoptimized art t (step art s e) where
  coherent := coherent_step h.coherent hA
  recorded := backupsRecorded_step h.coherent hA h.recorded
  deoptimized := isDeoptimized_step hA h.deoptimized
  notNative := by
    rw [State.isNative_congr (kind_step hA h.deoptimized)]
    exact h.notNative

end Deoptimized

/-! ## Runs -/

theorem backupsRecorded_initial {heap : ArtMethodPtr → ArtMethod} {mem : Memory} {ids : List ℕ}
    {owner : ℕ → ArtMethodPtr} : BackupsRecorded (State.initial heap mem ids owner) where
  deoptimized t b h := by simp [State.initial, Registry.empty, Registry.isHooked] at h
  kind t b h := by simp [State.initial, Registry.empty, Registry.isHooked] at h

/-- **What a `Deoptimize` that returns true leaves.** -/
theorem deoptimize_spec (hc : Coherent art s) (hr : BackupsRecorded s)
    (hbridge : art.artQuickToInterpreterBridge ≠ 0)
    (htrue : (deoptimize art s (some t)).2 = true) :
    Deoptimized art t (deoptimize art s (some t)).1 ∧
      Interpreted art t (deoptimize art s (some t)).1 := by
  have hrecorded : BackupsRecorded (step art s (.deoptimize (some t))) :=
    backupsRecorded_step hc trivial hr
  have hcoherent : Coherent art (step art s (.deoptimize (some t))) := coherent_step hc trivial
  have hkind : ((step art s (.deoptimize (some t))).view t).kind = (s.view t).kind :=
    ((sameHooks_step rfl).methods t).1
  revert hrecorded hcoherent hkind
  show BackupsRecorded (deoptimize art s (some t)).1 →
    Coherent art (deoptimize art s (some t)).1 →
      ((deoptimize art s (some t)).1.view t).kind = (s.view t).kind → _
  intro hrecorded hcoherent hkind
  obtain ⟨hnative, hdo⟩ : (s.heap t).isNative = false ∧ (deoptimize art s (some t)).1 =
      State.setEntryPoint art { s with
        toRegistry := s.recordDeoptimized (s.classDef art t) t (s.getEntryPoint t) }
        (mayGetBackup s t) (.code art.artQuickToInterpreterBridge) := by
    rcases deoptimize_cases art s (some t) with ⟨-, he⟩ | ⟨m, hm, -, hnative, he⟩
    · rw [he] at htrue
      exact absurd htrue Bool.false_ne_true
    · obtain rfl := Option.some.inj hm
      rw [he, setEntryPointsToInterpreter_of_bridge hbridge]
      exact ⟨hnative, rfl⟩
  refine ⟨⟨hcoherent, hrecorded, ?_, ?_⟩, ?_⟩
  · rw [hdo]
    exact Table.mem_emplace.2 (Or.inl rfl)
  · rw [State.isNative_congr hkind]
    exact hnative
  · unfold Interpreted
    rw [hdo, State.getEntryPoint_setEntryPoint]
    exact if_pos rfl

/-- **Deoptimization lasts.** Wherever `Deoptimize` has returned true for a
method, its body has the interpreter bridge as entry point in every state
of a run whose steps keep the bridge. -/
theorem interpreted_everywhere {heap : ArtMethodPtr → ArtMethod} {mem : Memory} {ids : List ℕ}
    {owner : ℕ → ArtMethodPtr} {before after : List Event}
    (hbridge : art.artQuickToInterpreterBridge ≠ 0)
    (hL : (machine art).Legal (State.initial heap mem ids owner) before)
    (hd : deoptimize art ((machine art).exec (State.initial heap mem ids owner) before) (some t) =
      (s, true))
    (hL' : (machine art).Legal s after)
    (hkeeps : (machine art).EachStep (KeepsBridge art t) s after) :
    (machine art).Everywhere (Interpreted art t) s after := by
  obtain ⟨hcoherent, hrecorded⟩ := Machine.exec_of_eachStep (M := machine art)
    (P := fun s => Coherent art s ∧ BackupsRecorded s)
    (fun s e hP hA => ⟨coherent_step hP.1 hA, backupsRecorded_step hP.1 hA hP.2⟩)
    ⟨coherent_initial, backupsRecorded_initial⟩ hL
  have hspec := deoptimize_spec (t := t) hcoherent hrecorded hbridge (by rw [hd])
  rw [hd] at hspec
  have hall := Machine.everywhere_of_eachStep (M := machine art)
    (P := fun s => Deoptimized art t s ∧ Interpreted art t s)
    (fun s e hP hG => ⟨hP.1.step hG.1, hP.1.interpreted_step hbridge hG.1 hG.2 hP.2⟩) hspec
    (Machine.eachStep_and.2 ⟨hL', hkeeps⟩)
  exact hall.mono fun s h => h.2

/-- The state a method of the sample process is deoptimized in: it is static
and hooked, and its class's initialisation is under way. -/
def sampleHooked : State :=
  (machine sampleArt).exec (sampleState kAccStatic)
    [sampleHook 110 210 211 (some 65536), .backupClassMethods 2 5]

/-- A run it is about: the method is deoptimized between the snapshot and
its restoration, unhooked, sent new code, hooked again, and the boot image
is remapped, the target first. -/
theorem interpreted_everywhere_sample :
    (machine sampleArt).Everywhere (Interpreted sampleArt 110)
      (deoptimize sampleArt sampleHooked (some 110)).1
      [.fixupStaticTrampolines 2 5 [(110, 77)] ⟨[5], [], [110]⟩, .unHook (some 110),
        .updateMethodsCode 110 78 78, sampleHook 110 220 221 none,
        .mapBootImageMethods [(110, 0, 79)] ⟨[110, 211, 221], [110], [110, 211, 221]⟩] := by
  have hL : (machine sampleArt).Legal (sampleState kAccStatic)
      [sampleHook 110 210 211 (some 65536), .backupClassMethods 2 5] := by decide
  have htrue : (deoptimize sampleArt sampleHooked (some 110)).2 = true := by decide
  exact interpreted_everywhere (by decide) hL (Prod.ext rfl htrue) (by decide) (by decide)

/-- **Deoptimization is lost**: the boot image is remapped, with nothing in
it, and the backup of a hooked method that has been deoptimized comes
before the method. -/
theorem deoptimization_lost_by_remapping :
    let s := (machine sampleArt).exec (sampleState kAccPublic)
      [sampleHook 110 210 211 (some 65536)]
    let e := Event.mapBootImageMethods [] ⟨[110, 211], [110], [211, 110]⟩
    (deoptimize sampleArt s (some 110)).2 = true ∧
      (machine sampleArt).Legal (deoptimize sampleArt s (some 110)).1 [e] ∧
      ¬ (machine sampleArt).Everywhere (Interpreted sampleArt 110)
        (deoptimize sampleArt s (some 110)).1 [e] := by
  intro s e
  refine ⟨by decide, by decide, ?_⟩
  rintro ⟨-, hlast⟩
  have hlost : ¬ Interpreted sampleArt 110
      (step sampleArt (deoptimize sampleArt s (some 110)).1 e) := by decide
  exact hlost hlast

end LSPlant
