import LSPlant.Frame
import LSPlant.Library.Redirection
/-!
# The registries describe one relation

Four containers are updated by separate statements of `RecordHooked`,
`HookMethod` and `UnHook`. In every reachable state they agree: which
method has which backup is one redirection, read forwards in
`hooked_methods_` and backwards in `backuped_methods_`, and a class's set
in `hooked_classes_` is the hooked methods of the class. A successful
`Hook` links its target to its backup in that redirection, `UnHook` takes
the link out, and nothing else moves it.
-/

namespace LSPlant

/-- **Coherence of the registries.** -/
structure Coherent (art : Art) (s : State) : Prop where
  inverse : ∀ t b, s.isHooked t = some b ↔ s.backupedMethods.lookup b = some t
  apart : ∀ m, m ∈ s.hookedMethods → m ∉ s.backupedMethods
  classes : ∀ t c, t ∈ Registry.methodsOf s.hookedClasses c ↔
    t ∈ s.hookedMethods ∧ c = s.classDef art t
  nonempty : ∀ c ms, s.hookedClasses.lookup c = some ms → ms ≠ ∅
  proxies : ∀ b ∈ s.backupedProxyMethods, b ∈ s.backupedMethods
  /-- A backup is declared by its target's class, so that unhooking keeps
  the class of the target. -/
  declaring : ∀ t b, s.isHooked t = some b →
    (s.view b).declaringClass = (s.view t).declaringClass

variable {art : Art} {s s' : State} {request : HookRequest} {target t b m n : ArtMethodPtr}
  {stub : Stub} {record : HookRecord} {a slot : ℕ}

namespace Coherent

theorem mem_backuped (h : Coherent art s) : b ∈ s.backupedMethods ↔ ∃ t, s.isHooked t = some b := by
  rw [Table.mem_iff_lookup]
  exact exists_congr fun t => (h.inverse t b).symm

/-- A backup is not hooked. -/
theorem isHooked_backup (h : Coherent art s) (ht : s.isHooked t = some b) :
    s.isHooked b = none := by
  rw [Registry.isHooked_eq_none]
  exact fun hb => h.apart b hb (h.mem_backuped.2 ⟨t, ht⟩)

theorem ne_backup (h : Coherent art s) (ht : t ∈ s.hookedMethods) (hb : s.isHooked n = some b) :
    b ≠ t := by
  rintro rfl
  exact h.apart b ht (h.mem_backuped.2 ⟨n, hb⟩)

/-- Two methods with one backup are one method. -/
theorem backup_injective (h : Coherent art s) (ht : s.isHooked t = some b)
    (hn : s.isHooked n = some b) : t = n := by
  rw [h.inverse] at ht hn
  exact Option.some.inj (ht.symm.trans hn)

/-- **The redirection the registries describe.** -/
def redirection (h : Coherent art s) : Redirection ArtMethodPtr where
  partner :=
    { toFun := s.isHooked
      invFun := s.isBackup
      inv := fun t b => (h.inverse t b).symm }
  apart _ _ hb := h.isHooked_backup hb

@[simp] theorem partner_redirection (h : Coherent art s) :
    h.redirection.partner t = s.isHooked t := rfl

/-- Outside it are the methods that are neither hooked nor backups. -/
theorem outside_redirection (h : Coherent art s) :
    h.redirection.Outside m ↔ m ∉ s.hookedMethods ∧ m ∉ s.backupedMethods :=
  and_congr Registry.isHooked_eq_none Finmap.lookup_eq_none

/-- `MayGetBackup` follows it. -/
theorem mayGetBackup_eq (h : Coherent art s) : mayGetBackup s m = h.redirection.redirect m := rfl

/-- What leaves the hooks alone leaves the registries coherent. -/
theorem congr (h : Coherent art s) (hs : SameHooks s s') : Coherent art s' where
  inverse t b := by
    rw [Registry.isHooked, hs.hookedMethods, hs.backupedMethods]
    exact h.inverse t b
  apart m := by
    rw [hs.hookedMethods, hs.backupedMethods]
    exact h.apart m
  classes t c := by
    rw [hs.hookedClasses, hs.hookedMethods, State.classDef_congr (hs.methods t).2]
    exact h.classes t c
  nonempty c ms := by
    rw [hs.hookedClasses]
    exact h.nonempty c ms
  proxies b := by
    rw [hs.backupedProxyMethods, hs.backupedMethods]
    exact h.proxies b
  declaring t b hb := by
    rw [(hs.methods b).2, (hs.methods t).2]
    rw [Registry.isHooked, hs.hookedMethods] at hb
    exact h.declaring t b hb

end Coherent

theorem mayGetBackup_of_hooked (h : s.isHooked t = some b) : mayGetBackup s t = b := by
  rw [mayGetBackup, h]; rfl

theorem mayGetBackup_of_unhooked (h : s.isHooked t = none) : mayGetBackup s t = t := by
  rw [mayGetBackup, h]; rfl

/-- What `MayGetBackup` comes back with is not hooked. -/
theorem Coherent.isHooked_mayGetBackup (h : Coherent art s) :
    s.isHooked (mayGetBackup s m) = none := by
  cases hm : s.isHooked m with
  | none => rw [mayGetBackup_of_unhooked hm]; exact hm
  | some b => rw [mayGetBackup_of_hooked hm]; exact h.isHooked_backup hm

/-- **The state LSPlant is loaded into is coherent.** -/
theorem coherent_initial {heap : ArtMethodPtr → ArtMethod} {mem : Memory} {ids : List ℕ}
    {owner : ℕ → ArtMethodPtr} : Coherent art (State.initial heap mem ids owner) where
  inverse t b := by simp [State.initial, Registry.empty, Registry.isHooked]
  apart m hm := absurd hm Finmap.notMem_empty
  classes t c := by
    have hno : t ∉ (∅ : Table ArtMethodPtr HookRecord) := Finmap.notMem_empty
    have hset : Registry.methodsOf ∅ c = ∅ := by simp [Registry.methodsOf]
    show t ∈ Registry.methodsOf ∅ c ↔ _
    rw [hset]
    exact ⟨fun h => absurd h (Finset.notMem_empty t), fun h => absurd h.1 hno⟩
  nonempty c ms h := by simp [State.initial, Registry.empty] at h
  proxies b hb := by simp [State.initial, Registry.empty] at hb
  declaring t b h := by simp [State.initial, Registry.empty, Registry.isHooked] at h

/-! ## Hooking links -/

theorem Hooked.isHooked_eq (h : Hooked art s request target stub a slot s') :
    s'.isHooked n = if n = target then some stub.backup else s.isHooked n := by
  rw [Registry.isHooked, h.hookedMethods, Table.lookup_insert_eq]
  split <;> rfl

theorem Hooked.lookup_backuped (h : Hooked art s request target stub a slot s')
    (hf : stub.Fresh art s target) :
    s'.backupedMethods.lookup n =
      if n = stub.backup then some target else s.backupedMethods.lookup n := by
  rw [h.backupedMethods, Table.lookup_emplace_eq]
  simp [hf.1.2.1]

theorem Hooked.classDef_eq (h : Hooked art s request target stub a slot s')
    (hn : n ≠ stub.backup) : s'.classDef art n = s.classDef art n := by
  refine State.classDef_congr ?_
  rw [h.view]
  split
  · subst n; rfl
  · rfl

/-- **A hook keeps the registries coherent.** -/
theorem Hooked.coherent (h : Hooked art s request target stub a slot s') (hc : Coherent art s)
    (hf : stub.Fresh art s target) : Coherent art s' where
  inverse t b := by
    rw [h.isHooked_eq, h.lookup_backuped hf]
    by_cases ht : t = target <;> by_cases hb : b = stub.backup
    · simp [ht, hb]
    · have hno : s.isHooked target ≠ some b := by
        rw [Registry.isHooked_eq_none.2 h.notHooked]; simp
      rw [if_pos ht, if_neg hb, ← hc.inverse, ht]
      exact ⟨fun he => absurd (Option.some.inj he).symm hb, fun he => absurd he hno⟩
    · -- the fresh backup backs up nothing else
      have hno : s.isHooked t ≠ some stub.backup := fun he => by
        obtain ⟨r, hr, hrb⟩ := Registry.isHooked_eq_some.1 he
        exact hf.1.ne_backup hr hrb
      rw [if_neg ht, if_pos hb, hb]
      exact ⟨fun he => absurd he hno, fun he => absurd (Option.some.inj he).symm ht⟩
    · rw [if_neg ht, if_neg hb]
      exact hc.inverse t b
  apart m hm := by
    rw [h.hookedMethods, Finmap.mem_insert] at hm
    rw [h.backupedMethods, Table.mem_emplace, not_or]
    rcases hm with rfl | hm
    · exact ⟨hf.2.1.symm, h.notBackup⟩
    · exact ⟨fun he => hf.1.1 (he ▸ hm), hc.apart m hm⟩
  classes t c := by
    rw [h.hookedClasses, Registry.mem_addToClass, hc.classes, h.hookedMethods, Finmap.mem_insert]
    by_cases ht : t = target
    · subst ht
      simp [h.classDef_eq hf.2.1.symm, h.notHooked]
    · by_cases hb : t = stub.backup
      · subst hb
        simp [ht, hf.1.1]
      · simp [ht, h.classDef_eq hb]
  nonempty c ms hms := by
    rw [h.hookedClasses, Registry.lookup_addToClass] at hms
    split at hms
    · obtain rfl := Option.some.inj hms
      exact Finset.insert_ne_empty _ _
    · exact hc.nonempty c ms hms
  proxies b hb := by
    -- the backup of a proxy hook is new among both
    rw [h.backupedMethods, Table.mem_emplace]
    rw [h.backupedProxyMethods] at hb
    split at hb
    · exact (Finset.mem_insert.1 hb).imp id (hc.proxies b)
    · exact Or.inr (hc.proxies b hb)
  declaring t b hb := by
    rw [h.isHooked_eq] at hb
    split at hb
    · obtain rfl := Option.some.inj hb
      subst t
      rw [h.view, h.view, if_neg hf.2.1, if_pos rfl, if_pos rfl]
    · rename_i ht
      have hold := hc.declaring t b hb
      have htb : t ≠ stub.backup := fun he => hf.1.1 (by
        rw [← he]; exact Registry.mem_hookedMethods.2 ⟨b, hb⟩)
      have hbb : b ≠ stub.backup := fun he => by
        obtain ⟨r, hr, hrb⟩ := Registry.isHooked_eq_some.1 hb
        exact hf.1.ne_backup hr (hrb.trans he)
      have hbt : b ≠ target := fun he => by
        refine h.notBackup ?_
        rw [← he]
        exact hc.mem_backuped.2 ⟨t, hb⟩
      rw [h.view, h.view, if_neg hbt, if_neg hbb, if_neg ht, if_neg htb, hold]

/-- **A hook links** target and backup in the redirection, and does no
more. -/
theorem Hooked.redirection_eq (h : Hooked art s request target stub a slot s')
    (hc : Coherent art s) (hf : stub.Fresh art s target) :
    ∃ ht hb hne, (h.coherent hc hf).redirection =
      hc.redirection.link target stub.backup ht hb hne := by
  refine ⟨hc.outside_redirection.2 ⟨h.notHooked, h.notBackup⟩,
    hc.outside_redirection.2 ⟨hf.1.1, hf.1.2.1⟩, hf.2.1.symm, ?_⟩
  refine Redirection.ext_partner fun n => ?_
  rw [Redirection.partner_link, Coherent.partner_redirection, Coherent.partner_redirection,
    h.isHooked_eq]

/-! ## Unhooking unlinks -/

theorem UnHooked.isHooked_eq (h : UnHooked art s target record s') :
    s'.isHooked n = if n = target then none else s.isHooked n := by
  rw [h.toRegistry, Registry.isHooked, Registry.recordUnhooked, Table.lookup_erase_eq]
  split <;> rfl

theorem UnHooked.isHooked_target (h : UnHooked art s target record s') :
    s.isHooked target = some record.backup :=
  Registry.isHooked_eq_some.2 ⟨record, h.hooked, rfl⟩

theorem UnHooked.lookup_backuped (h : UnHooked art s target record s') :
    s'.backupedMethods.lookup n =
      if n = record.backup then none else s.backupedMethods.lookup n := by
  rw [h.toRegistry, Registry.recordUnhooked, Table.lookup_erase_eq]

theorem UnHooked.declaringClass_eq (h : UnHooked art s target record s') (hc : Coherent art s) :
    (s'.view n).declaringClass = (s.view n).declaringClass := by
  rw [h.view]
  split
  · subst n; exact hc.declaring target record.backup h.isHooked_target
  · rfl

/-- **Unhooking keeps the registries coherent.** -/
theorem UnHooked.coherent (h : UnHooked art s target record s') (hc : Coherent art s) :
    Coherent art s' where
  inverse t b := by
    rw [h.isHooked_eq, h.lookup_backuped]
    by_cases ht : t = target <;> by_cases hb : b = record.backup
    · simp [ht, hb]
    · have hno : s.isHooked target ≠ some b := by
        rw [h.isHooked_target]
        exact fun he => hb (Option.some.inj he).symm
      rw [if_pos ht, if_neg hb, ← hc.inverse, ht]
      exact ⟨fun he => absurd he (by simp), fun he => absurd he hno⟩
    · have hno : s.isHooked t ≠ some record.backup := fun he =>
        ht (hc.backup_injective he h.isHooked_target)
      rw [if_neg ht, if_pos hb, hb]
      exact ⟨fun he => absurd he hno, fun he => absurd he (by simp)⟩
    · rw [if_neg ht, if_neg hb]
      exact hc.inverse t b
  apart m hm := by
    rw [h.toRegistry] at hm ⊢
    simp only [Registry.recordUnhooked, Finmap.mem_erase] at hm ⊢
    exact fun hb => hc.apart m hm.2 hb.2
  classes t c := by
    rw [State.classDef_congr (h.declaringClass_eq hc), h.toRegistry]
    simp only [Registry.recordUnhooked, Registry.mem_eraseFromClass, hc.classes, Finmap.mem_erase]
    constructor
    · rintro ⟨⟨ht, rfl⟩, hne⟩
      exact ⟨⟨fun he => hne ⟨by rw [he], he⟩, ht⟩, rfl⟩
    · rintro ⟨⟨hne, ht⟩, rfl⟩
      exact ⟨⟨ht, rfl⟩, fun he => hne he.2⟩
  nonempty c ms hms := by
    rw [h.toRegistry] at hms
    exact Registry.eraseFromClass_ne_empty hc.nonempty hms
  proxies b hb := by
    rw [h.toRegistry] at hb ⊢
    simp only [Registry.recordUnhooked, Finset.mem_erase, Finmap.mem_erase] at hb ⊢
    exact ⟨hb.1, hc.proxies b hb.2⟩
  declaring t b hb := by
    rw [h.isHooked_eq] at hb
    split at hb
    · cases hb
    · rw [h.declaringClass_eq hc, h.declaringClass_eq hc]
      exact hc.declaring t b hb

/-- **Unhooking takes the link out**, and does no more. -/
theorem UnHooked.redirection_eq (h : UnHooked art s target record s') (hc : Coherent art s) :
    (h.coherent hc).redirection = hc.redirection.unlink target := by
  refine Redirection.ext_partner fun n => ?_
  rw [Redirection.partner_unlink, Coherent.partner_redirection, Coherent.partner_redirection,
    h.isHooked_eq]

/-! ## Every event -/

/-- Switching a hook on or off keeps its backup. -/
theorem isHooked_setHookEnabled {tm : Option ArtMethodPtr} {enabled : Bool} :
    (setHookEnabled art s tm enabled).1.isHooked n = s.isHooked n := by
  rcases setHookEnabled_cases art s tm enabled with
    ⟨h, -⟩ | ⟨target, record, -, hrec, ⟨-, h⟩ | ⟨-, h⟩⟩ <;> rw [h]
  simp only [Registry.isHooked, Table.lookup_insert_eq]
  split
  · subst n; rw [hrec]; rfl
  · rfl

theorem Coherent.setHookEnabled (hc : Coherent art s) {tm : Option ArtMethodPtr}
    {enabled : Bool} : Coherent art (setHookEnabled art s tm enabled).1 := by
  have hh : ∀ n, (LSPlant.setHookEnabled art s tm enabled).1.isHooked n = s.isHooked n :=
    fun n => isHooked_setHookEnabled
  have hmem : ∀ n, n ∈ (LSPlant.setHookEnabled art s tm enabled).1.hookedMethods ↔
      n ∈ s.hookedMethods := fun n => by
    rw [Registry.mem_hookedMethods, Registry.mem_hookedMethods]; simp only [hh]
  obtain ⟨T, H, hset⟩ : ∃ T H, (LSPlant.setHookEnabled art s tm enabled).1 =
      { s with trampolines := T, hookedMethods := H } := by
    rcases setHookEnabled_cases art s tm enabled with
      ⟨h, -⟩ | ⟨target, record, -, -, ⟨-, h⟩ | ⟨-, h⟩⟩ <;> rw [h] <;> exact ⟨_, _, rfl⟩
  rw [hset] at hh hmem ⊢
  exact {
    inverse := fun t b => by rw [hh]; exact hc.inverse t b
    apart := fun m hm => hc.apart m ((hmem m).1 hm)
    classes := fun t c => by rw [hmem]; exact hc.classes t c
    nonempty := hc.nonempty
    proxies := hc.proxies
    declaring := fun t b hb => hc.declaring t b (by rw [← hh]; exact hb) }

/-- **Coherence is an invariant**: every event keeps it. -/
theorem coherent_step {e : Event} (hc : Coherent art s) (he : admissible art s e) :
    Coherent art (step art s e) := by
  cases hcall : e.isHooking with
  | false => exact hc.congr (sameHooks_step hcall)
  | true =>
    cases e with
    | hook request =>
      rcases hookMethod_cases art s request (backup_ne_target he) with
        ⟨T, -, h⟩ | ⟨target, stub, a, slot, s', h, hh⟩
      · show Coherent art (hookMethod art s request).1
        rw [h]
        exact ⟨hc.inverse, hc.apart, hc.classes, hc.nonempty, hc.proxies, hc.declaring⟩
      · show Coherent art (hookMethod art s request).1
        rw [h]
        exact hh.coherent hc (he.1 target hh.target_eq stub hh.built_eq)
    | unHook tm =>
      show Coherent art (unHook art s tm).1
      rcases unHook_cases art s tm with ⟨h, -⟩ | ⟨target, record, s', -, h, hu⟩ <;> rw [h]
      · exact hc
      · exact hu.coherent hc
    | setHookEnabled tm enabled => exact hc.setHookEnabled
    | _ => cases hcall

theorem coherent_exec {es : List Event} (hc : Coherent art s)
    (hL : (machine art).Legal s es) : Coherent art ((machine art).exec s es) :=
  Machine.exec_of_eachStep (fun _ _ => coherent_step) hc hL

/-- **Registry coherence.** Wherever a run of calls and intercepted
functions leads from the state LSPlant is loaded into, `hooked_methods_`
and `backuped_methods_` are inverse to each other, no method is a key of
both, so redirecting to the backup is idempotent, the class sets hold
exactly the hooked methods under their own class and are never empty, and
proxy backups are backups. -/
theorem registries_cohere {heap : ArtMethodPtr → ArtMethod} {mem : Memory} {ids : List ℕ}
    {owner : ℕ → ArtMethodPtr} {es : List Event}
    (hL : (machine art).Legal (State.initial heap mem ids owner) es) :
    let s := (machine art).exec (State.initial heap mem ids owner) es
    (∀ t b, (∃ record, s.hookedMethods.lookup t = some record ∧ record.backup = b) ↔
        s.backupedMethods.lookup b = some t) ∧
      (∀ m, ¬ (m ∈ s.hookedMethods ∧ m ∈ s.backupedMethods)) ∧
      (∀ m, mayGetBackup s (mayGetBackup s m) = mayGetBackup s m) ∧
      (∀ t c, t ∈ Registry.methodsOf s.hookedClasses c ↔
        t ∈ s.hookedMethods ∧ c = s.classDef art t) ∧
      (∀ c ms, s.hookedClasses.lookup c = some ms → ms ≠ ∅) ∧
      ∀ b ∈ s.backupedProxyMethods, b ∈ s.backupedMethods := by
  intro s
  have hc : Coherent art s := coherent_exec coherent_initial hL
  refine ⟨fun t b => ?_, fun m hm => hc.apart m hm.1 hm.2, fun m => ?_, hc.classes, hc.nonempty,
    hc.proxies⟩
  · rw [← Registry.isHooked_eq_some]
    exact hc.inverse t b
  · rw [hc.mayGetBackup_eq, hc.mayGetBackup_eq, Redirection.redirect_redirect]

/-- A run it is about: a hook, a second one in the same page, and the first
taken out. -/
theorem registries_cohere_sample :
    let s := (machine sampleArt).exec (sampleState kAccPublic)
      [sampleHook 110 210 211 (some 65536), sampleHook 120 220 221 none, .unHook (some 110)]
    ∀ m, mayGetBackup s (mayGetBackup s m) = mayGetBackup s m :=
  (registries_cohere (by decide)).2.2.1

end LSPlant
