import LSPlant.Coherence
/-!
# What a restored class leaves

`RestoreBackup` writes the entry point it saved over whatever ART has
installed and then looks the method up: a hooked method's new entry point
goes to its backup, a deoptimized method is set to the interpreter again.
One pass touches the method and its backup. So a hooked method, which is
no backup, is touched by its own pass only.
-/

namespace LSPlant

variable {art : Art} {s u : State} {t b m n : ArtMethodPtr} {old : EntryPoint} {cd : ClassDefPtr}
  {self : ThreadPtr} {order : RestoreOrder} {rewritten : List (ArtMethodPtr × ℕ)}

/-! ## What ART installs -/

theorem artInstall_cons {w : ArtMethodPtr × ℕ} :
    artInstall s (w :: rewritten) = artInstall (s.artSetEntryPoint w.1 w.2) rewritten := rfl

/-- The last code ART installs on a method, if any. -/
def lastInstalled (n : ArtMethodPtr) : List (ArtMethodPtr × ℕ) → Option ℕ
  | [] => none
  | w :: rewritten => (lastInstalled n rewritten).or (if w.1 = n then some w.2 else none)

theorem getEntryPoint_artInstall_eq :
    (artInstall s rewritten).getEntryPoint n =
      (lastInstalled n rewritten).elim (s.getEntryPoint n) .code := by
  induction rewritten generalizing s with
  | nil => rfl
  | cons w rewritten ih =>
    rw [artInstall_cons, ih, lastInstalled, State.getEntryPoint_artSetEntryPoint]
    cases lastInstalled n rewritten with
    | some c => rfl
    | none => simp only [Option.none_or, eq_comm (a := w.1)]; split <;> rfl

theorem lastInstalled_eq_none (h : ∀ w ∈ rewritten, w.1 ≠ n) :
    lastInstalled n rewritten = none := by
  induction rewritten with
  | nil => rfl
  | cons w rewritten ih =>
    rw [lastInstalled, ih fun v hv => h v (List.mem_cons_of_mem w hv),
      if_neg (h w List.mem_cons_self)]
    rfl

variable (s rewritten n) in
/-- ART installs code where it rewrites and nothing elsewhere. -/
theorem getEntryPoint_artInstall :
    (n ∉ rewritten.map Prod.fst ∧ (artInstall s rewritten).getEntryPoint n = s.getEntryPoint n) ∨
      (n ∈ rewritten.map Prod.fst ∧ ∃ c, (artInstall s rewritten).getEntryPoint n = .code c) := by
  induction rewritten generalizing s with
  | nil => exact Or.inl ⟨by simp, rfl⟩
  | cons w rewritten ih =>
    rw [artInstall_cons]
    rcases ih (s.artSetEntryPoint w.1 w.2) with ⟨hn, he⟩ | ⟨hn, hc⟩
    · by_cases hw : n = w.1
      · refine Or.inr ⟨by simp [hw], w.2, ?_⟩
        rw [he, State.getEntryPoint_artSetEntryPoint, if_pos hw]
      · refine Or.inl ⟨by simpa [hw] using hn, ?_⟩
        rw [he, State.getEntryPoint_artSetEntryPoint, if_neg hw]
    · exact Or.inr ⟨List.mem_cons_of_mem w.1 hn, hc⟩

theorem getData_artInstall : (artInstall s rewritten).getData n = s.getData n := by
  induction rewritten generalizing s with
  | nil => rfl
  | cons w rewritten ih => rw [artInstall_cons, ih, State.getData_artSetEntryPoint]

variable (s rewritten) in
theorem sameRegistry_artInstall : SameRegistry s (artInstall s rewritten) :=
  SameRegistry.foldl (fun _ _ => SameRegistry.artSetEntryPoint) rewritten s

variable (s rewritten) in
theorem backupMethods_artInstall : (artInstall s rewritten).backupMethods = s.backupMethods := by
  induction rewritten generalizing s with
  | nil => rfl
  | cons w rewritten ih => rw [artInstall_cons, ih]; rfl

/-- What ART installs changes no snapshot, and so no order of their loops. -/
theorem RestoreOrder.Of.artInstall (ho : order.Of s cd self) :
    order.Of (artInstall s rewritten) cd self := by
  unfold RestoreOrder.Of at ho ⊢
  rw [backupMethods_artInstall]
  exact ho

/-! ## One pass -/

/-- **The pass of a hooked method.** -/
theorem getEntryPoint_restoreMethod_hooked (h : s.isHooked m = some b) (hne : b ≠ m) :
    (restoreMethod art s m old).getEntryPoint n =
      if n = m then old
      else if n = b ∧ ¬ s.isDeoptimized m ∧ s.getEntryPoint m ≠ old then s.getEntryPoint m
      else s.getEntryPoint n := by
  have hh : (s.setEntryPoint art m old).isHooked m = some b := h
  simp only [restoreMethod, hh]
  by_cases hcond : ¬ s.isDeoptimized m ∧ s.getEntryPoint m ≠ old
  · have hcond' : ¬ (s.setEntryPoint art m old).isDeoptimized m ∧ s.getEntryPoint m ≠ old := hcond
    rw [if_pos hcond', State.getEntryPoint_setEntryPoint, State.getEntryPoint_setEntryPoint]
    by_cases hnm : n = m
    · rw [if_pos hnm, if_pos hnm, if_neg (hnm ▸ hne.symm)]
    · simp [hnm, hcond]
  · have hcond' : ¬ (¬ (s.setEntryPoint art m old).isDeoptimized m ∧ s.getEntryPoint m ≠ old) :=
      hcond
    rw [if_neg hcond', State.getEntryPoint_setEntryPoint]
    by_cases hnm : n = m
    · rw [if_pos hnm, if_pos hnm]
    · rw [if_neg hnm, if_neg hnm, if_neg fun h => hcond h.2]

/-- A method is set to the interpreter again by its pass. -/
def Redeoptimized (art : Art) (s : State) (m : ArtMethodPtr) : Prop :=
  s.isDeoptimized m ∧ s.getEntryPoint m ≠ .code art.artQuickToInterpreterBridge ∧
    (s.heap m).isNative = false

variable (art n old) in
/-- **The pass of a method that is not hooked.** -/
theorem getEntryPoint_restoreMethod_unhooked (h : s.isHooked m = none) :
    (n ≠ m → (restoreMethod art s m old).getEntryPoint n = s.getEntryPoint n) ∧
      (¬ Redeoptimized art s m → (restoreMethod art s m old).getEntryPoint m = old) ∧
      (Redeoptimized art s m → (restoreMethod art s m old).getEntryPoint m =
        (setEntryPointsToInterpreter art (s.setEntryPoint art m old) m).1.getEntryPoint m) := by
  have hh : (s.setEntryPoint art m old).isHooked m = none := h
  have hnative : ((s.setEntryPoint art m old).heap m).isNative = (s.heap m).isNative :=
    State.isNative_congr (State.sameMethods_setEntryPoint m).1
  have hcond : ((s.setEntryPoint art m old).isDeoptimized m ∧
      s.getEntryPoint m ≠ .code art.artQuickToInterpreterBridge ∧
      ((s.setEntryPoint art m old).heap m).isNative = false) ↔ Redeoptimized art s m := by
    rw [hnative]; exact Iff.rfl
  simp only [restoreMethod, hh]
  refine ⟨fun hn => ?_, fun hr => ?_, fun hr => ?_⟩
  · split
    · obtain ⟨c, hc⟩ := view_setEntryPointsToInterpreter art (s.setEntryPoint art m old) n m
      rw [← State.view_entryPoint, hc, if_neg fun hc => hn hc.1, State.view_entryPoint,
        State.getEntryPoint_setEntryPoint_of_ne hn]
    · exact State.getEntryPoint_setEntryPoint_of_ne hn
  · rw [if_neg (mt hcond.1 hr), State.getEntryPoint_setEntryPoint, if_pos rfl]
  · rw [if_pos (hcond.2 hr)]

/-- What a re-deoptimized method points to is code. -/
theorem not_isTrampoline_setEntryPointsToInterpreter
    (h : canSetEntryPointsToInterpreter art = true) :
    ¬ ((setEntryPointsToInterpreter art s m).1.getEntryPoint m).IsTrampoline := by
  obtain ⟨c, hc⟩ := view_setEntryPointsToInterpreter art s m m
  rw [← State.view_entryPoint, hc, if_pos ⟨rfl, h⟩]
  exact not_isTrampoline_code

/-- A pass touches its method and, of a hooked one, the backup. -/
theorem getEntryPoint_restoreMethod_of_ne (hc : Coherent art s) (hm : n ≠ m)
    (hb : s.isHooked m ≠ some n) :
    (restoreMethod art s m old).getEntryPoint n = s.getEntryPoint n := by
  cases hh : s.isHooked m with
  | none => exact (getEntryPoint_restoreMethod_unhooked art n old hh).1 hm
  | some b =>
    have hne : b ≠ m := hc.ne_backup (Registry.mem_hookedMethods.2 ⟨b, hh⟩) hh
    rw [getEntryPoint_restoreMethod_hooked hh hne, if_neg hm,
      if_neg fun h => hb (by rw [hh, h.1])]

theorem getData_restoreMethod : (restoreMethod art s m old).getData n = s.getData n := by
  simp only [restoreMethod]
  split
  · split
    · rw [State.getData_setEntryPoint, State.getData_setEntryPoint]
    · rw [State.getData_setEntryPoint]
  · split
    · obtain ⟨c, hc⟩ := view_setEntryPointsToInterpreter art (s.setEntryPoint art m old) n m
      rw [← State.view_data, hc]
      split
      · rename_i hnm
        obtain ⟨rfl, -⟩ := hnm
        exact State.getData_setEntryPoint
      · exact State.getData_setEntryPoint
    · rw [State.getData_setEntryPoint]

theorem backupMethods_restoreMethod :
    (restoreMethod art s m old).backupMethods = s.backupMethods := by
  simp only [restoreMethod]
  split
  · split <;> rfl
  · split
    · exact (onlyHeap_setEntryPointsToInterpreter _ _ _).backupMethods
    · rfl

/-! ## The loop -/

/-- The state the loop of a `RestoreBackup` starts in. -/
def popped (s : State) (cd : ClassDefPtr) (self : ThreadPtr) (order : RestoreOrder) : State :=
  { s with backupMethods := (popBackup s.backupMethods cd self order).2 }

theorem restoreBackup_eq : restoreBackup art s cd self order =
    Table.forEach order.methods (popBackup s.backupMethods cd self order).1 (restoreMethod art)
      (popped s cd self order) := rfl

/-- What holds of the registries throughout the loop. -/
theorem sameRegistry_popped : SameRegistry s (popped s cd self order) := ⟨rfl, rfl, .refl s⟩

theorem mem_restoreOrder (ho : order.Of s cd self) :
    m ∈ order.methods ↔ ∃ old, pendingEntry s.backupMethods cd self order m = some old := by
  rw [ho.2.2.mem_iff, Table.mem_iff_lookup]
  simp only [lookup_popBackup]

/-- **A hooked method gets the entry point that was saved for it**, or
keeps its own where none was. -/
theorem getEntryPoint_restoreBackup_hooked (hc : Coherent art s) (ho : order.Of s cd self)
    (ht : t ∈ s.hookedMethods) :
    (restoreBackup art s cd self order).getEntryPoint t =
      (pendingEntry s.backupMethods cd self order t).getD (s.getEntryPoint t) := by
  obtain ⟨b, hb⟩ := Registry.mem_hookedMethods.1 ht
  have hstep : ∀ u n old, SameRegistry s u → SameRegistry s (restoreMethod art u n old) :=
    fun u n old hu => hu.trans SameRegistry.restoreMethod
  -- no other pass touches a hooked method: it is no backup
  have hothers : ∀ u n old, SameRegistry s u → n ≠ t →
      (restoreMethod art u n old).getEntryPoint t = u.getEntryPoint t := fun u n old hu hn => by
    refine getEntryPoint_restoreMethod_of_ne (hc.congr hu.sameHooks) (Ne.symm hn) fun he => ?_
    rw [hu.toRegistry] at he
    exact hc.ne_backup ht he rfl
  rw [restoreBackup_eq]
  cases hp : pendingEntry s.backupMethods cd self order t with
  | none =>
    refine Table.forEach_read_of_untouched (f := fun u : State => u.getEntryPoint t)
      (I := SameRegistry s) sameRegistry_popped hstep fun u n old hu hn hv => ?_
    refine hothers u n old hu fun hnt => ?_
    rw [lookup_popBackup, hnt, hp] at hv
    cases hv
  | some old =>
    refine Table.forEach_read (f := fun u : State => u.getEntryPoint t)
      (I := SameRegistry s) (g := fun _ => old) sameRegistry_popped hstep ho.2.2.nodup
      ((mem_restoreOrder ho).2 ⟨old, hp⟩) (by rw [lookup_popBackup, hp]) (fun u hu => ?_)
      fun u n w hu hn hne _ => hothers u n w hu hne
    have hub : u.isHooked t = some b := by rw [hu.toRegistry]; exact hb
    rw [getEntryPoint_restoreMethod_hooked hub (hc.ne_backup ht hb), if_pos rfl]

theorem backupMethods_restoreBackup : (restoreBackup art s cd self order).backupMethods =
    (popBackup s.backupMethods cd self order).2 :=
  Table.forEach_read_of_untouched (f := State.backupMethods) (I := fun _ => True) trivial
    (fun _ _ _ _ => trivial) fun _ _ _ _ _ _ => backupMethods_restoreMethod

/-- **Where the loop is with a deoptimized method**: before its own pass the
method has what it had, and a target of it too; after it, the bridge. -/
structure RestoresBridge (art : Art) (s : State) (n : ArtMethodPtr) (rest : List ArtMethodPtr)
    (u : State) : Prop where
  registry : SameRegistry s u
  fresh : n ∈ rest → u.getEntryPoint n = s.getEntryPoint n
  done : n ∉ rest → u.getEntryPoint n = .code art.artQuickToInterpreterBridge
  targets : ∀ m ∈ rest, s.isHooked m = some n → u.getEntryPoint m = s.getEntryPoint m

namespace RestoresBridge

variable {rest : List ArtMethodPtr} (h : RestoresBridge art s n (m :: rest) u)
include h

/-- Targets whose pass is still to come are left alone. -/
theorem targets_step (hc : Coherent art s) (hrest : m ∉ rest) (hk : t ∈ rest)
    (htn : s.isHooked t = some n) :
    (restoreMethod art u m old).getEntryPoint t = s.getEntryPoint t := by
  have hcu : Coherent art u := hc.congr h.registry.sameHooks
  have hmem : t ∈ u.hookedMethods := by
    rw [h.registry.toRegistry]
    exact Registry.mem_hookedMethods.2 ⟨n, htn⟩
  have hne : t ≠ m := fun he => hrest (he ▸ hk)
  rw [getEntryPoint_restoreMethod_of_ne hcu hne fun he => hcu.ne_backup hmem he rfl]
  exact h.targets t (List.mem_cons_of_mem m hk) htn

/-- **The method's own pass.** -/
theorem own (hbridge : art.artQuickToInterpreterBridge ≠ 0) (hnm : n = m)
    (hn : s.isHooked n = none) (hd : s.isDeoptimized n) (hnative : (s.heap n).isNative = false)
    (hpop : s.getEntryPoint n = .code art.artQuickToInterpreterBridge →
      old = .code art.artQuickToInterpreterBridge) :
    (restoreMethod art u m old).getEntryPoint n = .code art.artQuickToInterpreterBridge := by
  subst hnm
  have hun : u.isHooked n = none := by rw [h.registry.toRegistry]; exact hn
  obtain ⟨-, hold, hredo⟩ := getEntryPoint_restoreMethod_unhooked art n old hun
  by_cases hr : Redeoptimized art u n
  · rw [hredo hr, setEntryPointsToInterpreter_of_bridge hbridge,
      State.getEntryPoint_setEntryPoint, if_pos rfl]
  · rw [hold hr]
    refine hpop ?_
    rw [← h.fresh List.mem_cons_self]
    refine not_not.1 fun hne => hr ⟨?_, hne, ?_⟩
    · show u.toRegistry.isDeoptimized n
      rw [h.registry.toRegistry]
      exact hd
    · rw [State.isNative_congr (h.registry.methods n).1]
      exact hnative

/-- **Another method's pass**: it writes here only if it is the target. -/
theorem other (hc : Coherent art s) (hnm : n ≠ m)
    (htarget : s.isHooked m = some n → ¬ s.isDeoptimized m → s.getEntryPoint m = old) :
    (restoreMethod art u m old).getEntryPoint n = u.getEntryPoint n := by
  by_cases htm : s.isHooked m = some n
  · have hum : u.isHooked m = some n := by rw [h.registry.toRegistry]; exact htm
    rw [getEntryPoint_restoreMethod_hooked hum hnm, if_neg hnm, if_neg]
    rintro ⟨-, hnd, hne⟩
    refine hne ?_
    rw [h.targets m List.mem_cons_self htm]
    refine htarget htm fun hmd => hnd ?_
    show u.toRegistry.isDeoptimized m
    rw [h.registry.toRegistry]
    exact hmd
  · refine getEntryPoint_restoreMethod_of_ne (hc.congr h.registry.sameHooks) hnm fun he => htm ?_
    rw [h.registry.toRegistry] at he
    exact he

end RestoresBridge

/-- **A deoptimized method that is not hooked** ends up with the
interpreter bridge, unless its entry point is the bridge when its pass
comes and the snapshot holds another one. -/
theorem getEntryPoint_restoreBackup_deoptimized (hc : Coherent art s) (ho : order.Of s cd self)
    (hbridge : art.artQuickToInterpreterBridge ≠ 0) (hn : s.isHooked n = none)
    (hd : s.isDeoptimized n) (hnative : (s.heap n).isNative = false)
    (hpop : ∀ old, pendingEntry s.backupMethods cd self order n = some old →
      s.getEntryPoint n = .code art.artQuickToInterpreterBridge →
        old = .code art.artQuickToInterpreterBridge)
    (hkeep : pendingEntry s.backupMethods cd self order n = none →
      s.getEntryPoint n = .code art.artQuickToInterpreterBridge)
    (htarget : ∀ m old, s.isHooked m = some n → ¬ s.isDeoptimized m →
      pendingEntry s.backupMethods cd self order m = some old → s.getEntryPoint m = old) :
    (restoreBackup art s cd self order).getEntryPoint n =
      .code art.artQuickToInterpreterBridge := by
  have hloop : RestoresBridge art s n [] (restoreBackup art s cd self order) := by
    rw [restoreBackup_eq]
    refine Table.forEach_rec ho.2.2 ⟨sameRegistry_popped, fun _ => rfl, fun hmem => ?_,
      fun _ _ _ => rfl⟩ fun visited m rest u old _ hrest hv h => ?_
    · cases hp : pendingEntry s.backupMethods cd self order n with
      | none => exact hkeep hp
      | some old => exact absurd ((mem_restoreOrder ho).2 ⟨old, hp⟩) hmem
    rw [lookup_popBackup] at hv
    by_cases hnm : n = m
    · refine ⟨h.registry.trans SameRegistry.restoreMethod, fun hmem => ?_, fun _ => ?_,
        fun t hk => h.targets_step hc hrest hk⟩
      · exact absurd (hnm ▸ hmem) hrest
      · exact h.own hbridge hnm hn hd hnative (hpop old (hnm ▸ hv))
    · have hsame := h.other hc hnm fun htm hmd => htarget m old htm hmd hv
      refine ⟨h.registry.trans SameRegistry.restoreMethod, fun hmem => ?_, fun hmem => ?_,
        fun t hk => h.targets_step hc hrest hk⟩
      · rw [hsame]
        exact h.fresh (List.mem_cons_of_mem m hmem)
      · rw [hsame]
        refine h.done fun hmem' => ?_
        rcases List.mem_cons.1 hmem' with he | hmem'
        · exact hnm he
        · exact hmem hmem'
  exact hloop.done List.not_mem_nil

theorem getData_restoreBackup : (restoreBackup art s cd self order).getData n = s.getData n :=
  Table.forEach_read_of_untouched (f := fun u : State => u.getData n) (I := fun _ => True)
    trivial (fun _ _ _ _ => trivial)
    fun _ _ _ _ _ _ => getData_restoreMethod

end LSPlant
