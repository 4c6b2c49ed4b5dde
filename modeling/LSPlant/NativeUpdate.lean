import LSPlant.Coherence
/-!
# What native registration leaves

`NativeMethodEntryPointUpdater` records what the hooked native methods of
a class look like, lets ART register, and compares. A method that looks
different afterwards hands what it has to its backup and gets back what
was recorded; ART's own function having written data pointers only, the
entry point handed over is the method's own.
-/

namespace LSPlant

variable {art : Art} {s u : State} {t m n : ArtMethodPtr}
  {methods : Table ArtMethodPtr NativeMethodState} {saved : NativeMethodState}
  {written : List (ArtMethodPtr × ℕ)} {order : List ArtMethodPtr}

/-- **The updater's table is a record of hooked methods** as they are. -/
def RecordOf (s : State) (methods : Table ArtMethodPtr NativeMethodState) : Prop :=
  ∀ m saved, methods.lookup m = some saved → s.isHooked m = some saved.backup ∧
    saved.data = s.getData m ∧ saved.entryPoint = s.getEntryPoint m ∧
      (s.heap saved.backup).isNative = true

theorem recordOf_empty : RecordOf s ∅ := fun m saved h => by simp at h

theorem RecordOf.recordNative (h : RecordOf s methods) :
    RecordOf s (recordNative s methods m) := by
  unfold LSPlant.recordNative
  cases hb : s.isHooked m with
  | none => exact h
  | some b =>
    simp only
    split
    · rename_i hnative
      intro n saved hn
      rw [Table.lookup_insert_eq] at hn
      split at hn
      · obtain rfl := Option.some.inj hn
        subst n
        exact ⟨hb, rfl, rfl, hnative⟩
      · exact h n saved hn
    · exact h

theorem recordOf_registeredMethods {natives : List JNINativeMethod} :
    RecordOf s (registeredMethods s natives) := by
  have hfold : ∀ (natives : List JNINativeMethod) acc, RecordOf s acc.2 →
      RecordOf s (natives.foldl (recordRegistered s) acc).2 := by
    intro natives
    induction natives with
    | nil => exact fun acc h => h
    | cons native natives ih =>
      refine fun acc h => ih _ ?_
      unfold recordRegistered
      split
      · exact h
      · split
        · exact h.recordNative
        · split
          · exact h.recordNative
          · exact h
  exact hfold natives (true, ∅) recordOf_empty

theorem recordOf_unregisteredMethods {visited : List ArtMethodPtr} :
    RecordOf s (unregisteredMethods s visited) := by
  have hfold : ∀ (visited : List ArtMethodPtr) acc, RecordOf s acc →
      RecordOf s (visited.foldl (fun methods m =>
        if (s.heap m).isNative then recordNative s methods m else methods) acc) := by
    intro visited
    induction visited with
    | nil => exact fun acc h => h
    | cons m visited ih =>
      refine fun acc h => ih _ ?_
      simp only
      split
      · exact h.recordNative
      · exact h
  exact hfold visited ∅ recordOf_empty

/-- Registering leaves entry points alone. -/
theorem getEntryPoint_artSetNatives :
    (artSetNatives s written).getEntryPoint n = s.getEntryPoint n := by
  unfold artSetNatives
  induction written generalizing s with
  | nil => rfl
  | cons w written ih => exact ih.trans State.getEntryPoint_setData

theorem sameRegistry_artSetNatives : SameRegistry s (artSetNatives s written) :=
  SameRegistry.foldl (fun _ _ => SameRegistry.setData) written s

/-- **One pass of the destructor**: nothing where nothing changed, and
otherwise the method's own entry point to the backup. -/
theorem getEntryPoint_updateNative :
    (updateNative art u m saved).getEntryPoint n =
      if u.getData m = saved.data ∧ u.getEntryPoint m = saved.entryPoint then u.getEntryPoint n
      else if n = m then saved.entryPoint
      else if n = saved.backup then u.getEntryPoint m else u.getEntryPoint n := by
  unfold updateNative
  split
  · rfl
  · simp only [State.getEntryPoint_setEntryPoint, State.getEntryPoint_setData]

/-- **A hooked method keeps its entry point** through a registration. -/
theorem getEntryPoint_withUpdater_hooked (hc : Coherent art s) (hr : RecordOf s methods)
    (ht : t ∈ s.hookedMethods) :
    (withUpdater art s methods written order).getEntryPoint t = s.getEntryPoint t := by
  refine Table.forEach_induction (P := fun u : State => u.getEntryPoint t = s.getEntryPoint t)
    getEntryPoint_artSetNatives fun u m saved _ hm hu => ?_
  obtain ⟨hb, -, he, -⟩ := hr m saved hm
  rw [getEntryPoint_updateNative]
  split
  · exact hu
  · split
    · subst t; exact he
    · rw [if_neg (hc.ne_backup ht hb).symm]
      exact hu

/-- **So does a method that is neither hooked nor native**: no table names
it. -/
theorem getEntryPoint_withUpdater_of_not_native (hr : RecordOf s methods)
    (hn : n ∉ s.hookedMethods) (hnative : (s.heap n).isNative = false) :
    (withUpdater art s methods written order).getEntryPoint n = s.getEntryPoint n := by
  refine Table.forEach_induction (P := fun u : State => u.getEntryPoint n = s.getEntryPoint n)
    getEntryPoint_artSetNatives fun u m saved _ hm hu => ?_
  obtain ⟨hb, -, -, hbn⟩ := hr m saved hm
  have hnm : n ≠ m := fun he => hn (he ▸ Registry.mem_hookedMethods.2 ⟨_, hb⟩)
  have hnb : n ≠ saved.backup := fun he => by
    rw [← he, hnative] at hbn
    cases hbn
  rw [getEntryPoint_updateNative, if_neg hnm, if_neg hnb, ite_self]
  exact hu

end LSPlant
