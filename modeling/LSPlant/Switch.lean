import LSPlant.Coherence
/-!
# Switching hooks on and off

The flag of a record, the slot it keeps and the bytes of the trampoline
are three copies of one fact. `SetHookEnabled` writes the trampoline for
the backup when it switches a hook on and for the hook when it switches
it off, so from the first call that changes the flag on, the trampoline
dispatches to the other side. Runs without such a call keep the three in
agreement.
-/

namespace LSPlant

variable {art : Art} {s s' : State} {t n : ArtMethodPtr} {record : HookRecord} {a : ℕ}

/-- The method the code at a method's entry point dispatches to, where that
is a trampoline. -/
def dispatchesTo (art : Art) (s : State) (t : ArtMethodPtr) : Option ArtMethodPtr :=
  match s.getEntryPoint t with
  | .trampoline a => dispatchTarget art.arch (s.trampolines.mem.read a art.arch.template.length)
  | .code _ => none

/-- **What the callers asked for last**: `true` from a successful `Hook` on,
then what the last `SetHookEnabled` passed. -/
def requested (art : Art) (s : State) (flag : ArtMethodPtr → Bool) : Event → ArtMethodPtr → Bool
  | .hook request => match request.target, (hookMethod art s request).2 with
    | some t, some _ => Function.update flag t true
    | _, _ => flag
  | .setHookEnabled (some t) enabled => Function.update flag t enabled
  | _ => flag

/-- The machine, with what was asked for last. -/
abbrev switchMachine (art : Art) : Machine (State × (ArtMethodPtr → Bool)) Event :=
  (machine art).withHistory (requested art)

/-- **The side in force is the side asked for**: every hooked method's
trampoline dispatches to the hook or the backup as was asked for last, the
record's flag names that side, and `SetHookEnabled` would return it. -/
def InForce (art : Art) (s : State) (flag : ArtMethodPtr → Bool) : Prop :=
  ∀ t record, s.hookedMethods.lookup t = some record →
    dispatchesTo art s t = some (if flag t then record.hook else record.backup) ∧
      dispatchesTo art s t = some (if record.enabled then record.hook else record.backup) ∧
      ∀ enabled, (setHookEnabled art s (some t) enabled).2 = flag t

/-- No `Hook` starts on the last slot count of the pool word. -/
def NoCarry (art : Art) (s : State) : Event → Prop
  | .hook _ => s.trampolines.NoCarry art
  | _ => True

instance (art : Art) (s : State) : ∀ e, Decidable (NoCarry art s e)
  | .hook _ => inferInstanceAs (Decidable (s.trampolines.NoCarry art))
  | .unHook _ | .setHookEnabled _ _ | .deoptimize _ | .updateMethodsCode _ _ _
  | .registerNative _ _ | .unregisterNative _ _ | .registerNatives _ _ _
  | .unregisterNatives _ _ _ | .backupClassMethods _ _ | .fixupStaticTrampolines _ _ _ _
  | .mapBootImageMethods _ _ | .collect => isTrue trivial

/-- **No call changes a flag**: a `SetHookEnabled` of a hooked method asks
for the state the method is in. -/
def KeepsFlag (s : State) : Event → Prop
  | .setHookEnabled (some t) enabled =>
    ∀ record, s.hookedMethods.lookup t = some record → record.enabled = enabled
  | _ => True

/-! ## What holds whatever is asked for -/

/-- **Every hook has a trampoline of its own**, its slot says how it is
encoded, and the record's flag is what was asked for. -/
structure Equipped (art : Art) (s : State) (flag : ArtMethodPtr → Bool) : Prop where
  ok : s.trampolines.Ok art
  flag_eq : ∀ t record, s.hookedMethods.lookup t = some record → record.enabled = flag t
  sides : ∀ t record, s.hookedMethods.lookup t = some record →
    record.hook ≠ record.backup ∧ art.arch.Fits record.hook ∧ art.arch.Fits record.backup
  armed : ∀ t record, s.hookedMethods.lookup t = some record →
    ∃ a q, s.getEntryPoint t = .trampoline a ∧ s.trampolines.Handed art a ∧
      Armed art s.trampolines.mem a record.methodEntrySlot q
  own : ∀ t n a, t ∈ s.hookedMethods → n ∈ s.hookedMethods →
    s.getEntryPoint t = .trampoline a → s.getEntryPoint n = .trampoline a → t = n

/-- An armed trampoline is where its method dispatches. -/
theorem dispatchesTo_of_armed {slot q : ℕ} (he : s.getEntryPoint t = .trampoline a)
    (h : Armed art s.trampolines.mem a slot q) : dispatchesTo art s t = some q := by
  rw [dispatchesTo, he]
  exact h.dispatchTarget

/-- Where entry point and bytes stay, so does where a method dispatches. -/
theorem dispatchesTo_congr (he : s'.getEntryPoint t = s.getEntryPoint t)
    (hread : ∀ a, s.getEntryPoint t = .trampoline a →
      s'.trampolines.mem.read a art.arch.template.length =
        s.trampolines.mem.read a art.arch.template.length) :
    dispatchesTo art s' t = dispatchesTo art s t := by
  rw [dispatchesTo, dispatchesTo, he]
  cases h : s.getEntryPoint t with
  | code c => rfl
  | trampoline a => simp only [hread a h]

/-- **What `SetHookEnabled` returns** for a hooked method is its flag. -/
theorem setHookEnabled_snd (h : s.hookedMethods.lookup t = some record) (enabled : Bool) :
    (setHookEnabled art s (some t) enabled).2 = record.enabled := by
  rcases setHookEnabled_cases art s (some t) enabled with
    ⟨-, hn⟩ | ⟨t', r, ht, hr, ⟨he, hs⟩ | ⟨he, hs⟩⟩
  · exact absurd (Table.mem_iff_lookup.2 ⟨record, h⟩) (hn t rfl)
  · cases ht
    rw [hs, Option.some.inj (h.symm.trans hr), he]
  · cases ht
    rw [hs, Option.some.inj (h.symm.trans hr), he]

/-! ## A hook gets its trampoline -/

section Hook

variable {flag : ArtMethodPtr → Bool} {request : HookRequest} {target : ArtMethodPtr} {stub : Stub}
  {slot : ℕ}

/-- A method hooked before keeps its entry point when another one gets
hooked. -/
theorem Hooked.getEntryPoint_of_hooked (h : Hooked art s request target stub a slot s')
    (hf : stub.Fresh art s target) (hn : n ∈ s.hookedMethods) :
    s'.getEntryPoint n = s.getEntryPoint n := by
  have hnt : n ≠ target := fun he => h.notHooked (he ▸ hn)
  have hnb : n ≠ stub.backup := fun he => hf.1.1 (he ▸ hn)
  rw [← State.view_entryPoint, h.view, if_neg hnt, if_neg hnb, State.view_entryPoint]

theorem Hooked.getEntryPoint_target (h : Hooked art s request target stub a slot s') :
    s'.getEntryPoint target = .trampoline a := by
  rw [← State.view_entryPoint, h.view, if_pos rfl]

theorem Hooked.lookup_hooked (h : Hooked art s request target stub a slot s') :
    s'.hookedMethods.lookup n =
      if n = target then some (stub.record slot) else s.hookedMethods.lookup n := by
  rw [h.hookedMethods, Table.lookup_insert_eq]

/-- What was hooked before keeps dispatching where it did. -/
theorem Hooked.dispatchesTo_of_hooked (h : Hooked art s request target stub a slot s')
    (hE : Equipped art s flag) (hA : admissible art s (.hook request))
    (hC : s.trampolines.NoCarry art) (hn : n ∈ s.hookedMethods) :
    dispatchesTo art s' n = dispatchesTo art s n := by
  have hf := hA.1 target h.target_eq stub h.built_eq
  obtain ⟨record, hrec⟩ := Table.mem_iff_lookup.1 hn
  obtain ⟨b, q, hb, hbh, -⟩ := hE.armed n record hrec
  refine dispatchesTo_congr (h.getEntryPoint_of_hooked hf hn) fun c hc => ?_
  obtain rfl : b = c := EntryPoint.trampoline.inj (hb.symm.trans hc)
  have hread := generateTrampolineFor_read stub.hook request.mprotectOk hE.ok hC
    hA.2 hbh
  rw [h.generated] at hread
  exact hread

/-- **A successful hook leaves every hook equipped.** -/
theorem Hooked.equipped (h : Hooked art s request target stub a slot s')
    (hE : Equipped art s flag) (hA : admissible art s (.hook request))
    (hC : s.trampolines.NoCarry art) :
    Equipped art s' (Function.update flag target true) := by
  have hf := hA.1 target h.target_eq stub h.built_eq
  have hgen := h.generated
  have hok := generateTrampolineFor_ok stub.hook request.mprotectOk hE.ok hC hA.2
  have hfresh := generateTrampolineFor_fresh stub.hook request.mprotectOk
    hE.ok hC hA.2 (by rw [hgen]) hf.2.2.2.1
  have hhanded := fun b => generateTrampolineFor_handed stub.hook
    request.mprotectOk (a := b) hE.ok hC hA.2
  have hread := fun b => generateTrampolineFor_read stub.hook
    request.mprotectOk (a := b) hE.ok hC hA.2
  simp only [hgen] at hok hfresh hhanded hread
  have hmem : ∀ n, n ∈ s'.hookedMethods ↔ n = target ∨ n ∈ s.hookedMethods := fun n => by
    rw [h.hookedMethods, Finmap.mem_insert]
  -- a trampoline handed out before is not the one generated now
  have hapart : ∀ n ∈ s.hookedMethods, s'.getEntryPoint n ≠ .trampoline a := fun n hn he => by
    obtain ⟨record, hrec⟩ := Table.mem_iff_lookup.1 hn
    obtain ⟨b, q, hb, hbh, -⟩ := hE.armed n record hrec
    rw [h.getEntryPoint_of_hooked hf hn, hb] at he
    exact hfresh.2.1 (EntryPoint.trampoline.inj he ▸ hbh)
  refine ⟨hok, fun t record hrec => ?_, fun t record hrec => ?_, fun t record hrec => ?_,
    fun t n b ht hn htb hnb => ?_⟩
  · rw [h.lookup_hooked] at hrec
    split at hrec
    · obtain rfl := Option.some.inj hrec
      subst t
      exact (Function.update_self target true flag).symm
    · rename_i hne
      rw [Function.update_of_ne hne]
      exact hE.flag_eq t record hrec
  · rw [h.lookup_hooked] at hrec
    split at hrec
    · obtain rfl := Option.some.inj hrec
      exact ⟨hf.2.2.1.symm, hf.2.2.2.1, hf.2.2.2.2.1⟩
    · exact hE.sides t record hrec
  · rw [h.lookup_hooked] at hrec
    split at hrec
    · obtain rfl := Option.some.inj hrec
      subst t
      exact ⟨a, stub.hook, h.getEntryPoint_target, hfresh.1, hfresh.2.2⟩
    · obtain ⟨b, q, hb, hbh, harmed⟩ := hE.armed t record hrec
      have ht : t ∈ s.hookedMethods := Table.mem_iff_lookup.2 ⟨record, hrec⟩
      exact ⟨b, q, (h.getEntryPoint_of_hooked hf ht).trans hb, hhanded b hbh,
        harmed.congr (hread b hbh)⟩
  · rcases (hmem t).1 ht with rfl | ht <;> rcases (hmem n).1 hn with rfl | hn
    · rfl
    · rw [h.getEntryPoint_target] at htb
      exact absurd (EntryPoint.trampoline.inj htb ▸ hnb) (hapart n hn)
    · rw [h.getEntryPoint_target] at hnb
      exact absurd (EntryPoint.trampoline.inj hnb ▸ htb) (hapart t ht)
    · rw [h.getEntryPoint_of_hooked hf ht] at htb
      rw [h.getEntryPoint_of_hooked hf hn] at hnb
      exact hE.own t n b ht hn htb hnb

/-- **A successful hook is in force**, and those before it stay so. -/
theorem Hooked.inForce (h : Hooked art s request target stub a slot s')
    (hE : Equipped art s flag) (hA : admissible art s (.hook request))
    (hC : s.trampolines.NoCarry art) (hP : InForce art s flag) :
    InForce art s' (Function.update flag target true) := by
  have hf := hA.1 target h.target_eq stub h.built_eq
  have hfresh := generateTrampolineFor_fresh stub.hook request.mprotectOk
    hE.ok hC hA.2 (by rw [h.generated]) hf.2.2.2.1
  rw [h.generated] at hfresh
  intro t record hrec
  have hflag := (h.equipped hE hA hC).flag_eq t record hrec
  refine ⟨?_, ?_, fun enabled => (setHookEnabled_snd hrec enabled).trans hflag⟩ <;>
    rw [h.lookup_hooked] at hrec <;> split at hrec
  · obtain rfl := Option.some.inj hrec
    subst t
    rw [Function.update_self, if_pos rfl]
    exact dispatchesTo_of_armed h.getEntryPoint_target hfresh.2.2
  · rename_i hne
    rw [Function.update_of_ne hne, h.dispatchesTo_of_hooked hE hA hC
      (Table.mem_iff_lookup.2 ⟨record, hrec⟩)]
    exact (hP t record hrec).1
  · obtain rfl := Option.some.inj hrec
    subst t
    exact dispatchesTo_of_armed h.getEntryPoint_target hfresh.2.2
  · rw [h.dispatchesTo_of_hooked hE hA hC (Table.mem_iff_lookup.2 ⟨record, hrec⟩)]
    exact (hP t record hrec).2.1

/-- A failed hook takes a slot of the pool and no more. -/
theorem equipped_of_failed {T : Trampolines}
    (hT : T = s.trampolines ∨ ∃ stub ∈ request.built, T =
      (generateTrampolineFor art s.trampolines stub.hook request.mmap request.mprotectOk).1)
    (hE : Equipped art s flag) (hA : admissible art s (.hook request))
    (hC : s.trampolines.NoCarry art) :
    Equipped art { s with trampolines := T } flag ∧
      ∀ n ∈ s.hookedMethods, dispatchesTo art { s with trampolines := T } n =
        dispatchesTo art s n := by
  have hpool : T.Ok art ∧ ∀ b, s.trampolines.Handed art b → T.Handed art b ∧
      T.mem.read b art.arch.template.length =
        s.trampolines.mem.read b art.arch.template.length := by
    rcases hT with rfl | ⟨stub, -, rfl⟩
    · exact ⟨hE.ok, fun b hb => ⟨hb, rfl⟩⟩
    · exact ⟨generateTrampolineFor_ok _ _ hE.ok hC hA.2, fun b hb =>
        ⟨generateTrampolineFor_handed _ _ hE.ok hC hA.2 hb,
          generateTrampolineFor_read _ _ hE.ok hC hA.2 hb⟩⟩
  refine ⟨⟨hpool.1, hE.flag_eq, hE.sides, fun t record hrec => ?_, hE.own⟩, fun n hn => ?_⟩
  · obtain ⟨b, q, hb, hbh, harmed⟩ := hE.armed t record hrec
    exact ⟨b, q, hb, (hpool.2 b hbh).1, harmed.congr (hpool.2 b hbh).2⟩
  · obtain ⟨record, hrec⟩ := Table.mem_iff_lookup.1 hn
    obtain ⟨b, q, hb, hbh, -⟩ := hE.armed n record hrec
    refine dispatchesTo_congr rfl fun c hc => ?_
    obtain rfl : b = c := EntryPoint.trampoline.inj (hb.symm.trans hc)
    exact (hpool.2 b hbh).2

end Hook

/-! ## A hook is taken out -/

section UnHook

variable {flag : ArtMethodPtr → Bool} {target : ArtMethodPtr}

theorem UnHooked.lookup_hooked (h : UnHooked art s target record s') :
    s'.hookedMethods.lookup n = if n = target then none else s.hookedMethods.lookup n := by
  rw [h.toRegistry]
  exact Table.lookup_erase_eq

/-- The hooks left are those that were there, with their entry points. -/
theorem UnHooked.of_lookup {r : HookRecord} (h : UnHooked art s target record s')
    (hr : s'.hookedMethods.lookup n = some r) :
    s.hookedMethods.lookup n = some r ∧ s'.getEntryPoint n = s.getEntryPoint n := by
  rw [h.lookup_hooked] at hr
  split at hr
  · cases hr
  · rename_i hne
    exact ⟨hr, by rw [← State.view_entryPoint, h.view, if_neg hne, State.view_entryPoint]⟩

theorem UnHooked.dispatchesTo_eq {r : HookRecord} (h : UnHooked art s target record s')
    (hr : s'.hookedMethods.lookup n = some r) : dispatchesTo art s' n = dispatchesTo art s n :=
  dispatchesTo_congr (h.of_lookup hr).2 fun a _ => by rw [h.trampolines]

theorem UnHooked.equipped (h : UnHooked art s target record s') (hE : Equipped art s flag) :
    Equipped art s' flag where
  ok := by rw [h.trampolines]; exact hE.ok
  flag_eq t r hr := hE.flag_eq t r (h.of_lookup hr).1
  sides t r hr := hE.sides t r (h.of_lookup hr).1
  armed t r hr := by
    rw [(h.of_lookup hr).2, h.trampolines]
    exact hE.armed t r (h.of_lookup hr).1
  own t n a ht hn hta hna := by
    obtain ⟨r, hr⟩ := Table.mem_iff_lookup.1 ht
    obtain ⟨r', hr'⟩ := Table.mem_iff_lookup.1 hn
    rw [(h.of_lookup hr).2] at hta
    rw [(h.of_lookup hr').2] at hna
    exact hE.own t n a (Table.mem_iff_lookup.2 ⟨r, (h.of_lookup hr).1⟩)
      (Table.mem_iff_lookup.2 ⟨r', (h.of_lookup hr').1⟩) hta hna

theorem UnHooked.inForce (h : UnHooked art s target record s') (hE : Equipped art s flag)
    (hP : InForce art s flag) : InForce art s' flag := by
  intro t r hr
  have hold := hP t r (h.of_lookup hr).1
  rw [h.dispatchesTo_eq hr]
  exact ⟨hold.1, hold.2.1, fun enabled =>
    (setHookEnabled_snd hr enabled).trans ((h.equipped hE).flag_eq t r hr)⟩

end UnHook

/-! ## A hook is switched -/

section Switch

variable {flag : ArtMethodPtr → Bool} {enabled : Bool}

/-- The state a `SetHookEnabled` that changes the flag leaves. -/
def switched (art : Art) (s : State) (t : ArtMethodPtr) (record : HookRecord)
    (enabled : Bool) : State :=
  let written := writeThroughSlot art s.trampolines.mem record.methodEntrySlot
    (if enabled then record.backup else record.hook)
  { s with
    trampolines := { s.trampolines with mem := written.1 }
    hookedMethods := s.hookedMethods.insert t
      { record with enabled, methodEntrySlot := written.2 } }

theorem lookup_switched {r : HookRecord}
    (h : (switched art s t record enabled).hookedMethods.lookup n = some r) :
    (n = t ∧ r = { record with
        enabled
        methodEntrySlot := (writeThroughSlot art s.trampolines.mem record.methodEntrySlot
          (if enabled then record.backup else record.hook)).2 }) ∨
      (n ≠ t ∧ s.hookedMethods.lookup n = some r) := by
  simp only [switched, Table.lookup_insert_eq] at h
  split at h
  · exact Or.inl ⟨‹_›, (Option.some.inj h).symm⟩
  · exact Or.inr ⟨‹_›, h⟩

/-- A switch writes the trampoline of its own method and no other's. -/
theorem read_switched {b : ℕ} (hE : Equipped art s flag)
    (hrec : s.hookedMethods.lookup t = some record) (hn : n ∈ s.hookedMethods) (hne : n ≠ t)
    (hb : s.getEntryPoint n = .trampoline b) :
    (switched art s t record enabled).trampolines.mem.read b art.arch.template.length =
      s.trampolines.mem.read b art.arch.template.length := by
  obtain ⟨r, hr⟩ := Table.mem_iff_lookup.1 hn
  obtain ⟨c, q, hc, hch, -⟩ := hE.armed n r hr
  obtain rfl : c = b := EntryPoint.trampoline.inj (hc.symm.trans hb)
  obtain ⟨a, p, ha, hah, harmed⟩ := hE.armed t record hrec
  have hac : a ≠ c := fun he =>
    hne (hE.own n t c hn (Table.mem_iff_lookup.2 ⟨record, hrec⟩) hb (he ▸ ha))
  have hlen := template_length_le art.arch
  have hd := hah.disjoint hE.ok hch hac
  exact read_writeThroughSlot_of_disjoint (hah.even hE.ok) harmed (by omega)

variable (enabled) in
/-- **The trampoline switched is armed for the side that was written.** -/
theorem armed_switched (hE : Equipped art s flag)
    (hrec : s.hookedMethods.lookup t = some record) :
    ∃ a, s.getEntryPoint t = .trampoline a ∧ s.trampolines.Handed art a ∧
      Armed art (switched art s t record enabled).trampolines.mem a
        (writeThroughSlot art s.trampolines.mem record.methodEntrySlot
          (if enabled then record.backup else record.hook)).2
        (if enabled then record.backup else record.hook) := by
  obtain ⟨a, q, ha, hah, harmed⟩ := hE.armed t record hrec
  have hfits : art.arch.Fits (if enabled then record.backup else record.hook) := by
    split
    · exact (hE.sides t record hrec).2.2
    · exact (hE.sides t record hrec).2.1
  exact ⟨a, ha, hah, armed_writeThroughSlot (hah.even hE.ok) harmed hfits⟩

/-- **A switch leaves every hook equipped**, whichever side it writes. -/
theorem equipped_switched (hE : Equipped art s flag)
    (hrec : s.hookedMethods.lookup t = some record) :
    Equipped art (switched art s t record enabled) (Function.update flag t enabled) where
  ok := ⟨hE.ok.pool_lt, hE.ok.page_mem, hE.ok.aligned, hE.ok.pages_le⟩
  flag_eq n r hr := by
    rcases lookup_switched hr with ⟨rfl, rfl⟩ | ⟨hne, hr⟩
    · exact (Function.update_self n enabled flag).symm
    · rw [Function.update_of_ne hne]
      exact hE.flag_eq n r hr
  sides n r hr := by
    rcases lookup_switched hr with ⟨rfl, rfl⟩ | ⟨-, hr⟩
    · exact hE.sides n record hrec
    · exact hE.sides n r hr
  armed n r hr := by
    rcases lookup_switched hr with ⟨rfl, rfl⟩ | ⟨hne, hr⟩
    · obtain ⟨a, ha, hah, harmed⟩ := armed_switched enabled hE hrec
      exact ⟨a, _, ha, hah, harmed⟩
    · obtain ⟨a, q, ha, hah, harmed⟩ := hE.armed n r hr
      have hn : n ∈ s.hookedMethods := Table.mem_iff_lookup.2 ⟨r, hr⟩
      exact ⟨a, q, ha, hah, harmed.congr (read_switched hE hrec hn hne ha)⟩
  own m n a hm hn hma hna := by
    have hmem : ∀ k, k ∈ (switched art s t record enabled).hookedMethods →
        k ∈ s.hookedMethods := fun k hk => by
      rcases Finmap.mem_insert.1 hk with rfl | hk
      · exact Table.mem_iff_lookup.2 ⟨record, hrec⟩
      · exact hk
    exact hE.own m n a (hmem m hm) (hmem n hn) hma hna

/-- **And puts the other side in force than the one asked for.** -/
theorem not_inForce_switched (hE : Equipped art s flag)
    (hrec : s.hookedMethods.lookup t = some record) :
    ¬ InForce art (switched art s t record enabled) (Function.update flag t enabled) := by
  intro hP
  obtain ⟨a, ha, -, harmed⟩ := armed_switched enabled hE hrec
  have hdispatch := dispatchesTo_of_armed
    (s := switched art s t record enabled) (t := t) ha harmed
  have hin := (hP t _ (by rw [switched, Table.lookup_insert_eq, if_pos rfl])).1
  rw [hdispatch, Function.update_self] at hin
  have hne := (hE.sides t record hrec).1
  cases enabled
  · exact hne (Option.some.inj hin)
  · exact hne (Option.some.inj hin).symm

end Switch

/-! ## Runs -/

/-- What a step of these runs is promised. -/
def Promised (art : Art) (p : State × (ArtMethodPtr → Bool)) (e : Event) : Prop :=
  admissible art p.1 e ∧ e.isHooking = true ∧ NoCarry art p.1 e

variable {p : State × (ArtMethodPtr → Bool)} {e : Event}

/-- A step keeps every hook equipped. -/
theorem equipped_step (hE : Equipped art p.1 p.2) (hG : Promised art p e) :
    Equipped art ((switchMachine art).step p e).1 ((switchMachine art).step p e).2 := by
  obtain ⟨hA, hkind, hC⟩ := hG
  cases e with
  | hook request =>
    rcases hookMethod_cases art p.1 request (backup_ne_target hA) with
      ⟨T, hT, h⟩ | ⟨target, stub, a, slot, s', h, hh⟩ <;>
      simp only [Machine.withHistory_step, machine_step, step, requested, h]
    · cases request.target <;> exact (equipped_of_failed hT hE hA hC).1
    · rw [hh.target_eq]
      exact hh.equipped hE hA hC
  | unHook tm =>
    rcases unHook_cases art p.1 tm with ⟨h, -⟩ | ⟨target, record, s', -, h, hu⟩ <;>
      simp only [Machine.withHistory_step, machine_step, step, requested, h]
    · exact hE
    · exact hu.equipped hE
  | setHookEnabled tm enabled =>
    rcases setHookEnabled_cases art p.1 tm enabled with
      ⟨h, hn⟩ | ⟨t, record, rfl, hrec, ⟨hflag, h⟩ | ⟨hflag, h⟩⟩ <;>
      simp only [Machine.withHistory_step, machine_step, step, h]
    · -- the flag asked for of a method that is not hooked is no hook's
      cases tm with
      | none => exact hE
      | some t =>
        have ht := hn t rfl
        refine { hE with flag_eq := fun n r hr => ?_ }
        have hne : n ≠ t := fun he => ht (he ▸ Table.mem_iff_lookup.2 ⟨r, hr⟩)
        simp only [requested, Function.update_of_ne hne]
        exact hE.flag_eq n r hr
    · refine { hE with flag_eq := fun n r hr => ?_ }
      simp only [requested]
      by_cases hne : n = t
      · subst n
        rw [Function.update_self, ← hflag, Option.some.inj (hr.symm.trans hrec)]
      · rw [Function.update_of_ne hne]
        exact hE.flag_eq n r hr
    · exact equipped_switched hE hrec
  | _ => cases hkind

/-- **A step keeps the side asked for in force exactly when it changes no
flag.** -/
theorem inForce_step_iff (hE : Equipped art p.1 p.2) (hG : Promised art p e)
    (hP : InForce art p.1 p.2) :
    InForce art ((switchMachine art).step p e).1 ((switchMachine art).step p e).2 ↔
      KeepsFlag p.1 e := by
  have hnext := equipped_step hE hG
  obtain ⟨hA, hkind, hC⟩ := hG
  cases e with
  | hook request =>
    refine ⟨fun _ => trivial, fun _ => ?_⟩
    rcases hookMethod_cases art p.1 request (backup_ne_target hA) with
      ⟨T, hT, h⟩ | ⟨target, stub, a, slot, s', h, hh⟩ <;>
      simp only [Machine.withHistory_step, machine_step, step, requested, h] at hnext ⊢
    · have hflag : (match request.target, (none : Option ArtMethodPtr) with
          | some t, some _ => Function.update p.2 t true
          | _, _ => p.2) = p.2 := by cases request.target <;> rfl
      rw [hflag] at hnext ⊢
      intro t r hr
      have hold := hP t r hr
      rw [(equipped_of_failed hT hE hA hC).2 t (Table.mem_iff_lookup.2 ⟨r, hr⟩)]
      exact ⟨hold.1, hold.2.1, fun enabled =>
        (setHookEnabled_snd hr enabled).trans (hnext.flag_eq t r hr)⟩
    · rw [hh.target_eq]
      exact hh.inForce hE hA hC hP
  | unHook tm =>
    refine ⟨fun _ => trivial, fun _ => ?_⟩
    rcases unHook_cases art p.1 tm with ⟨h, -⟩ | ⟨target, record, s', -, h, hu⟩ <;>
      simp only [Machine.withHistory_step, machine_step, step, requested, h]
    · exact hP
    · exact hu.inForce hE hP
  | setHookEnabled tm enabled =>
    rcases setHookEnabled_cases art p.1 tm enabled with
      ⟨h, hn⟩ | ⟨t, record, rfl, hrec, ⟨hflag, h⟩ | ⟨hflag, h⟩⟩ <;>
      simp only [Machine.withHistory_step, machine_step, step, h] at hnext ⊢
    · cases tm with
      | none => exact ⟨fun _ => trivial, fun _ => hP⟩
      | some t =>
        have ht := hn t rfl
        refine ⟨fun _ r hr => absurd (Table.mem_iff_lookup.2 ⟨r, hr⟩) ht, fun _ n r hr => ?_⟩
        have hold := hP n r hr
        have hne : n ≠ t := fun he => ht (he ▸ Table.mem_iff_lookup.2 ⟨r, hr⟩)
        have heq : requested art p.1 p.2 (.setHookEnabled (some t) enabled) n = p.2 n := by
          simp only [requested, Function.update_of_ne hne]
        rw [heq]
        exact hold
    · refine ⟨fun _ r hr => by rw [Option.some.inj (hr.symm.trans hrec)]; exact hflag,
        fun _ n r hr => ?_⟩
      have hold := hP n r hr
      have heq : requested art p.1 p.2 (.setHookEnabled (some t) enabled) n = p.2 n :=
        (hnext.flag_eq n r hr).symm.trans (hE.flag_eq n r hr)
      rw [heq]
      exact hold
    · -- a call that changes the record is the one that breaks it
      refine ⟨fun hin => absurd hin (not_inForce_switched hE hrec), fun hkeep => ?_⟩
      rw [hkeep record hrec] at hflag
      cases enabled <;> cases hflag
  | _ => cases hkind

theorem equipped_initial {heap : ArtMethodPtr → ArtMethod} {mem : Memory} {ids : List ℕ}
    {owner : ℕ → ArtMethodPtr} {flag : ArtMethodPtr → Bool} :
    Equipped art (State.initial heap mem ids owner) flag where
  ok := {
    pool_lt := by show 0 < _; positivity
    page_mem := Or.inl (by simp [State.initial, Art.pageOf])
    aligned := by simp [State.initial]
    pages_le := by simp [State.initial] }
  flag_eq t record h := by simp [State.initial, Registry.empty] at h
  sides t record h := by simp [State.initial, Registry.empty] at h
  armed t record h := by simp [State.initial, Registry.empty] at h
  own t n a ht := absurd ht Finmap.notMem_empty

/-- **The side asked for is in force along a run exactly when no call of
the run changes a flag.** The run is any sequence of `Hook`,
`SetHookEnabled` and `UnHook` calls, no `Hook` of which starts on the last
slot count of the pool word. -/
theorem inForce_everywhere_iff {heap : ArtMethodPtr → ArtMethod} {mem : Memory} {ids : List ℕ}
    {owner : ℕ → ArtMethodPtr} {flag : ArtMethodPtr → Bool} {es : List Event}
    (hL : (machine art).Legal (State.initial heap mem ids owner) es)
    (hkind : ∀ e ∈ es, e.isHooking = true)
    (hcarry : (machine art).EachStep (NoCarry art) (State.initial heap mem ids owner) es) :
    (switchMachine art).Everywhere (fun p => InForce art p.1 p.2)
        (State.initial heap mem ids owner, flag) es ↔
      (machine art).EachStep KeepsFlag (State.initial heap mem ids owner) es := by
  have hG : (switchMachine art).EachStep (Promised art) (State.initial heap mem ids owner, flag)
      es := by
    have hcarry' := (Machine.withHistory_eachStep (requested art)
      (State.initial heap mem ids owner, flag)).2 hcarry
    have hL' := (Machine.withHistory_eachStep (requested art)
      (State.initial heap mem ids owner, flag)).2 hL
    exact Machine.eachStep_and.2 ⟨hL', Machine.eachStep_and.2
      ⟨Machine.eachStep_of_forall hkind, hcarry'⟩⟩
  have hstart : InForce art (State.initial heap mem ids owner) flag := fun t record h => by
    simp [State.initial, Registry.empty] at h
  refine Iff.trans ?_ (Machine.withHistory_eachStep (G := KeepsFlag) (requested art)
    (State.initial heap mem ids owner, flag))
  exact Machine.everywhere_iff_eachStep (Q := fun p => Equipped art p.1 p.2)
    (fun p e hE h => equipped_step hE h) (fun p e hE h hP => inForce_step_iff hE h hP)
    equipped_initial hstart hG

/-- A run it is about: two hooks, one switched on while it is on. -/
theorem inForce_everywhere_iff_sample :
    (switchMachine sampleArt).Everywhere (fun p => InForce sampleArt p.1 p.2)
        (sampleState kAccPublic, fun _ => true)
        [sampleHook 110 210 211 (some 65536), sampleHook 120 220 221 none,
          .setHookEnabled (some 110) true] ↔
      (machine sampleArt).EachStep KeepsFlag (sampleState kAccPublic)
        [sampleHook 110 210 211 (some 65536), sampleHook 120 220 221 none,
          .setHookEnabled (some 110) true] :=
  inForce_everywhere_iff (by decide) (by decide) (by decide)

/-- **A hook switched off keeps running**: after `Hook` and
`SetHookEnabled(false)` the record says disabled and the trampoline still
dispatches to the hook. -/
theorem switched_off_dispatches_to_hook :
    let run := [sampleHook 110 210 211 (some 65536), .setHookEnabled (some 110) false]
    let p := (switchMachine sampleArt).exec (sampleState kAccPublic, fun _ => true) run
    (machine sampleArt).Legal (sampleState kAccPublic) run ∧ p.2 110 = false ∧
      (p.1.hookedMethods.lookup 110).map (fun r => (r.backup, r.enabled)) = some (211, false) ∧
      dispatchesTo sampleArt p.1 110 = some 210 ∧ ¬ InForce sampleArt p.1 p.2 := by
  intro run p
  have hrec : p.1.hookedMethods.lookup 110 =
      some { hook := 210, backup := 211, methodEntrySlot := 65537, backupMethod := 211,
             enabled := false } := by decide
  have hdispatch : dispatchesTo sampleArt p.1 110 = some 210 := by decide
  have hflag : p.2 110 = false := by decide
  refine ⟨by decide, hflag, by rw [hrec]; rfl, hdispatch, fun hP => ?_⟩
  have hin := (hP 110 _ hrec).1
  rw [hdispatch, hflag] at hin
  exact absurd hin (by decide)

end LSPlant
