import LSPlant.Art.MethodBytes
import LSPlant.Hook
/-!
# A hook and its undoing, byte by byte

`DoHook` and `DoUnHook` on the bytes of two method records. The target is
copied to the backup in the middle of the rewriting of its flags: what is
done to the flags before the copy is in both records, what is done after
it in one. `DoUnHook` copies everything back but the flags.
-/

namespace LSPlant

namespace MethodLayout

variable {art : Art} (L : MethodLayout art)

/-- `BackupTo`. -/
def backupTo (mem : Memory) (target backup : ℕ) : Memory :=
  let mem := L.setNonCompilable mem target
  let mem := L.copyFrom mem backup target
  let mem := L.clearFastInterpretFlag mem target
  if L.isStatic mem backup then mem else L.setPrivate mem backup

/-- What `DoHook` does to the records once there is a trampoline. -/
def hookRecords (mem : Memory) (target backup entrypoint : ℕ) : Memory :=
  let mem := L.setNonIntrinsic mem target
  let mem := L.backupTo mem target backup
  let mem := L.setNonCompilable mem target
  let mem := L.setEntryPoint mem target entrypoint
  L.setNonConstructor mem backup

/-- **`DoHook`**: the pool and the records after it, and the slot of the
trampoline. -/
def doHook (trampolines : Trampolines) (mem : Memory) (target hook backup : ℕ)
    (mmap : Option ℕ) (mprotectOk : Bool) : Trampolines × Memory × Option ℕ :=
  match generateTrampolineFor art trampolines hook mmap mprotectOk with
  | (trampolines, none) => (trampolines, mem, none)
  | (trampolines, some (entrypoint, slot)) =>
    (trampolines, L.hookRecords mem target backup entrypoint, some slot)

/-- **`DoUnHook`**: the backup copied over the target, which keeps its
flags. -/
def doUnHook (mem : Memory) (target backup : ℕ) : Memory :=
  let accessFlags := L.getAccessFlags mem target
  let mem := L.copyFrom mem target backup
  L.setAccessFlags mem target accessFlags

variable {L} (mem : Memory) {target backup e : ℕ}

/-! ## What is done to flags -/

/-- The flags of a method that is not to be compiled. -/
def nonCompilable (masks : AccessFlagMasks) (flags : BitVec 32) : BitVec 32 :=
  (flags ||| masks.kAccCompileDontBother) &&& ~~~masks.kAccPreCompiled

theorem and_static_of_kind {m : BitVec 32} (h : m &&& kindMask = 0#32) :
    m &&& kAccStatic = 0#32 := by
  rw [show kAccStatic = kindMask &&& kAccStatic by decide, ← BitVec.and_assoc, h]
  exact BitVec.zero_and

/-- Whether a method is static is not among them. -/
theorem nonCompilable_and_static (masks : AccessFlagMasks) (flags : BitVec 32) :
    nonCompilable masks flags &&& kAccStatic = flags &&& kAccStatic :=
  (andNot_and_of_disjoint (and_static_of_kind masks.preCompiled_kind)).trans
    (or_and_of_disjoint (and_static_of_kind masks.compileDontBother_kind))

/-- **The flags of the backup**, from those the target has when it is backed
up. -/
def backupFlags (masks : AccessFlagMasks) (flags : BitVec 32) : BitVec 32 :=
  if flags &&& kAccStatic ≠ 0#32 then nonCompilable masks flags
  else (nonCompilable masks flags ||| kAccPrivate) &&& ~~~kAccProtected &&& ~~~kAccPublic

/-! ## Backing up -/

section BackupTo

variable (hd : L.Distinct target backup)
include hd

/-- **The copy is taken after `SetNonCompilable`.** The flag the interpreter
looks at goes from the target only, what may be called from where changes
in the backup only. -/
theorem backupTo_spec :
    L.getAccessFlags (L.backupTo mem target backup) target =
        nonCompilable art.masks (L.getAccessFlags mem target) &&&
          ~~~art.masks.kAccFastInterpreterToInterpreterInvoke ∧
      L.getAccessFlags (L.backupTo mem target backup) backup =
        backupFlags art.masks (L.getAccessFlags mem target) ∧
      L.AgreeOffFlags (L.backupTo mem target backup) mem backup target := by
  let mem₁ := L.setNonCompilable mem target
  let mem₂ := L.copyFrom mem₁ backup target
  let mem₃ := L.clearFastInterpretFlag mem₂ target
  let flags := L.getAccessFlags mem target
  have htarget₁ : L.getAccessFlags mem₁ target = nonCompilable art.masks flags :=
    getAccessFlags_modifyAccessFlags
  have htarget₂ : L.getAccessFlags mem₂ target = nonCompilable art.masks flags :=
    (getAccessFlags_congr (copyFrom_of_distinct hd)).trans htarget₁
  have htarget₃ : L.getAccessFlags mem₃ target = nonCompilable art.masks flags &&&
      ~~~art.masks.kAccFastInterpreterToInterpreterInvoke := by
    rw [← htarget₂]
    exact getAccessFlags_modifyAccessFlags
  have hbackup₃ : L.getAccessFlags mem₃ backup = nonCompilable art.masks flags :=
    calc L.getAccessFlags mem₃ backup
      _ = L.getAccessFlags mem₂ backup := getAccessFlags_modifyAccessFlags_of_distinct hd.symm
      _ = L.getAccessFlags mem₁ target := getAccessFlags_copyFrom
      _ = nonCompilable art.masks flags := htarget₁
  have hagree₃ : L.AgreeOffFlags mem₃ mem backup target := by
    intro i hi hoff
    calc mem₃ (backup + i)
      _ = mem₂ (backup + i) := modifyAccessFlags_of_distinct hd.symm i hi
      _ = mem₁ (target + i) := copyFrom_apply hi
      _ = mem (target + i) := agreeOffFlags_modifyAccessFlags i hi hoff
  have hstatic : L.isStatic mem₃ backup ↔ flags &&& kAccStatic ≠ 0#32 := by
    rw [isStatic, hbackup₃, nonCompilable_and_static]
    exact bne_iff_ne
  show L.getAccessFlags (if L.isStatic mem₃ backup then mem₃ else L.setPrivate mem₃ backup) target =
      _ ∧ L.getAccessFlags (if L.isStatic mem₃ backup then mem₃ else L.setPrivate mem₃ backup)
      backup = backupFlags art.masks flags ∧ L.AgreeOffFlags
        (if L.isStatic mem₃ backup then mem₃ else L.setPrivate mem₃ backup) mem backup target
  by_cases h : L.isStatic mem₃ backup
  · rw [if_pos h, backupFlags, if_pos (hstatic.1 h)]
    exact ⟨htarget₃, hbackup₃, hagree₃⟩
  · rw [if_neg h, backupFlags, if_neg (hstatic.not.1 h)]
    refine ⟨?_, ?_, ?_⟩
    · rw [← htarget₃]
      exact getAccessFlags_modifyAccessFlags_of_distinct hd
    · rw [← hbackup₃]
      exact getAccessFlags_modifyAccessFlags
    · exact agreeOffFlags_modifyAccessFlags.trans hagree₃

end BackupTo

/-! ## Hooking and unhooking -/

section Hook

variable (hd : L.Distinct target backup)
include hd

/-- **The records of a hooked method.** -/
theorem hookRecords_spec :
    L.getAccessFlags (L.hookRecords mem target backup e) target =
        nonCompilable art.masks (nonCompilable art.masks
          (nonIntrinsic art (L.getAccessFlags mem target)) &&&
            ~~~art.masks.kAccFastInterpreterToInterpreterInvoke) ∧
      L.getAccessFlags (L.hookRecords mem target backup e) backup =
        backupFlags art.masks (nonIntrinsic art (L.getAccessFlags mem target)) &&&
          ~~~kAccConstructor ∧
      L.AgreeOffFlags (L.hookRecords mem target backup e) mem backup target := by
  let mem₁ := L.setNonIntrinsic mem target
  let mem₂ := L.backupTo mem₁ target backup
  let mem₃ := L.setNonCompilable mem₂ target
  let mem₄ := L.setEntryPoint mem₃ target e
  obtain ⟨htarget₂, hbackup₂, hagree₂⟩ := backupTo_spec mem₁ hd
  have hflags₁ : L.getAccessFlags mem₁ target = nonIntrinsic art (L.getAccessFlags mem target) :=
    getAccessFlags_modifyAccessFlags
  have hbackup₃ : L.getAccessFlags mem₃ backup = L.getAccessFlags mem₂ backup :=
    getAccessFlags_modifyAccessFlags_of_distinct hd.symm
  have hbackup₄ : L.getAccessFlags mem₄ backup = L.getAccessFlags mem₃ backup :=
    getAccessFlags_congr (setEntryPoint_of_distinct hd.symm)
  rw [hflags₁] at htarget₂ hbackup₂
  refine ⟨?_, ?_, ?_⟩
  · calc L.getAccessFlags (L.setNonConstructor mem₄ backup) target
      _ = L.getAccessFlags mem₄ target := getAccessFlags_modifyAccessFlags_of_distinct hd
      _ = L.getAccessFlags mem₃ target := getAccessFlags_setEntryPoint
      _ = nonCompilable art.masks (L.getAccessFlags mem₂ target) :=
        getAccessFlags_modifyAccessFlags
      _ = _ := by rw [htarget₂]
  · calc L.getAccessFlags (L.setNonConstructor mem₄ backup) backup
      _ = L.getAccessFlags mem₄ backup &&& ~~~kAccConstructor := getAccessFlags_modifyAccessFlags
      _ = _ := by rw [hbackup₄, hbackup₃, hbackup₂]
  · intro i hi hoff
    calc L.setNonConstructor mem₄ backup (backup + i)
      _ = mem₄ (backup + i) := agreeOffFlags_modifyAccessFlags i hi hoff
      _ = mem₃ (backup + i) := setEntryPoint_of_distinct hd.symm i hi
      _ = mem₂ (backup + i) := modifyAccessFlags_of_distinct hd.symm i hi
      _ = mem₁ (target + i) := hagree₂ i hi hoff
      _ = mem (target + i) := agreeOffFlags_modifyAccessFlags i hi hoff

end Hook

/-- **What unhooking leaves**: the backup's bytes and the target's flags. -/
theorem doUnHook_spec (L : MethodLayout art) (mem : Memory) (target backup : ℕ) :
    L.getAccessFlags (L.doUnHook mem target backup) target = L.getAccessFlags mem target ∧
      L.AgreeOffFlags (L.doUnHook mem target backup) mem target backup := by
  refine ⟨getAccessFlags_setAccessFlags, fun i hi hoff => ?_⟩
  calc L.doUnHook mem target backup (target + i)
    _ = L.copyFrom mem target backup (target + i) := setAccessFlags_apply (by omega)
    _ = mem (backup + i) := copyFrom_apply hi

/-! ## The flags, bit by bit -/

section Flags

variable {masks : AccessFlagMasks} (flags : BitVec 32)
  (hpre : masks.kAccCompileDontBother &&& masks.kAccPreCompiled = 0#32)
  (hintrinsic : masks.kAccCompileDontBother &&& masks.kAccIntrinsic = 0#32)
include hpre hintrinsic

/-- Of the target's flags, one is set and three are cleared. -/
theorem target_flags
    (hfast : masks.kAccCompileDontBother &&& masks.kAccFastInterpreterToInterpreterInvoke =
      0#32) :
    nonCompilable masks (nonCompilable masks (flags &&& ~~~masks.kAccIntrinsic) &&&
        ~~~masks.kAccFastInterpreterToInterpreterInvoke) =
      flags &&& ~~~(masks.kAccPreCompiled ||| masks.kAccFastInterpreterToInterpreterInvoke |||
        masks.kAccIntrinsic) ||| masks.kAccCompileDontBother := by
  refine BitVec.eq_of_getLsbD_eq fun i hi => ?_
  have h₁ := getLsbD_of_disjoint hpre i
  have h₂ := getLsbD_of_disjoint hintrinsic i
  have h₃ := getLsbD_of_disjoint hfast i
  simp only [nonCompilable, BitVec.getLsbD_and, BitVec.getLsbD_or, BitVec.getLsbD_not, hi,
    decide_true, Bool.true_and]
  revert h₁ h₂ h₃
  generalize flags.getLsbD i = f
  generalize masks.kAccCompileDontBother.getLsbD i = c
  generalize masks.kAccPreCompiled.getLsbD i = p
  generalize masks.kAccFastInterpreterToInterpreterInvoke.getLsbD i = n
  generalize masks.kAccIntrinsic.getLsbD i = r
  revert f c p n r
  decide

/-- Of the backup's, one is set and three are cleared too, and where the
method is not static it is made private besides. -/
theorem backup_flags (hmodifiers : masks.kAccCompileDontBother &&&
      (kAccConstructor ||| kAccProtected ||| kAccPublic) = 0#32) :
    backupFlags masks (flags &&& ~~~masks.kAccIntrinsic) &&& ~~~kAccConstructor =
      if flags &&& kAccStatic ≠ 0#32 then
        flags &&& ~~~(masks.kAccPreCompiled ||| masks.kAccIntrinsic ||| kAccConstructor) |||
          masks.kAccCompileDontBother
      else
        flags &&& ~~~(masks.kAccPreCompiled ||| masks.kAccIntrinsic ||| kAccConstructor |||
          kAccProtected ||| kAccPublic) ||| (masks.kAccCompileDontBother ||| kAccPrivate) := by
  have hkind : flags &&& ~~~masks.kAccIntrinsic &&& kAccStatic = flags &&& kAccStatic :=
    andNot_and_of_disjoint (and_static_of_kind masks.intrinsic_kind)
  rw [backupFlags, hkind]
  have hbit : ∀ i < 32, (masks.kAccCompileDontBother.getLsbD i &&
      masks.kAccPreCompiled.getLsbD i) = false ∧
      (masks.kAccCompileDontBother.getLsbD i && masks.kAccIntrinsic.getLsbD i) = false ∧
      (masks.kAccCompileDontBother.getLsbD i && (kAccConstructor.getLsbD i ||
        kAccProtected.getLsbD i || kAccPublic.getLsbD i)) = false ∧
      (kAccPrivate.getLsbD i && (kAccConstructor.getLsbD i ||
        kAccProtected.getLsbD i || kAccPublic.getLsbD i)) = false := by
    intro i hi
    refine ⟨getLsbD_of_disjoint hpre i, getLsbD_of_disjoint hintrinsic i, ?_, ?_⟩
    · rw [← BitVec.getLsbD_or, ← BitVec.getLsbD_or]
      exact getLsbD_of_disjoint hmodifiers i
    · rw [← BitVec.getLsbD_or, ← BitVec.getLsbD_or]
      exact getLsbD_of_disjoint (by decide) i
  split_ifs with h <;>
  · refine BitVec.eq_of_getLsbD_eq fun i hi => ?_
    obtain ⟨h₁, h₂, h₃, h₄⟩ := hbit i hi
    simp only [nonCompilable, BitVec.getLsbD_and, BitVec.getLsbD_or, BitVec.getLsbD_not, hi,
      decide_true, Bool.true_and]
    revert h₁ h₂ h₃ h₄
    generalize flags.getLsbD i = f
    generalize masks.kAccCompileDontBother.getLsbD i = c
    generalize masks.kAccPreCompiled.getLsbD i = p
    generalize masks.kAccIntrinsic.getLsbD i = r
    generalize kAccConstructor.getLsbD i = k
    generalize kAccPrivate.getLsbD i = v
    generalize kAccProtected.getLsbD i = o
    generalize kAccPublic.getLsbD i = u
    revert f c p r k v o u
    decide

end Flags

/-! ## There and back -/

/-- **Hooked and unhooked, a method has its bytes back.** Off the flag word
the target is what it was and the backup, while there is a hook, what the
target was; the two flag words differ from the target's by the named
flags, whatever the API level. -/
theorem doUnHook_doHook_restores {mem : Memory} {sdkInt : ℕ} {conflictIsDontBother : Bool}
    (hmasks : art.masks = .ofApiLevel sdkInt conflictIsDontBother)
    (hintrinsic : art.setNotIntrinsic = none) (hd : L.Distinct target backup)
    {trampolines trampolines' : Trampolines} {hook slot : ℕ} {mmap : Option ℕ} {ok : Bool}
    {mem' : Memory}
    (h : L.doHook trampolines mem target hook backup mmap ok = (trampolines', mem', some slot)) :
    let flags := L.getAccessFlags mem target
    let mem'' := L.doUnHook mem' target backup
    (L.AgreeOffFlags mem'' mem target target ∧
      L.getAccessFlags mem'' target =
        flags &&& ~~~(art.masks.kAccPreCompiled |||
          art.masks.kAccFastInterpreterToInterpreterInvoke ||| art.masks.kAccIntrinsic) |||
            art.masks.kAccCompileDontBother) ∧
      L.AgreeOffFlags mem' mem backup target ∧
      L.getAccessFlags mem' backup =
        if flags &&& kAccStatic ≠ 0#32 then
          flags &&& ~~~(art.masks.kAccPreCompiled ||| art.masks.kAccIntrinsic |||
            kAccConstructor) ||| art.masks.kAccCompileDontBother
        else
          flags &&& ~~~(art.masks.kAccPreCompiled ||| art.masks.kAccIntrinsic |||
            kAccConstructor ||| kAccProtected ||| kAccPublic) |||
              (art.masks.kAccCompileDontBother ||| kAccPrivate) := by
  obtain ⟨hpre, hfast, hclear, hmodifiers⟩ :=
    AccessFlagMasks.ofApiLevel_disjoint sdkInt conflictIsDontBother
  rw [← hmasks] at hpre hfast hclear hmodifiers
  obtain ⟨a, rfl⟩ : ∃ a, mem' = L.hookRecords mem target backup a := by
    unfold doHook at h
    split at h
    · simp at h
    · exact ⟨_, (congrArg (·.2.1) h).symm⟩
  have hnon : ∀ flags, nonIntrinsic art flags = flags &&& ~~~art.masks.kAccIntrinsic := by
    intro flags
    rw [nonIntrinsic, hintrinsic]
  obtain ⟨htarget, hbackup, hagree⟩ := hookRecords_spec mem (e := a) hd
  obtain ⟨hflags, hback⟩ := doUnHook_spec L (L.hookRecords mem target backup a) target backup
  refine ⟨⟨hback.trans hagree, ?_⟩, hagree, ?_⟩
  · rw [hflags, htarget, hnon]
    exact target_flags _ hpre hclear hfast
  · rw [hbackup, hnon]
    exact backup_flags _ hpre hclear hmodifiers

/-- The layout of a 64-bit process. -/
def sample : MethodLayout sampleArt where
  artMethodSize := 32
  declaringClassOffset := 0
  accessFlagsOffset := 4
  dataOffset := 16
  entryPointOffset := 24
  interpreterEntryPointOffset := 0
  inside := by decide
  apart := by decide
  entryPointOffset_eq := rfl
  hasInterpreterEntryPoint_eq := rfl

/-- Two records of the bytes `7`. -/
theorem sample_restored :
    let p := sample.doHook ⟨0, ∅, fun _ => 0⟩ (fun _ => 7) 4096 8192 12288 (some 0x70000000) true
    p.2.2 = some 0x70000001 ∧
      sample.AgreeOffFlags (sample.doUnHook p.2.1 4096 12288) (fun _ => 7) 4096 4096 := by
  intro p
  have hd : sample.Distinct 4096 12288 := by unfold Distinct; decide
  have hrun : sample.doHook ⟨0, ∅, fun _ => 0⟩ (fun _ => 7) 4096 8192 12288 (some 0x70000000)
      true = (p.1, p.2.1, some 0x70000001) := rfl
  exact ⟨rfl, (doUnHook_doHook_restores rfl rfl hd hrun).1.1⟩

/-! ## The records the bytes stand for -/

section Record

variable {mem} {codeAt : ℕ → EntryPoint} {s : State} {hook : ℕ} {mmap : Option ℕ} {ok : Bool}
  {mem' : Memory} {s' : State} {slot : ℕ}

/-- **The two records of the state are those the bytes stand for.** -/
structure Represents (L : MethodLayout art) (codeAt : ℕ → EntryPoint) (mem : Memory)
    (target backup : ℕ) (s : State) : Prop where
  target_eq : s.heap target = L.record mem target codeAt
  backup_eq : s.heap backup = L.record mem backup codeAt

namespace Represents

variable {f : BitVec 32 → BitVec 32} {g : ArtMethod → ArtMethod}

theorem symm (h : Represents L codeAt mem target backup s) :
    Represents L codeAt mem backup target s :=
  ⟨h.backup_eq, h.target_eq⟩

/-- A step on the record of one method and on its bytes. -/
theorem modify (h : Represents L codeAt mem target backup s) (hne : target ≠ backup)
    (htarget : L.record mem' target codeAt = g (L.record mem target codeAt))
    (hbackup : ∀ i < L.artMethodSize, mem' (backup + i) = mem (backup + i)) :
    Represents L codeAt mem' target backup (s.modify target g) where
  target_eq := by rw [State.heap_modify, if_pos rfl, h.target_eq, htarget]
  backup_eq := by rw [State.heap_modify, if_neg hne.symm, h.backup_eq, record_congr hbackup]

/-- A setter of flags, on both. -/
theorem modifyAccessFlags (h : Represents L codeAt mem target backup s)
    (hd : L.Distinct target backup)
    (hg : ∀ r, g r = { r with accessFlags := f r.accessFlags }) :
    Represents L codeAt (L.modifyAccessFlags mem target f) target backup (s.modify target g) :=
  h.modify hd.ne (by rw [record_modifyAccessFlags, hg]) (modifyAccessFlags_of_distinct hd.symm)

/-- `CopyFrom`, on both. -/
theorem copyFrom (h : Represents L codeAt mem target backup s)
    (hd : L.Distinct target backup) :
    Represents L codeAt (L.copyFrom mem target backup) target backup
      (s.modify target fun _ => s.heap backup) :=
  h.modify hd.ne (record_copyFrom.trans h.backup_eq.symm) (copyFrom_of_distinct hd.symm)

/-- The state's `BackupTo` is that of the bytes. -/
theorem backupTo (h : Represents L codeAt mem target backup s)
    (hd : L.Distinct target backup) :
    Represents L codeAt (L.backupTo mem target backup) target backup
      (LSPlant.backupTo art s target backup) := by
  have h₁ := h.modifyAccessFlags hd (f := nonCompilable art.masks)
    (g := (·.setNonCompilable art)) fun r => rfl
  have h₂ := (h₁.symm.copyFrom hd.symm).symm
  have h₃ := h₂.modifyAccessFlags hd
    (f := (· &&& ~~~art.masks.kAccFastInterpreterToInterpreterInvoke))
    (g := (·.clearFastInterpretFlag art)) fun r => rfl
  have h₄ := (h₃.symm.modifyAccessFlags hd.symm
    (f := fun flags => (flags ||| kAccPrivate) &&& ~~~kAccProtected &&& ~~~kAccPublic)
    (g := (·.setPrivate)) fun r => rfl).symm
  unfold MethodLayout.backupTo LSPlant.backupTo
  dsimp only
  rw [h₃.backup_eq]
  split_ifs with hs hs' hs'
  · exact h₃
  · exact absurd hs hs'
  · exact absurd hs' hs
  · exact h₄

end Represents

/-- **`DoHook` and `DoUnHook` do to the records what they do to the bytes**:
the state's own versions refine to these. -/
theorem represents_doHook (h : Represents L codeAt mem target backup s)
    (hd : L.Distinct target backup)
    (hbridge : art.arch.Fits art.artInterpreterToCompiledCodeBridge)
    {trampolines' : Trampolines} {a : ℕ}
    (hgen : generateTrampolineFor art s.trampolines hook mmap ok = (trampolines', some (a, slot)))
    (ha : art.arch.Fits a) (hcode : codeAt a = .trampoline a) :
    (L.doHook s.trampolines mem target hook backup mmap ok).2.2 =
        (LSPlant.doHook art s target hook backup mmap ok).2 ∧
      Represents L codeAt (L.doHook s.trampolines mem target hook backup mmap ok).2.1 target
        backup (LSPlant.doHook art s target hook backup mmap ok).1 := by
  have h₀ : Represents L codeAt mem target backup { s with trampolines := trampolines' } :=
    ⟨h.target_eq, h.backup_eq⟩
  have h₁ := h₀.modifyAccessFlags hd (f := nonIntrinsic art) (g := (·.setNonIntrinsic art))
    fun r => by unfold ArtMethod.setNonIntrinsic nonIntrinsic; cases art.setNotIntrinsic <;> rfl
  have h₂ := h₁.backupTo hd
  have h₃ := h₂.modifyAccessFlags hd (f := nonCompilable art.masks)
    (g := (·.setNonCompilable art)) fun r => rfl
  have h₄ := h₃.modify hd.ne (g := (·.setEntryPoint art (codeAt a)))
    (record_setEntryPoint ha hbridge) (setEntryPoint_of_distinct hd.symm)
  have h₅ := (h₄.symm.modifyAccessFlags hd.symm (f := (· &&& ~~~kAccConstructor))
    (g := (·.setNonConstructor)) fun r => rfl).symm
  rw [hcode] at h₅
  unfold MethodLayout.doHook LSPlant.doHook
  rw [hgen]
  exact ⟨rfl, h₅⟩

theorem represents_doUnHook (h : Represents L codeAt mem target backup s)
    (hd : L.Distinct target backup) :
    Represents L codeAt (L.doUnHook mem target backup) target backup
      (LSPlant.doUnHook s target backup) := by
  have h₁ := h.copyFrom hd
  have h₂ := h₁.modifyAccessFlags hd (f := fun _ => L.getAccessFlags mem target)
    (g := ({ · with accessFlags := L.getAccessFlags mem target })) fun r => rfl
  have hflags : (s.heap target).accessFlags = L.getAccessFlags mem target := by
    rw [h.target_eq, record]
  unfold LSPlant.doUnHook
  rw [hflags]
  exact h₂

end Record

end MethodLayout

end LSPlant
