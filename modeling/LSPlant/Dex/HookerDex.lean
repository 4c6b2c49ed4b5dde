import LSPlant.ArenaBlocks
/-!
# Opening the dex of a hooker

`OpenInMemoryHookerDex`. The image of a hooker's dex goes to memory of the
arena allocator, where ART opens it and reads it from then on; a release
build wipes the first eight bytes of it once it is open. Where ART fails
to open one three times in a row, later images are left to Java.
-/

namespace LSPlant

/-! ## The code -/

/-- **What the process is like**: the build, the API level, whether
`DexFile::Init` has found the cookie field, and the constructors of
`DexFile` that `InitJNI` has found. -/
structure DexSupport where
  kDebugBuild : Bool
  sdkInt : ℕ
  isMemoryDexSupported : Bool
  dexFileInitWithCl : Bool
  dexFileInit : Bool

/-- **What is returned**: a Java `DexFile` of the image at an address, one
made of direct byte buffers by either constructor, or null. JNI is taken to
have memory for the first, which `ToJavaDexFile` allocates and fills. -/
inductive HookerDexFile where
  | memory (dex : ℕ)
  | withClassLoader
  | plain
  | null
deriving DecidableEq

/-- `kMaxTryCount`. -/
def kMaxTryCount : ℕ := 3

/-- The allocator's process, the counter, and each image that ART has opened
in memory, by its address. -/
structure DexProcess where
  arena : ArenaProcess
  kDexLoadFailed : ℕ
  opened : List (ℕ × List Byte)

/-- **A call**: the image, whether `DexFile::OpenMemory` would open it, whether
a constructor of `DexFile` would take it and not throw, and what `mmap` and
`malloc` would return. -/
structure ImageOpening where
  image : List Byte
  opens : Bool
  constructs : Bool
  mmap : Option ℕ
  malloc : Option ℕ

section Code

variable (art : Art) (support : DexSupport) (p : DexProcess) (call : ImageOpening)

/-- `JNI_NewObject`: null where the constructor throws. -/
def newObject (dexFile : HookerDexFile) : HookerDexFile :=
  if call.constructs then dexFile else .null

/-- The constructors of `DexFile`, the one with a class loader first. -/
def fromByteBuffers : HookerDexFile :=
  if support.dexFileInitWithCl then newObject call .withClassLoader
  else if support.dexFileInit then newObject call .plain
  else .null

/-- The image is tried in memory. -/
def DexProcess.triesMemory : Prop :=
  p.kDexLoadFailed < kMaxTryCount ∧ support.isMemoryDexSupported

instance decidableTriesMemory : Decidable (p.triesMemory support) :=
  inferInstanceAs (Decidable (_ ∧ _))

/-- The copy of the image, and its first bytes wiped where it is open. -/
def placeImage : ArenaProcess × ℕ :=
  let (arena, dex) := alloc art p.arena call.image.length call.mmap call.malloc
  let mem := arena.mem.write dex call.image
  let mem := if call.opens ∧ ¬ support.kDebugBuild then mem.write dex (List.replicate 8 0) else mem
  ({ arena with mem }, dex)

/-- **`OpenInMemoryHookerDex`.** -/
def openInMemoryHookerDex : DexProcess × HookerDexFile :=
  if p.triesMemory support then
    let (arena, dex) := placeImage art support p call
    let arena := arena.give dex call.image.length
    if call.opens then
      (⟨arena, 0, (dex, call.image) :: p.opened⟩, .memory dex)
    else if 26 ≤ support.sdkInt then
      (⟨arena, p.kDexLoadFailed + 1, p.opened⟩, fromByteBuffers support call)
    else (⟨arena, p.kDexLoadFailed, p.opened⟩, .null)
  else (p, fromByteBuffers support call)

/-- What an opened image reads as. -/
def DexSupport.keptImage (image : List Byte) : List Byte :=
  if support.kDebugBuild then image else (List.replicate 8 0 ++ image.drop 8).take image.length

/-- **Calls follow the system's promises**: an image is not empty, memory is
only mapped where there is none, and there is some. -/
def openingAdmissible : Prop :=
  0 < call.image.length ∧
    arenaAdmissible art p.arena (.alloc call.image.length call.mmap call.malloc) ∧
    (alloc art p.arena call.image.length call.mmap call.malloc).2 ≠ nullptr

instance decidableOpeningAdmissible : Decidable (openingAdmissible art p call) :=
  inferInstanceAs (Decidable (_ ∧ _ ∧ _))

/-- **The process as its hookers are made.** -/
def dexMachine : Machine DexProcess ImageOpening where
  step p call := (openInMemoryHookerDex art support p call).1
  admissible p call := openingAdmissible art p call

instance decidableDexMachine : Decidable ((dexMachine art support).admissible p call) :=
  inferInstanceAs (Decidable (openingAdmissible art p call))

end Code

/-- Nothing opened yet. -/
def DexProcess.initial (mem : Memory) : DexProcess := ⟨.initial mem, 0, []⟩

variable {art : Art} {support : DexSupport} {p : DexProcess} {call : ImageOpening}

/-! ## Images -/

/-- The range of an open image. -/
def imageRange (o : ℕ × List Byte) : ℕ × ℕ := (o.1, o.2.length)

/-- **The images that are open**: each is a block of its own, which reads as
it should. -/
structure DexProcess.Intact (art : Art) (support : DexSupport) (p : DexProcess) : Prop where
  sound : p.arena.Sound art
  blocks : (p.opened.map imageRange).Sublist p.arena.blocks
  reads : ∀ o ∈ p.opened, p.arena.mem.read o.1 o.2.length = support.keptImage o.2

variable (support) in
/-- **A new image** is handed out and read back. -/
theorem handsOut_placeImage (hs : p.arena.Sound art) (h : openingAdmissible art p call) :
    HandsOut art p.arena (placeImage art support p call).1 (placeImage art support p call).2
        (art.alignUp call.image.length kArenaAlignment) ∧
      (call.opens → (placeImage art support p call).1.mem.read (placeImage art support p call).2
        call.image.length = support.keptImage call.image) := by
  obtain ⟨hlength, ⟨hsize, hmmap, hmalloc⟩, hnull⟩ := h
  rcases handsOut_alloc hs hsize hmmap hmalloc with hout | ⟨-, hnone⟩
  · have hup := hsize.eight.1
    have hwipe : 8 ≤ art.alignUp call.image.length kArenaAlignment := by
      refine Nat.le_of_dvd (by omega) (dvd_alignUp art _ _)
    have hcopied := hout.write (show call.image.length ≤ _ from hup)
    unfold placeImage DexSupport.keptImage
    by_cases hw : call.opens ∧ ¬ support.kDebugBuild
    · simp only [if_pos hw]
      refine ⟨hcopied.write (by simpa using hwipe), fun _ => ?_⟩
      rw [Memory.read_write_front, Memory.read_write_self, List.length_replicate,
        if_neg hw.2]
    · simp only [if_neg hw]
      refine ⟨hcopied, fun hopens => ?_⟩
      have hdebug : support.kDebugBuild := by
        by_contra hrelease
        exact hw ⟨hopens, hrelease⟩
      rw [Memory.read_write_self, if_pos hdebug]
  · exact absurd (congrArg Prod.snd hnone) hnull

/-- A block handed out leaves the open images. -/
theorem DexProcess.Intact.give {arena : ArenaProcess} {dex size n : ℕ} (h : p.Intact art support)
    (hout : HandsOut art p.arena arena dex n) (hsize : art.Alignable size)
    (hn : art.alignUp size kArenaAlignment = n) (failed : ℕ) :
    (⟨arena.give dex size, failed, p.opened⟩ : DexProcess).Intact art support where
  sound := hout.sound_give h.sound hsize hn
  blocks := by
    have hblocks := h.blocks
    rw [← hout.blocks_eq] at hblocks
    unfold ArenaProcess.give
    split_ifs
    · exact hblocks
    · exact hblocks.cons _
  reads o ho := by
    have hblock : (o.1, o.2.length) ∈ p.arena.blocks := h.blocks.subset (List.mem_map_of_mem ho)
    rw [mem_of_give, hout.read_block h.sound hblock le_rfl]
    exact h.reads o ho

/-- **Every call keeps the open images as they are.** -/
theorem intact_open (p : DexProcess) (call : ImageOpening) (h : p.Intact art support)
    (hcall : openingAdmissible art p call) :
    (openInMemoryHookerDex art support p call).1.Intact art support := by
  obtain ⟨hout, hread⟩ := handsOut_placeImage support h.sound hcall
  obtain ⟨hlength, ⟨hsize, -, -⟩, hnull⟩ := hcall
  have hdex : (placeImage art support p call).2 ≠ nullptr := hnull
  have hgiven := fun failed => h.give hout hsize rfl failed
  unfold openInMemoryHookerDex
  split_ifs with htries hopens hsdk
  · -- the image is one of those that are open
    obtain ⟨hsound, -, hreads⟩ := hgiven 0
    refine ⟨hsound, ?_, List.forall_mem_cons.2 ⟨?_, hreads⟩⟩
    · simp only [ArenaProcess.give, if_neg hdex]
      exact (hout.blocks_eq ▸ h.blocks).cons_cons _
    · simp only [mem_of_give]
      exact hread hopens
  · exact hgiven _
  · exact hgiven _
  · exact h

/-- **The dex files of hookers stay as they are.** Over every run, each image
that ART has opened in memory is where it was put, and reads as it was built
but for the first eight bytes, which a release build has wiped; and no two of
them overlap. -/
theorem images_intact (mem : Memory) (calls : List ImageOpening)
    (h : (dexMachine art support).Legal (.initial mem) calls) :
    let p := (dexMachine art support).exec (.initial mem) calls
    (∀ o ∈ p.opened, p.arena.mem.read o.1 o.2.length = support.keptImage o.2) ∧
      p.opened.Pairwise fun o o' =>
        Disjoint (addresses (imageRange o)) (addresses (imageRange o')) := by
  intro p
  have hintact : p.Intact art support := Machine.exec_of_eachStep intact_open
    ⟨sound_initial art mem, List.Sublist.refl _, nofun⟩ h
  refine ⟨hintact.reads, ?_⟩
  have hpairwise := hintact.sound.pairwise.sublist hintact.blocks
  rwa [List.pairwise_map] at hpairwise

/-- A release build on Android 12. -/
def sampleSupport : DexSupport := ⟨false, 31, true, true, true⟩

/-- Two images that open, and one between them that does not. -/
def sampleOpenings : List ImageOpening :=
  [⟨List.replicate 20 1, true, true, some 65536, none⟩,
    ⟨List.replicate 20 2, false, true, none, none⟩, ⟨List.replicate 12 3, true, true, none, none⟩]

theorem images_intact_sample :
    let p := (dexMachine sampleArt sampleSupport).exec (.initial fun _ => 1) sampleOpenings
    p.opened = [(65584, List.replicate 12 3), (65536, List.replicate 20 1)] ∧
      (∀ o ∈ p.opened, p.arena.mem.read o.1 o.2.length = sampleSupport.keptImage o.2) ∧
        p.opened.Pairwise fun o o' =>
          Disjoint (addresses (imageRange o)) (addresses (imageRange o')) :=
  ⟨by decide +kernel, images_intact (fun _ => 1) sampleOpenings (by decide +kernel)⟩

/-! ## Giving up -/

/-- The failures since the last success. -/
def failuresInARow (outcomes : List Bool) : ℕ := (outcomes.rtakeWhile (! ·)).length

/-- Three failures in a row, at some time. -/
def GaveUp (outcomes : List Bool) : Prop := List.replicate kMaxTryCount false <:+: outcomes

theorem failures_suffix_iff (n : ℕ) (outcomes : List Bool) :
    List.replicate n false <:+ outcomes ↔ n ≤ failuresInARow outcomes := by
  induction outcomes using List.reverseRecOn generalizing n with
  | nil => simp [failuresInARow]
  | append_singleton outcomes opens ih =>
    rcases n with _ | n
    · simp
    rw [List.replicate_succ', List.suffix_concat_iff]
    rcases opens with _ | _
    · have hrow : failuresInARow (outcomes ++ [false]) = failuresInARow outcomes + 1 := by
        simp [failuresInARow]
      simp [hrow, ih]
    · simp [failuresInARow]

theorem gaveUp_concat {outcomes : List Bool} {opens : Bool} :
    GaveUp (outcomes ++ [opens]) ↔
      kMaxTryCount ≤ failuresInARow (outcomes ++ [opens]) ∨ GaveUp outcomes := by
  rw [GaveUp, List.infix_concat_iff, failures_suffix_iff]
  rfl

theorem kDexLoadFailed_open : (openInMemoryHookerDex art support p call).1.kDexLoadFailed =
    if p.triesMemory support then
      if call.opens then 0
      else if 26 ≤ support.sdkInt then p.kDexLoadFailed + 1 else p.kDexLoadFailed
    else p.kDexLoadFailed := by
  unfold openInMemoryHookerDex
  split_ifs <;> rfl

section Counter

variable (art) (mem : Memory) (calls : List ImageOpening)

/-- Before Android 8 nothing is counted. -/
theorem kDexLoadFailed_exec_of_lt (hsdk : support.sdkInt < 26) :
    ((dexMachine art support).exec (.initial mem) calls).kDexLoadFailed = 0 := by
  have hrun : (dexMachine art support).Everywhere (fun p => p.kDexLoadFailed = 0) (.initial mem)
      calls := by
    refine Machine.everywhere_of_step (fun p call h => ?_) rfl
    show (openInMemoryHookerDex art support p call).1.kDexLoadFailed = 0
    simp only [kDexLoadFailed_open, h, if_neg (Nat.not_le.2 hsdk), ite_self]
  exact hrun.exec

/-- **The counter** tells the failures in a row of what the calls so far
would have come to, and stays at three. -/
theorem kDexLoadFailed_exec (hsupported : support.isMemoryDexSupported)
    (hsdk : 26 ≤ support.sdkInt) :
    let failed := ((dexMachine art support).exec (.initial mem) calls).kDexLoadFailed
    let outcomes := calls.map ImageOpening.opens
    (GaveUp outcomes → failed = kMaxTryCount) ∧
      (¬ GaveUp outcomes → failed = failuresInARow outcomes ∧ failed < kMaxTryCount) := by
  induction calls using List.reverseRecOn with
  | nil =>
    refine ⟨fun h => ?_, fun _ => ⟨rfl, Nat.zero_lt_succ 2⟩⟩
    exact absurd (List.infix_nil.1 h) (by decide)
  | append_singleton calls call ih =>
    set p := (dexMachine art support).exec (.initial mem) calls with hp
    intro failed outcomes
    obtain ⟨hgave, hnot⟩ := ih
    have hfailed : failed = if p.kDexLoadFailed < kMaxTryCount then
        if call.opens then 0 else p.kDexLoadFailed + 1 else p.kDexLoadFailed := by
      show ((dexMachine art support).exec (.initial mem) (calls ++ [call])).kDexLoadFailed = _
      rw [Machine.exec_append, ← hp]
      refine kDexLoadFailed_open.trans ?_
      simp only [DexProcess.triesMemory, hsupported, and_true, if_pos hsdk]
    have houtcomes : outcomes = calls.map ImageOpening.opens ++ [call.opens] := by
      simp [outcomes]
    rw [houtcomes, gaveUp_concat]
    by_cases hgaveUp : GaveUp (calls.map ImageOpening.opens)
    · have hcount := hgave hgaveUp
      rw [if_neg (by omega)] at hfailed
      exact ⟨fun _ => hfailed.trans hcount, fun h => absurd (Or.inr hgaveUp) h⟩
    · obtain ⟨hcount, hlt⟩ := hnot hgaveUp
      rw [if_pos hlt] at hfailed
      rcases hopens : call.opens with _ | _
      · -- one failure more, the third one perhaps
        have hrow : failuresInARow (calls.map ImageOpening.opens ++ [false]) =
            failuresInARow (calls.map ImageOpening.opens) + 1 := by
          simp [failuresInARow]
        rw [hopens] at hfailed
        simp only [Bool.false_eq_true, if_false] at hfailed
        refine ⟨fun h => ?_, fun h => ?_⟩
        · have hthree := h.resolve_right hgaveUp
          omega
        · have hfew := fun hthree => h (Or.inl hthree)
          omega
      · have hrow : failuresInARow (calls.map ImageOpening.opens ++ [true]) = 0 := by
          simp [failuresInARow]
        rw [hopens] at hfailed
        simp only [if_true] at hfailed
        refine ⟨fun h => ?_, fun _ => ⟨by omega, by rw [hfailed]; decide⟩⟩
        have hthree := h.resolve_right hgaveUp
        rw [hrow] at hthree
        exact absurd hthree (by decide)

/-- **An image is tried in memory** until three have failed in a row. -/
theorem triesMemory_exec_iff :
    ((dexMachine art support).exec (.initial mem) calls).triesMemory support ↔
      support.isMemoryDexSupported ∧
        ¬ (26 ≤ support.sdkInt ∧ GaveUp (calls.map ImageOpening.opens)) := by
  unfold DexProcess.triesMemory
  rcases Nat.lt_or_ge support.sdkInt 26 with hsdk | hsdk
  · rw [kDexLoadFailed_exec_of_lt art mem calls hsdk]
    constructor
    · rintro ⟨-, hsupported⟩
      exact ⟨hsupported, fun h => by omega⟩
    · rintro ⟨hsupported, -⟩
      exact ⟨by decide, hsupported⟩
  · constructor
    · rintro ⟨hlt, hsupported⟩
      obtain ⟨hgave, -⟩ := kDexLoadFailed_exec art mem calls hsupported hsdk
      exact ⟨hsupported, fun h => by have := hgave h.2; omega⟩
    · rintro ⟨hsupported, hnot⟩
      obtain ⟨-, hcount⟩ := kDexLoadFailed_exec art mem calls hsupported hsdk
      exact ⟨(hcount fun h => hnot ⟨hsdk, h⟩).2, hsupported⟩

/-- The constructors give no object exactly where there is none, or it throws. -/
theorem fromByteBuffers_eq_null_iff (call : ImageOpening) : fromByteBuffers support call = .null ↔
    ¬ ((support.dexFileInitWithCl ∨ support.dexFileInit) ∧ call.constructs) := by
  unfold fromByteBuffers newObject
  split_ifs <;> simp_all

theorem fromByteBuffers_ne_memory (call : ImageOpening) (dex : ℕ) :
    fromByteBuffers support call ≠ .memory dex := by
  unfold fromByteBuffers newObject
  split_ifs <;> exact nofun

/-- **What a call returns after any run**: an image in memory if it is tried
there and opens. A failure is null before Android 8, and left to the
constructors of `DexFile` after that, as everything is once three images in
a row would not have opened: null again if there is none or it throws. -/
theorem openInMemoryHookerDex_exec (call : ImageOpening) :
    let p := (dexMachine art support).exec (.initial mem) calls
    let result := (openInMemoryHookerDex art support p call).2
    let tried := support.isMemoryDexSupported ∧
      ¬ (26 ≤ support.sdkInt ∧ GaveUp (calls.map ImageOpening.opens))
    ((∃ dex, result = .memory dex) ↔ tried ∧ call.opens) ∧
      (result = .null ↔ ¬ (tried ∧ call.opens) ∧
        (tried ∧ support.sdkInt < 26 ∨
          ¬ ((support.dexFileInitWithCl ∨ support.dexFileInit) ∧ call.constructs))) := by
  intro p result tried
  have htried : p.triesMemory support ↔ tried := triesMemory_exec_iff art mem calls
  rw [← htried, ← fromByteBuffers_eq_null_iff]
  show ((∃ dex, (openInMemoryHookerDex art support p call).2 = _) ↔ _) ∧
    ((openInMemoryHookerDex art support p call).2 = _ ↔ _)
  unfold openInMemoryHookerDex
  split_ifs with htries hopens hsdk
  · simp [htries, hopens]
  · simp [htries, hopens, fromByteBuffers_ne_memory, Nat.not_lt.2 hsdk]
  · simp [htries, hopens, Nat.lt_of_not_le hsdk]
  · simp [htries, fromByteBuffers_ne_memory]

end Counter

end LSPlant
