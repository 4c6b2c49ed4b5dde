import LSPlant.ArrayBuffers
import LSPlant.Library.Machine
/-!
# Array elements

The wrapper of a primitive array: it obtains the elements when it is given
an array, and a buffer moves with it. `release` clears the reference before
it releases the elements, which are then not released, and the destructor
is a `release`; a buffer held by the target of a move assignment is
forgotten. What is left to give an array up is `reset`.
-/

namespace LSPlant

/-- **A local reference** to an array. Several may refer to one. -/
structure LocalRef where
  handle : ℕ
  array : ℕ
deriving DecidableEq

/-- **`ScopedLocalRef`** of a primitive array, `elements` the buffer
`elements_` points to. -/
structure ScopedLocalRef where
  localRef : Option LocalRef
  size : ℕ
  elements : Option ℕ
  modified : Bool

variable {ν : Type*}

namespace ScopedLocalRef

variable (r : ScopedLocalRef) (jni : JavaArrays ν)

/-- `ReleaseElements` -/
def releaseElements (mode : ReleaseMode) : JavaArrays ν :=
  match r.localRef, r.elements with
  | some _, some b => jni.releaseElements b mode
  | _, _ => jni

/-- The mode of a final release. -/
def finalMode : ReleaseMode := if r.modified then .copyBack else .abort

/-- What `reset` does with the array it has. -/
def giveUp : ScopedLocalRef × JavaArrays ν :=
  if r.localRef.isSome then ({ r with elements := none }, r.releaseElements jni r.finalMode)
  else (r, jni)

/-- And what it does with the one it is given. -/
def take (ptr : Option LocalRef) (answer : ElementsAnswer) : ScopedLocalRef × JavaArrays ν :=
  match ptr with
  | none => ({ r with localRef := none, size := 0 }, jni)
  | some ref =>
    let (jni', elements) := jni.getElements ref.array answer
    ({ r with
        localRef := some ref
        size := (jni.arrays ref.array).length
        elements := elements }, jni')

/-- **`reset`** -/
def reset (ptr : Option LocalRef) (answer : ElementsAnswer) : ScopedLocalRef × JavaArrays ν :=
  if ptr = r.localRef then (r, jni)
  else
    let (r, jni) := r.giveUp jni
    r.take jni ptr answer

/-- **`release`**: the elements are released when the reference is gone. -/
def release : ScopedLocalRef × JavaArrays ν :=
  let r := { r with size := 0, localRef := none }
  ({ r with elements := none }, r.releaseElements jni r.finalMode)

/-- **`commit`** -/
def commit : ScopedLocalRef × JavaArrays ν :=
  ({ r with modified := false }, r.releaseElements jni .commit)

/-- `operator[]`, `begin` and `end`, where what they return can be written
to. -/
def access : ScopedLocalRef := { r with modified := true }

/-- What a move leaves of its source. -/
def movedFrom : ScopedLocalRef := ⟨none, 0, none, false⟩

/-- The constructor. `size_` is in memory that is not cleared. -/
def construct (garbage : ℕ) (jni : JavaArrays ν) (localRef : Option LocalRef)
    (answer : ElementsAnswer) : ScopedLocalRef × JavaArrays ν :=
  reset ⟨none, garbage, none, false⟩ jni localRef answer

/-- **What `size` is to answer.** -/
def arrayLength (jni : JavaArrays ν) : ℕ :=
  match r.localRef with
  | some ref => (jni.arrays ref.array).length
  | none => 0

/-- A wrapper whose fields fit. -/
structure IsConsistent (jni : JavaArrays ν) : Prop where
  size_eq : r.size = r.arrayLength jni
  isSome_localRef : r.elements.isSome → r.localRef.isSome

end ScopedLocalRef

/-- **A program that uses wrappers**: those alive, and the pointers to
elements that it has been given. -/
structure ArrayProgram (ν : Type*) where
  jni : JavaArrays ν
  refs : ℕ → Option ScopedLocalRef
  pointers : List ℕ

/-- **What it may do.** -/
inductive ArrayOp (ν : Type*) where
  | construct (w : ℕ) (localRef : Option LocalRef) (answer : ElementsAnswer) (garbage : ℕ)
  | access (w : ℕ)
  | store (pointer i : ℕ) (v : ν)
  | commit (w : ℕ)
  | reset (w : ℕ) (ptr : Option LocalRef) (answer : ElementsAnswer)
  | moveConstruct (w source : ℕ)
  | moveAssign (w source : ℕ)
  | release (w : ℕ)
  | destroy (w : ℕ)

namespace ArrayProgram

variable (p : ArrayProgram ν)

/-- A program with arrays and no wrapper. -/
def start (arrays : ℕ → List ν) : ArrayProgram ν := ⟨⟨arrays, fun _ => none, 0⟩, fun _ => none, []⟩

def setRef (w : ℕ) (r : Option ScopedLocalRef) (jni : JavaArrays ν) : ArrayProgram ν :=
  { p with jni := jni, refs := Function.update p.refs w r }

/-- The fields move, and the source is cleared. -/
def move (w source : ℕ) (r : ScopedLocalRef) : ArrayProgram ν :=
  (p.setRef w (some r) p.jni).setRef source (some .movedFrom) p.jni

/-- **One operation.** One that cannot happen, on a wrapper that is not
alive or to one that is already, does nothing. -/
def step : ArrayOp ν → ArrayProgram ν
  | .construct w localRef answer garbage =>
    match p.refs w with
    | some _ => p
    | none =>
      let (r, jni) := ScopedLocalRef.construct garbage p.jni localRef answer
      p.setRef w (some r) jni
  | .access w =>
    match p.refs w with
    | none => p
    | some r =>
      { p.setRef w (some r.access) p.jni with pointers := p.pointers ++ r.elements.toList }
  | .store pointer i v =>
    match p.pointers[pointer]? with
    | none => p
    | some b => { p with jni := p.jni.store b i v }
  | .commit w =>
    match p.refs w with
    | none => p
    | some r =>
      let (r, jni) := r.commit p.jni
      p.setRef w (some r) jni
  | .reset w ptr answer =>
    match p.refs w with
    | none => p
    | some r =>
      let (r, jni) := r.reset p.jni ptr answer
      p.setRef w (some r) jni
  | .moveConstruct w source =>
    match p.refs w, p.refs source with
    | none, some r => p.move w source r
    | _, _ => p
  | .moveAssign w source =>
    match p.refs w, p.refs source with
    | some _, some r => p.move w source r
    | _, _ => p
  | .release w =>
    match p.refs w with
    | none => p
    | some r =>
      let (r, jni) := r.release p.jni
      p.setRef w (some r) jni
  | .destroy w =>
    match p.refs w with
    | none => p
    | some r => p.setRef w none (r.release p.jni).2

/-- The buffer a wrapper holds. -/
def elementsOf (w : ℕ) : Option ℕ := (p.refs w).bind (·.elements)

/-- A wrapper holds the buffer. -/
def IsHeld (b : ℕ) : Prop := ∃ w, p.elementsOf w = some b

/-- **No write is lost and no buffer is leaked**: a buffer that no wrapper
holds has got one final release, and the values stored through it are in the
array, unless someone else has overwritten them there since; a buffer that
is held has got none; and `size` is the length. -/
structure IsFaithful : Prop where
  held : ∀ b buf, p.jni.buffers b = some buf → p.IsHeld b → buf.finals = 0
  givenUp : ∀ b buf, p.jni.buffers b = some buf → ¬ p.IsHeld b → buf.finals = 1 ∧
    ∀ i v arrived, buf.owed i = some (v, arrived) → (p.jni.arrays buf.array)[i]? = some v
  size_eq : ∀ w r, p.refs w = some r → r.size = r.arrayLength p.jni

end ArrayProgram

/-- **The operations that lose nothing**: a wrapper is not constructed
without an array, an array whose elements are held is given up by `reset`
only and overwritten by no move, and a `reset` comes with the flag set or
with no value in the buffer only. -/
def ArrayOp.LosesNothing (p : ArrayProgram ν) : ArrayOp ν → Prop
  | .construct _ localRef _ garbage => localRef.isSome ∨ garbage = 0
  | .reset w ptr _ => ∀ r, p.refs w = some r → ptr ≠ r.localRef → ∀ b buf, r.elements = some b →
    p.jni.buffers b = some buf → r.modified = true ∨ ¬ buf.IsUnsent
  | .moveAssign w source => (p.refs source).isSome → p.elementsOf w = none
  | .release w | .destroy w => p.elementsOf w = none
  | .access _ | .store _ _ _ | .commit _ | .moveConstruct _ _ => True

/-- **A program under its operations.** -/
def arrayMachine (ν : Type*) : Machine (ArrayProgram ν) (ArrayOp ν) where
  step := ArrayProgram.step
  admissible _ _ := True

namespace ArrayProgram

/-- **Buffers and the wrappers that hold them**: a buffer has one holder at
most, it has been released where it has none, and then no value is in it
only. -/
structure IsOwned (p : ArrayProgram ν) : Prop where
  jni : p.jni.IsSound
  consistent : ∀ w r, p.refs w = some r → r.IsConsistent p.jni
  obtained : ∀ w b, p.elementsOf w = some b → (p.jni.buffers b).isSome
  unique : ∀ w w' b, p.elementsOf w = some b → p.elementsOf w' = some b → w = w'
  held : ∀ b buf, p.jni.buffers b = some buf → p.IsHeld b → buf.finals = 0
  givenUp : ∀ b buf, p.jni.buffers b = some buf → ¬ p.IsHeld b → buf.finals = 1 ∧ ¬ buf.IsUnsent

variable {p p' : ArrayProgram ν} {w w' b : ℕ} {r r' : ScopedLocalRef} {jni' : JavaArrays ν}

theorem isOwned_start (arrays : ℕ → List ν) : (start arrays).IsOwned :=
  ⟨⟨nofun, fun _ _ => rfl⟩, nofun, nofun, nofun, nofun, nofun⟩

/-- What is owned is faithful. -/
theorem IsOwned.isFaithful (h : p.IsOwned) : p.IsFaithful where
  held := h.held
  givenUp b buf hbuf hheld := by
    obtain ⟨hfinals, hunsent⟩ := h.givenUp b buf hbuf hheld
    refine ⟨hfinals, fun i v arrived howed => ?_⟩
    rcases arrived with _ | _
    · exact absurd ⟨i, v, howed⟩ hunsent
    · exact (h.jni.buffer b buf hbuf).sent i v howed
  size_eq w r hr := (h.consistent w r hr).size_eq

/-! ## Who holds what -/

theorem elementsOf_of_refs (hr : p.refs w = some r) : p.elementsOf w = r.elements := by
  rw [elementsOf, hr, Option.bind_some]

theorem refs_setRef {o : Option ScopedLocalRef} :
    (p.setRef w o jni').refs w' = if w' = w then o else p.refs w' := Function.update_apply ..

theorem elementsOf_setRef {o : Option ScopedLocalRef} :
    (p.setRef w o jni').elementsOf w' =
      if w' = w then o.bind (·.elements) else p.elementsOf w' := by
  rw [elementsOf, refs_setRef]
  split <;> rfl

theorem isConsistent_of_setRef (hr : r.IsConsistent jni')
    (hothers : ∀ w r, p.refs w = some r → r.IsConsistent jni') :
    ∀ w' r', (p.setRef w (some r) jni').refs w' = some r' → r'.IsConsistent jni' := by
  intro w' r' hr'
  rw [refs_setRef] at hr'
  split at hr'
  · obtain rfl := Option.some.inj hr'
    exact hr
  · exact hothers w' r' hr'

/-- Wrappers that hold what they held. -/
theorem IsOwned.of_elementsOf (h : p.IsOwned) (hjni : p'.jni = p.jni)
    (helements : ∀ w, p'.elementsOf w = p.elementsOf w)
    (hrefs : ∀ w r, p'.refs w = some r → r.IsConsistent p.jni) : p'.IsOwned := by
  have hheld : ∀ b, p'.IsHeld b ↔ p.IsHeld b := fun b => by
    simp only [IsHeld, helements]
  refine ⟨hjni ▸ h.jni, hjni ▸ hrefs, fun w b hw => ?_, fun w w' b hw hw' => ?_,
    fun b buf hbuf hb => ?_, fun b buf hbuf hb => ?_⟩
  · rw [hjni]
    exact h.obtained w b (helements w ▸ hw)
  · exact h.unique w w' b (helements w ▸ hw) (helements w' ▸ hw')
  · exact h.held b buf (hjni ▸ hbuf) ((hheld b).1 hb)
  · exact h.givenUp b buf (hjni ▸ hbuf) fun hp => hb ((hheld b).2 hp)

theorem consistent_frame (hr : r.IsConsistent p.jni) (h : p.jni.TouchesOnly b jni') :
    r.IsConsistent jni' := by
  refine ⟨hr.size_eq.trans ?_, hr.isSome_localRef⟩
  unfold ScopedLocalRef.arrayLength
  split
  · exact (h.length_arrays _).symm
  · rfl

/-- **An operation on one buffer**, held or not. -/
theorem IsOwned.touch (h : p.IsOwned) (hsound : jni'.IsSound) (htouches : p.jni.TouchesOnly b jni')
    {buf buf' : ArrayBuffer ν} (hbuf : p.jni.buffers b = some buf)
    (hbuf' : jni'.buffers b = some buf') (hfinals : buf'.finals = buf.finals)
    (hunsent : buf'.IsUnsent → buf.finals = 0 ∨ buf.IsUnsent) :
    ({ p with jni := jni' } : ArrayProgram ν).IsOwned where
  jni := hsound
  consistent w r hr := consistent_frame (h.consistent w r hr) htouches
  obtained w b' hw := (htouches.isSome_eq b').trans (h.obtained w b' hw)
  unique := h.unique
  held b' buf₁ hbuf₁ hheld := by
    by_cases hb : b' = b
    · subst hb
      obtain rfl := Option.some.inj (hbuf'.symm.trans hbuf₁)
      exact hfinals.trans (h.held b' buf hbuf hheld)
    · obtain ⟨buf₀, hbuf₀, -, hsame, -⟩ := htouches.others b' hb buf₁ hbuf₁
      exact hsame.trans (h.held b' buf₀ hbuf₀ hheld)
  givenUp b' buf₁ hbuf₁ hheld := by
    by_cases hb : b' = b
    · subst hb
      obtain rfl := Option.some.inj (hbuf'.symm.trans hbuf₁)
      obtain ⟨hone, hsent⟩ := h.givenUp b' buf hbuf hheld
      refine ⟨hfinals.trans hone, fun hno => ?_⟩
      rcases hunsent hno with hzero | hno'
      · omega
      · exact hsent hno'
    · obtain ⟨buf₀, hbuf₀, -, hsame, hsent⟩ := htouches.others b' hb buf₁ hbuf₁
      obtain ⟨hone, hsent₀⟩ := h.givenUp b' buf₀ hbuf₀ hheld
      exact ⟨hsame.trans hone, fun hno => hsent₀ (hsent hno)⟩

/-- **A buffer given up** with its final release. -/
theorem IsOwned.giveUp (h : p.IsOwned) (hr : p.refs w = some r) (hb : r.elements = some b)
    (hsound : jni'.IsSound) (htouches : p.jni.TouchesOnly b jni')
    {buf buf' : ArrayBuffer ν} (hbuf : p.jni.buffers b = some buf)
    (hbuf' : jni'.buffers b = some buf') (hfinals : buf'.finals = buf.finals + 1)
    (hunsent : ¬ buf'.IsUnsent) :
    (p.setRef w (some { r with elements := none }) jni').IsOwned := by
  have hw : p.elementsOf w = some b := (elementsOf_of_refs hr).trans hb
  have helements : ∀ w', (p.setRef w (some { r with elements := none }) jni').elementsOf w' =
      if w' = w then none else p.elementsOf w' := fun w' => elementsOf_setRef
  have hkept : ∀ {w' b'}, (p.setRef w (some { r with elements := none }) jni').elementsOf w' =
      some b' → w' ≠ w ∧ p.elementsOf w' = some b' := by
    intro w' b' hw'
    rw [helements] at hw'
    split at hw'
    · exact absurd hw' nofun
    · rename_i hne
      exact ⟨hne, hw'⟩
  have hheld : ∀ b' ≠ b, p.IsHeld b' →
      (p.setRef w (some { r with elements := none }) jni').IsHeld b' := by
    rintro b' hne ⟨w', hw'⟩
    refine ⟨w', ?_⟩
    rw [helements, if_neg, hw']
    rintro rfl
    exact hne (Option.some.inj (hw'.symm.trans hw))
  have hcons := h.consistent w r hr
  refine ⟨hsound, isConsistent_of_setRef ?_ ?_, fun w' b' hw' => ?_, fun w₁ w₂ b' h₁ h₂ => ?_,
    fun b' buf₁ hbuf₁ hheld' => ?_, fun b' buf₁ hbuf₁ hfree => ?_⟩
  · exact consistent_frame ⟨hcons.size_eq, fun hno => absurd hno nofun⟩ htouches
  · exact fun w' r' hr' => consistent_frame (h.consistent w' r' hr') htouches
  · exact (htouches.isSome_eq b').trans (h.obtained w' b' (hkept hw').2)
  · exact h.unique w₁ w₂ b' (hkept h₁).2 (hkept h₂).2
  · obtain ⟨w', hw'⟩ := hheld'
    obtain ⟨hne, hw'⟩ := hkept hw'
    have hb' : b' ≠ b := by
      rintro rfl
      exact hne (h.unique w' w b' hw' hw)
    obtain ⟨buf₀, hbuf₀, -, hsame, -⟩ := htouches.others b' hb' buf₁ hbuf₁
    exact hsame.trans (h.held b' buf₀ hbuf₀ ⟨w', hw'⟩)
  · by_cases hb' : b' = b
    · subst hb'
      obtain rfl := Option.some.inj (hbuf'.symm.trans hbuf₁)
      rw [h.held b' buf hbuf ⟨w, hw⟩] at hfinals
      exact ⟨hfinals, hunsent⟩
    · obtain ⟨buf₀, hbuf₀, -, hsame, hsent⟩ := htouches.others b' hb' buf₁ hbuf₁
      obtain ⟨hone, hsent₀⟩ := h.givenUp b' buf₀ hbuf₀ fun hp => hfree (hheld b' hb' hp)
      exact ⟨hsame.trans hone, fun hno => hsent₀ (hsent hno)⟩

/-- **A buffer obtained** by a wrapper that holds none. -/
theorem IsOwned.acquire (h : p.IsOwned) (hnone : p.elementsOf w = none)
    {array : ℕ} {copy : Option (List ν)} (hcopy : ∀ xs ∈ copy, xs = p.jni.arrays array)
    (hnew : r.elements = some p.jni.obtained) (hr : r.IsConsistent p.jni) :
    (p.setRef w (some r) (p.jni.obtain array copy)).IsOwned := by
  obtain ⟨hsound, hbuffers⟩ := h.jni.obtain hcopy
  have helements : ∀ w', (p.setRef w (some r) (p.jni.obtain array copy)).elementsOf w' =
      if w' = w then some p.jni.obtained else p.elementsOf w' := fun w' => by
    rw [elementsOf_setRef, Option.bind_some, hnew]
  have hfresh : ∀ w', p.elementsOf w' ≠ some p.jni.obtained := by
    intro w' hw'
    have hsome := h.obtained w' _ hw'
    rw [h.jni.fresh _ (Nat.le_refl _)] at hsome
    exact absurd hsome nofun
  have hheld : ∀ b' ≠ p.jni.obtained,
      ((p.setRef w (some r) (p.jni.obtain array copy)).IsHeld b' ↔ p.IsHeld b') := by
    refine fun b' hb' => exists_congr fun w' => ?_
    rw [helements]
    split
    · rename_i hw'
      rw [hw', hnone, Option.some_inj]
      exact iff_of_false (Ne.symm hb') nofun
    · exact Iff.rfl
  refine ⟨hsound, isConsistent_of_setRef ?_ ?_, fun w' b' hw' => ?_, fun w₁ w₂ b' h₁ h₂ => ?_,
    fun b' buf hbuf hheld' => ?_, fun b' buf hbuf hfree => ?_⟩
  · exact ⟨hr.size_eq, hr.isSome_localRef⟩
  · exact fun w' r' hr' =>
      ⟨(h.consistent w' r' hr').size_eq, (h.consistent w' r' hr').isSome_localRef⟩
  · show ((p.jni.obtain array copy).buffers b').isSome
    rw [hbuffers]
    split
    · rfl
    · rename_i hb'
      rw [helements] at hw'
      split at hw'
      · exact absurd (Option.some.inj hw').symm hb'
      · exact h.obtained w' b' hw'
  · rw [helements] at h₁ h₂
    split at h₁ <;> split at h₂
    · rename_i hw₁ hw₂
      exact hw₁.trans hw₂.symm
    · exact absurd (h₂.trans h₁.symm) (hfresh w₂)
    · exact absurd (h₁.trans h₂.symm) (hfresh w₁)
    · exact h.unique w₁ w₂ b' h₁ h₂
  · have hbuf' := hbuf
    rw [setRef, hbuffers] at hbuf'
    split at hbuf'
    · rw [← Option.some.inj hbuf']
    · rename_i hb'
      exact h.held b' buf hbuf' ((hheld b' hb').1 hheld')
  · have hbuf' := hbuf
    rw [setRef, hbuffers] at hbuf'
    split at hbuf'
    · rename_i hb'
      refine absurd ⟨w, ?_⟩ hfree
      rw [helements, if_pos rfl, hb']
    · rename_i hb'
      exact h.givenUp b' buf hbuf' fun hp => hfree ((hheld b' hb').2 hp)

/-- **A move** to a wrapper that holds nothing. -/
theorem IsOwned.move (h : p.IsOwned) (hnone : p.elementsOf w = none) {source : ℕ}
    (hr : p.refs source = some r) : (p.move w source r).IsOwned := by
  have helements : ∀ w', (p.move w source r).elementsOf w' =
      if w' = source then none else if w' = w then p.elementsOf source else p.elementsOf w' := by
    intro w'
    rw [ArrayProgram.move, elementsOf_setRef, elementsOf_setRef, elementsOf_of_refs hr]
    rfl
  have hheld : ∀ b, (p.move w source r).IsHeld b ↔ p.IsHeld b := by
    intro b
    constructor
    · rintro ⟨w', hw'⟩
      rw [helements] at hw'
      split at hw'
      · exact absurd hw' nofun
      · split at hw'
        · exact ⟨source, hw'⟩
        · exact ⟨w', hw'⟩
    · rintro ⟨w', hw'⟩
      have hne : w' ≠ w := by
        rintro rfl
        exact absurd (hnone.symm.trans hw') nofun
      by_cases hs : w' = source
      · subst hs
        exact ⟨w, by rw [helements, if_neg (Ne.symm hne), if_pos rfl, hw']⟩
      · exact ⟨w', by rw [helements, if_neg hs, if_neg hne, hw']⟩
  -- the holder before the move
  have horigin : ∀ {w' b}, (p.move w source r).elementsOf w' = some b → w' ≠ source ∧
      (w' = w ∧ p.elementsOf source = some b ∨ w' ≠ w ∧ p.elementsOf w' = some b) := by
    intro w' b hw'
    rw [helements] at hw'
    split at hw'
    · exact absurd hw' nofun
    · rename_i hs
      split at hw'
      · exact ⟨hs, Or.inl ⟨‹_›, hw'⟩⟩
      · exact ⟨hs, Or.inr ⟨‹_›, hw'⟩⟩
  refine ⟨h.jni, isConsistent_of_setRef ⟨rfl, fun hno => absurd hno nofun⟩
    (isConsistent_of_setRef (h.consistent source r hr) h.consistent), fun w' b hw' => ?_,
    fun w₁ w₂ b h₁ h₂ => ?_, fun b buf hbuf hb => ?_, fun b buf hbuf hb => ?_⟩
  · rcases (horigin hw').2 with ⟨-, hw''⟩ | ⟨-, hw''⟩
    · exact h.obtained source b hw''
    · exact h.obtained w' b hw''
  · obtain ⟨hs₁, h₁ | h₁⟩ := horigin h₁ <;> obtain ⟨hs₂, h₂ | h₂⟩ := horigin h₂
    · exact h₁.1.trans h₂.1.symm
    · exact absurd (h.unique w₂ source b h₂.2 h₁.2) hs₂
    · exact absurd (h.unique w₁ source b h₁.2 h₂.2) hs₁
    · exact h.unique w₁ w₂ b h₁.2 h₂.2
  · exact h.held b buf hbuf ((hheld b).1 hb)
  · exact h.givenUp b buf hbuf fun hp => hb ((hheld b).2 hp)

/-! ## Operations -/

theorem setRef_setRef {o o' : Option ScopedLocalRef} {jni : JavaArrays ν} :
    (p.setRef w o jni).setRef w o' jni' = p.setRef w o' jni' := by
  show ArrayProgram.mk _ (Function.update (Function.update p.refs w o) w o') _ = _
  rw [Function.update_idem]
  rfl

/-- A wrapper that holds what it held. -/
theorem IsOwned.setRef (h : p.IsOwned) (hr : r.IsConsistent p.jni)
    (helements : r.elements = p.elementsOf w) : (p.setRef w (some r) p.jni).IsOwned := by
  refine h.of_elementsOf rfl (fun w' => ?_) (isConsistent_of_setRef hr h.consistent)
  rw [elementsOf_setRef]
  split
  · rename_i hw
    rw [hw, Option.bind_some, helements]
  · rfl

/-- What `reset` does first. -/
theorem IsOwned.giveUpRef (h : p.IsOwned) (hr : p.refs w = some r)
    (hkeeps : ∀ b buf, r.elements = some b → p.jni.buffers b = some buf →
      r.modified = true ∨ ¬ buf.IsUnsent) :
    (p.setRef w (some (r.giveUp p.jni).1) (r.giveUp p.jni).2).IsOwned ∧
      (r.giveUp p.jni).1.elements = none := by
  have hcons := h.consistent w r hr
  unfold ScopedLocalRef.giveUp
  rcases helements : r.elements with _ | b
  · have hrelease : r.releaseElements p.jni r.finalMode = p.jni := by
      unfold ScopedLocalRef.releaseElements
      rw [helements]
      rcases r.localRef with _ | ref <;> rfl
    have hw : p.elementsOf w = none := (elementsOf_of_refs hr).trans helements
    split
    · rw [hrelease]
      exact ⟨h.setRef ⟨hcons.size_eq, fun hno => absurd hno nofun⟩ hw.symm, rfl⟩
    · exact ⟨h.setRef hcons (helements.trans hw.symm), helements⟩
  · have hsome := hcons.isSome_localRef (by rw [helements]; rfl)
    rw [if_pos hsome]
    refine ⟨?_, rfl⟩
    obtain ⟨ref, href⟩ := Option.isSome_iff_exists.1 hsome
    obtain ⟨buf, hbuf⟩ := Option.isSome_iff_exists.1
      (h.obtained w b ((elementsOf_of_refs hr).trans helements))
    have hrelease : r.releaseElements p.jni r.finalMode =
        p.jni.releaseElements b r.finalMode := by
      unfold ScopedLocalRef.releaseElements
      rw [href, helements]
    have hmode : r.finalMode = .copyBack ∨ r.finalMode = .abort ∧ ¬ buf.IsUnsent := by
      unfold ScopedLocalRef.finalMode
      rcases hmodified : r.modified with _ | _
      · refine Or.inr ⟨rfl, ?_⟩
        rcases hkeeps b buf helements hbuf with hset | hsent
        · exact absurd (hmodified.symm.trans hset) nofun
        · exact hsent
      · exact Or.inl rfl
    obtain ⟨hsound, htouches, buf', hbuf', -, hfinals, hunsent⟩ :=
      h.jni.releaseElements hbuf hmode
    rw [hrelease]
    exact h.giveUp hr helements hsound htouches hbuf hbuf' hfinals hunsent

/-- And what it does then. -/
theorem IsOwned.takeRef (h : p.IsOwned) (hw : p.elementsOf w = none) (hr : r.elements = none)
    (ptr : Option LocalRef) (answer : ElementsAnswer) :
    (p.setRef w (some (r.take p.jni ptr answer).1) (r.take p.jni ptr answer).2).IsOwned := by
  unfold ScopedLocalRef.take
  rcases ptr with _ | ref
  · refine h.setRef ⟨rfl, fun hno => ?_⟩ (hr.trans hw.symm)
    rw [hr] at hno
    exact absurd hno nofun
  · rcases answer with _ | _ | _
    · exact h.setRef ⟨rfl, fun _ => rfl⟩ hw.symm
    · exact h.acquire hw nofun rfl ⟨rfl, fun _ => rfl⟩
    · exact h.acquire hw (fun xs hxs => (Option.some.inj hxs).symm) rfl ⟨rfl, fun _ => rfl⟩

/-- **`reset`** of a wrapper that loses nothing by it. -/
theorem IsOwned.reset (h : p.IsOwned) (hr : p.refs w = some r) {ptr : Option LocalRef}
    (answer : ElementsAnswer)
    (hkeeps : ptr ≠ r.localRef → ∀ b buf, r.elements = some b → p.jni.buffers b = some buf →
      r.modified = true ∨ ¬ buf.IsUnsent) :
    (p.setRef w (some (r.reset p.jni ptr answer).1) (r.reset p.jni ptr answer).2).IsOwned := by
  unfold ScopedLocalRef.reset
  split
  · exact h.setRef (h.consistent w r hr) (elementsOf_of_refs hr).symm
  · rename_i hother
    obtain ⟨howned, hnone⟩ := h.giveUpRef hr (hkeeps hother)
    have hw : (p.setRef w (some (r.giveUp p.jni).1) (r.giveUp p.jni).2).elementsOf w = none := by
      rw [elementsOf_setRef, if_pos rfl, Option.bind_some, hnone]
    have htaken := howned.takeRef hw hnone ptr answer
    rw [setRef_setRef] at htaken
    exact htaken

/-- **`commit`** -/
theorem IsOwned.commit (h : p.IsOwned) (hr : p.refs w = some r) :
    (p.setRef w (some (r.commit p.jni).1) (r.commit p.jni).2).IsOwned := by
  have hcons := h.consistent w r hr
  have hw : p.elementsOf w = r.elements := elementsOf_of_refs hr
  have hflag : ({ r with modified := false } : ScopedLocalRef).IsConsistent p.jni :=
    ⟨hcons.size_eq, hcons.isSome_localRef⟩
  unfold ScopedLocalRef.commit ScopedLocalRef.releaseElements
  split
  · rename_i ref b href helements
    obtain ⟨buf, hbuf⟩ := Option.isSome_iff_exists.1 (h.obtained w b (hw.trans helements))
    obtain ⟨hsound, htouches, buf', hbuf', -, hfinals, hunsent⟩ := h.jni.copyBack hbuf
    have htouched := h.touch hsound htouches hbuf hbuf' hfinals fun hno => absurd hno hunsent
    exact htouched.setRef (consistent_frame hflag htouches) hw.symm
  · exact h.setRef hflag hw.symm

/-- A new wrapper. -/
theorem IsOwned.construct (h : p.IsOwned) (hr : p.refs w = none) {localRef : Option LocalRef}
    (answer : ElementsAnswer) {garbage : ℕ} (hkeeps : localRef.isSome ∨ garbage = 0) :
    (p.setRef w (some (ScopedLocalRef.construct garbage p.jni localRef answer).1)
      (ScopedLocalRef.construct garbage p.jni localRef answer).2).IsOwned := by
  have hw : p.elementsOf w = none := by rw [elementsOf, hr, Option.bind_none]
  unfold ScopedLocalRef.construct ScopedLocalRef.reset
  split
  · rename_i hnull
    obtain rfl : garbage = 0 := by
      rcases hkeeps with hsome | hzero
      · rw [hnull] at hsome
        exact absurd hsome nofun
      · exact hzero
    exact h.setRef ⟨rfl, fun hno => absurd hno nofun⟩ hw.symm
  · exact h.takeRef hw rfl localRef answer

/-- **A step that loses nothing.** -/
theorem IsOwned.step (h : p.IsOwned) {op : ArrayOp ν} (hkeeps : op.LosesNothing p) :
    (p.step op).IsOwned := by
  rcases op with ⟨w, localRef, answer, garbage⟩ | w | ⟨pointer, i, v⟩ | w | ⟨w, ptr, answer⟩ |
    ⟨w, source⟩ | ⟨w, source⟩ | w | w
  case construct =>
    dsimp only [ArrayProgram.step]
    rcases hr : p.refs w with _ | r
    · exact h.construct hr answer hkeeps
    · exact h
  case access =>
    dsimp only [ArrayProgram.step]
    rcases hr : p.refs w with _ | r
    · exact h
    · have hcons := h.consistent w r hr
      have howned := h.setRef (r := r.access) ⟨hcons.size_eq, hcons.isSome_localRef⟩
        (elementsOf_of_refs hr).symm
      exact howned.of_elementsOf rfl (fun _ => rfl) howned.consistent
  case store =>
    dsimp only [ArrayProgram.step]
    rcases p.pointers[pointer]? with _ | b
    · exact h
    · dsimp only
      rcases hbuf : p.jni.buffers b with _ | buf
      · have hsame : p.jni.store b i v = p.jni := by rw [JavaArrays.store, hbuf]
        rw [hsame]
        exact h
      · obtain ⟨hsound, htouches, buf', hbuf', -, hfinals, hunsent⟩ := h.jni.store hbuf i v
        exact h.touch hsound htouches hbuf hbuf' hfinals hunsent
  case commit =>
    dsimp only [ArrayProgram.step]
    rcases hr : p.refs w with _ | r
    · exact h
    · exact h.commit hr
  case reset =>
    dsimp only [ArrayProgram.step]
    rcases hr : p.refs w with _ | r
    · exact h
    · exact h.reset hr answer (hkeeps r hr)
  case moveConstruct =>
    dsimp only [ArrayProgram.step]
    rcases hr : p.refs w with _ | r
    · rcases hs : p.refs source with _ | r
      · exact h
      · exact h.move (by rw [elementsOf, hr, Option.bind_none]) hs
    · exact h
  case moveAssign =>
    dsimp only [ArrayProgram.step]
    rcases hr : p.refs w with _ | r
    · exact h
    · rcases hs : p.refs source with _ | r
      · exact h
      · exact h.move (hkeeps (by rw [hs]; rfl)) hs
  case release =>
    dsimp only [ArrayProgram.step]
    rcases hr : p.refs w with _ | r
    · exact h
    · exact h.setRef ⟨rfl, fun hno => absurd hno nofun⟩ hkeeps.symm
  case destroy =>
    dsimp only [ArrayProgram.step]
    rcases hr : p.refs w with _ | r
    · exact h
    · refine h.of_elementsOf rfl (fun w' => ?_) fun w' r' hr' => ?_
      · rw [elementsOf_setRef]
        split
        · rename_i hw
          rw [hw, hkeeps]
          rfl
        · rfl
      · rw [refs_setRef] at hr'
        split at hr'
        · exact absurd hr' nofun
        · exact h.consistent w' r' hr'

end ArrayProgram

/-! ## Runs -/

/-- **No write is lost and no buffer is leaked** along a run whose every step
loses nothing. -/
theorem array_elements_faithful (arrays : ℕ → List ν) (ops : List (ArrayOp ν))
    (hkeeps : (arrayMachine ν).EachStep (fun p op => op.LosesNothing p) (.start arrays) ops) :
    (arrayMachine ν).Everywhere ArrayProgram.IsFaithful (.start arrays) ops :=
  (Machine.everywhere_of_eachStep (fun _ _ howned hop => howned.step hop)
    (ArrayProgram.isOwned_start arrays) hkeeps).mono fun _ howned => howned.isFaithful

/-- An array written to and given up by `reset`. -/
theorem array_elements_faithful_reset :
    (arrayMachine ℕ).Everywhere ArrayProgram.IsFaithful (.start fun _ => [5])
      [.construct 0 (some ⟨0, 0⟩) .copy 0, .access 0, .store 0 0 7, .reset 0 none .null,
        .destroy 0] := by
  refine array_elements_faithful (fun _ => [5]) _ ?_
  simp only [Machine.eachStep_cons, Machine.eachStep_nil, and_true]
  refine ⟨Or.inl rfl, trivial, trivial, fun r hr _ b buf _ _ => Or.inl ?_, rfl⟩
  obtain rfl := Option.some.inj hr
  rfl

/-- A run that ends with the destructor. -/
def destroyedRun : List (ArrayOp ℕ) :=
  [.construct 0 (some ⟨0, 0⟩) .copy 0, .access 0, .store 0 0 7, .destroy 0]

/-- **The destructor** leaves the value behind, in a buffer that nothing
releases. -/
theorem destroy_loses_write :
    ((arrayMachine ℕ).exec (.start fun _ => [5]) destroyedRun).jni.arrays 0 = [5] ∧
      ¬ (arrayMachine ℕ).Everywhere ArrayProgram.IsFaithful (.start fun _ => [5])
        destroyedRun := by
  refine ⟨rfl, fun heverywhere => ?_⟩
  have hfree : ¬ ((arrayMachine ℕ).exec (.start fun _ => [5]) destroyedRun).IsHeld 0 := by
    rintro ⟨_ | w, hw⟩
    · exact absurd hw nofun
    · exact absurd hw nofun
  obtain ⟨hone, -⟩ := heverywhere.exec.givenUp 0 _ rfl hfree
  exact absurd hone (by decide)

end LSPlant
