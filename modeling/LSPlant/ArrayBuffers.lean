import Mathlib.Data.List.Basic
import Mathlib.Data.Nat.Notation
import Mathlib.Logic.Function.Basic
/-!
# Array buffers

What `Get...ArrayElements` and `Release...ArrayElements` do to the Java
arrays: a buffer is the elements of the array themselves or a copy of them,
and a copy gets to the array when it is written back. Of each value stored
through a buffer it is kept whether it has got to the array, until someone
else overwrites it there.
-/

namespace LSPlant

/-- **What `Get...ArrayElements` answers**: null, the elements themselves or
a copy of them. -/
inductive ElementsAnswer where
  | null | direct | copy

/-- The modes of `Release...ArrayElements`: 0, `JNI_COMMIT` and
`JNI_ABORT`. -/
inductive ReleaseMode where
  | copyBack | commit | abort

/-- **A buffer** of the elements of an array. -/
structure ArrayBuffer (ν : Type*) where
  array : ℕ
  /-- The copy, none where the elements are the array's own. -/
  copy : Option (List ν)
  /-- The final releases it has got. -/
  finals : ℕ
  /-- The value stored last at an index, with whether it is in the array. -/
  owed : ℕ → Option (ν × Bool)

/-- **The arrays**, with the buffers that have been obtained. -/
structure JavaArrays (ν : Type*) where
  arrays : ℕ → List ν
  buffers : ℕ → Option (ArrayBuffer ν)
  obtained : ℕ

variable {ν : Type*}

namespace ArrayBuffer

variable (buf : ArrayBuffer ν)

/-- Someone else writes to the array: a value that had got there is no
longer owed. -/
def supersede (touched : ℕ → Bool) : ArrayBuffer ν :=
  { buf with
    owed := fun i =>
      match buf.owed i with
      | some (v, true) => if touched i then none else some (v, true)
      | owed => owed }

/-- All values are in the array. -/
def sent : ArrayBuffer ν :=
  { buf with owed := fun i => (buf.owed i).map fun owed => (owed.1, true) }

/-- **A value is in the buffer only.** -/
def IsUnsent : Prop := ∃ i v, buf.owed i = some (v, false)

/-- **What is kept of a buffer is true.** -/
structure IsSound (arrays : ℕ → List ν) : Prop where
  length_copy : ∀ xs ∈ buf.copy, xs.length = (arrays buf.array).length
  sent : ∀ i v, buf.owed i = some (v, true) → (arrays buf.array)[i]? = some v
  copied : ∀ xs ∈ buf.copy, ∀ i owed, buf.owed i = some owed → xs[i]? = some owed.1
  isSome_copy : buf.IsUnsent → buf.copy.isSome

end ArrayBuffer

namespace JavaArrays

variable (jni : JavaArrays ν)

def setBuffer (b : ℕ) (buf : ArrayBuffer ν) : JavaArrays ν :=
  { jni with buffers := Function.update jni.buffers b (some buf) }

/-- New elements for an array, from the holder of a buffer of it. -/
def put (b array : ℕ) (xs : List ν) (touched : ℕ → Bool) : JavaArrays ν :=
  { jni with
    arrays := Function.update jni.arrays array xs
    buffers := fun b' => (jni.buffers b').map fun buf =>
      if b' = b ∨ buf.array ≠ array then buf else buf.supersede touched }

/-- A new buffer of an array. -/
def obtain (array : ℕ) (copy : Option (List ν)) : JavaArrays ν :=
  { jni.setBuffer jni.obtained ⟨array, copy, 0, fun _ => none⟩ with obtained := jni.obtained + 1 }

/-- **`Get...ArrayElements`** -/
def getElements (array : ℕ) : ElementsAnswer → JavaArrays ν × Option ℕ
  | .null => (jni, none)
  | .direct => (jni.obtain array none, some jni.obtained)
  | .copy => (jni.obtain array (some (jni.arrays array)), some jni.obtained)

/-- A copy is written back. -/
def copyBack (b : ℕ) : JavaArrays ν :=
  match jni.buffers b with
  | none => jni
  | some buf =>
    match buf.copy with
    | none => jni
    | some xs => (jni.put b buf.array xs fun _ => true).setBuffer b buf.sent

/-- A buffer gets a final release. -/
def free (b : ℕ) : JavaArrays ν :=
  match jni.buffers b with
  | none => jni
  | some buf => jni.setBuffer b { buf with finals := buf.finals + 1 }

/-- **`Release...ArrayElements`** -/
def releaseElements (b : ℕ) : ReleaseMode → JavaArrays ν
  | .copyBack => (jni.copyBack b).free b
  | .commit => jni.copyBack b
  | .abort => jni.free b

/-- **A store through a pointer** into a buffer. There is none outside the
buffer, and none once it has been released. -/
def store (b i : ℕ) (v : ν) : JavaArrays ν :=
  match jni.buffers b with
  | none => jni
  | some buf =>
    if buf.finals ≠ 0 ∨ (jni.arrays buf.array).length ≤ i then jni
    else
      match buf.copy with
      | none =>
        (jni.put b buf.array ((jni.arrays buf.array).set i v) fun j => j = i).setBuffer b
          { buf with owed := Function.update buf.owed i (some (v, true)) }
      | some xs =>
        jni.setBuffer b
          { buf with
            copy := some (xs.set i v)
            owed := Function.update buf.owed i (some (v, false)) }

/-- **What is kept of the buffers is true**, and a new one is new. -/
structure IsSound : Prop where
  buffer : ∀ b buf, jni.buffers b = some buf → buf.IsSound jni.arrays
  fresh : ∀ b, jni.obtained ≤ b → jni.buffers b = none

/-- **An operation on one buffer**, seen from the others. -/
structure TouchesOnly (b : ℕ) (jni' : JavaArrays ν) : Prop where
  length_arrays : ∀ array, (jni'.arrays array).length = (jni.arrays array).length
  obtained_eq : jni'.obtained = jni.obtained
  isSome_eq : ∀ b', (jni'.buffers b').isSome = (jni.buffers b').isSome
  others : ∀ b' ≠ b, ∀ buf', jni'.buffers b' = some buf' → ∃ buf, jni.buffers b' = some buf ∧
    buf'.array = buf.array ∧ buf'.finals = buf.finals ∧ (buf'.IsUnsent → buf.IsUnsent)

variable {jni} {jni' jni'' : JavaArrays ν} {b b' array i : ℕ} {buf buf' : ArrayBuffer ν}
  {xs : List ν} {touched : ℕ → Bool} {v : ν}

/-! ## Frames -/

variable (jni b) in
theorem TouchesOnly.refl : jni.TouchesOnly b jni :=
  ⟨fun _ => rfl, rfl, fun _ => rfl, fun _ _ buf h => ⟨buf, h, rfl, rfl, id⟩⟩

theorem TouchesOnly.trans (h : jni.TouchesOnly b jni') (h' : jni'.TouchesOnly b jni'') :
    jni.TouchesOnly b jni'' where
  length_arrays array := (h'.length_arrays array).trans (h.length_arrays array)
  obtained_eq := h'.obtained_eq.trans h.obtained_eq
  isSome_eq b' := (h'.isSome_eq b').trans (h.isSome_eq b')
  others b' hb buf'' h₂ := by
    obtain ⟨buf', h₁, harray', hfinals', hunsent'⟩ := h'.others b' hb buf'' h₂
    obtain ⟨buf, h₀, harray, hfinals, hunsent⟩ := h.others b' hb buf' h₁
    exact ⟨buf, h₀, harray'.trans harray, hfinals'.trans hfinals, fun hu => hunsent (hunsent' hu)⟩

theorem setBuffer_self : (jni.setBuffer b buf).buffers b = some buf := Function.update_self ..

theorem setBuffer_of_ne (h : b' ≠ b) : (jni.setBuffer b buf).buffers b' = jni.buffers b' :=
  Function.update_of_ne h ..

theorem setBuffer_touchesOnly (h : jni.buffers b = some buf) :
    jni.TouchesOnly b (jni.setBuffer b buf') := by
  refine ⟨fun _ => rfl, rfl, fun b' => ?_, fun b' hb buf'' hbuf'' => ?_⟩
  · by_cases hb : b' = b
    · rw [hb, setBuffer_self, h, Option.isSome_some, Option.isSome_some]
    · rw [setBuffer_of_ne hb]
  · rw [setBuffer_of_ne hb] at hbuf''
    exact ⟨buf'', hbuf'', rfl, rfl, id⟩

theorem IsSound.setBuffer (h : jni.IsSound) (hbuf : jni.buffers b = some buf)
    (hsound : buf'.IsSound jni.arrays) : (jni.setBuffer b buf').IsSound where
  buffer b'' buf'' hbuf'' := by
    by_cases hb : b'' = b
    · rw [hb, setBuffer_self] at hbuf''
      obtain rfl := Option.some.inj hbuf''
      exact hsound
    · rw [setBuffer_of_ne hb] at hbuf''
      exact h.buffer b'' buf'' hbuf''
  fresh b'' hle := by
    have hb : b'' ≠ b := by
      rintro rfl
      exact absurd ((h.fresh b'' hle).symm.trans hbuf) nofun
    rw [setBuffer_of_ne hb]
    exact h.fresh b'' hle

/-- A value that is owed still, where someone else wrote. -/
theorem supersede_owed {o : ν × Bool} (h : (buf.supersede touched).owed i = some o) :
    buf.owed i = some o ∧ (o.2 = true → touched i = false) := by
  unfold ArrayBuffer.supersede at h
  dsimp only at h
  split at h
  · rename_i w howed
    split at h
    · exact absurd h nofun
    · rename_i htouched
      obtain rfl := Option.some.inj h
      exact ⟨howed, fun _ => Bool.not_eq_true _ ▸ htouched⟩
  · rename_i hnot
    refine ⟨h, fun htrue => ?_⟩
    obtain ⟨w, arrived⟩ := o
    dsimp only at htrue
    subst htrue
    exact absurd h (hnot w)

/-- A buffer of another array. -/
theorem isSound_of_ne (h : buf.IsSound jni.arrays) (hne : buf.array ≠ array) :
    buf.IsSound (Function.update jni.arrays array xs) := by
  have hsame : Function.update jni.arrays array xs buf.array = jni.arrays buf.array :=
    Function.update_of_ne hne ..
  refine ⟨?_, ?_, h.copied, h.isSome_copy⟩
  · rw [hsame]
    exact h.length_copy
  · rw [hsame]
    exact h.sent

/-- **A buffer of an array someone else writes to**: what is owed still has
not been touched. -/
theorem isSound_supersede (h : buf.IsSound jni.arrays)
    (hlength : xs.length = (jni.arrays buf.array).length)
    (htouched : ∀ i, touched i = false → xs[i]? = (jni.arrays buf.array)[i]?) :
    (buf.supersede touched).IsSound (Function.update jni.arrays buf.array xs) := by
  have hself : Function.update jni.arrays buf.array xs (buf.supersede touched).array = xs :=
    Function.update_self ..
  refine ⟨fun ys hys => ?_, fun i v howed => ?_, fun ys hys i owed howed => ?_,
    fun ⟨i, v, howed⟩ => ?_⟩
  · rw [hself, hlength]
    exact h.length_copy ys hys
  · obtain ⟨howed', hfalse⟩ := supersede_owed howed
    rw [hself, htouched i (hfalse rfl)]
    exact h.sent i v howed'
  · exact h.copied ys hys i owed (supersede_owed howed).1
  · exact h.isSome_copy ⟨i, v, (supersede_owed howed).1⟩

variable (touched) in
/-- **New elements for an array**, seen from the buffers. -/
theorem IsSound.put (h : jni.IsSound) (hbuf : jni.buffers b = some buf)
    (hlength : xs.length = (jni.arrays buf.array).length)
    (htouched : ∀ i, touched i = false → xs[i]? = (jni.arrays buf.array)[i]?)
    (hsound : buf'.IsSound (Function.update jni.arrays buf.array xs)) :
    ((jni.put b buf.array xs touched).setBuffer b buf').IsSound ∧
      jni.TouchesOnly b ((jni.put b buf.array xs touched).setBuffer b buf') := by
  have hput : ∀ b' ≠ b, ((jni.put b buf.array xs touched).setBuffer b buf').buffers b' =
      (jni.buffers b').map fun other =>
        if other.array ≠ buf.array then other else other.supersede touched := by
    intro b' hb
    rw [setBuffer_of_ne hb]
    show (jni.buffers b').map _ = _
    simp only [hb, false_or]
  refine ⟨⟨fun b' other hother => ?_, fun b' hle => ?_⟩, fun array => ?_, rfl, fun b' => ?_,
    fun b' hb other hother => ?_⟩
  · by_cases hb : b' = b
    · rw [hb, setBuffer_self] at hother
      obtain rfl := Option.some.inj hother
      exact hsound
    · rw [hput b' hb] at hother
      obtain ⟨old, hold, rfl⟩ := Option.map_eq_some_iff.1 hother
      have holdSound := h.buffer b' old hold
      split
      · rename_i ha
        exact isSound_of_ne holdSound ha
      · rename_i ha
        rw [ne_eq, not_not] at ha
        rw [← ha] at hlength htouched
        show (old.supersede touched).IsSound (Function.update jni.arrays buf.array xs)
        rw [← ha]
        exact isSound_supersede holdSound hlength htouched
  · have hb : b' ≠ b := by
      rintro rfl
      exact absurd ((h.fresh b' hle).symm.trans hbuf) nofun
    rw [hput b' hb, h.fresh b' hle]
    rfl
  · show (Function.update jni.arrays buf.array xs array).length = _
    by_cases ha : array = buf.array
    · rw [ha, Function.update_self, hlength]
    · rw [Function.update_of_ne ha]
  · by_cases hb : b' = b
    · rw [hb, setBuffer_self, hbuf, Option.isSome_some, Option.isSome_some]
    · rw [hput b' hb, Option.isSome_map]
  · rw [hput b' hb] at hother
    obtain ⟨old, hold, rfl⟩ := Option.map_eq_some_iff.1 hother
    refine ⟨old, hold, ?_⟩
    split
    · exact ⟨rfl, rfl, id⟩
    · exact ⟨rfl, rfl, fun ⟨i, v, howed⟩ => ⟨i, v, (supersede_owed howed).1⟩⟩

/-! ## What the operations do -/

/-- **Writing back**: no value is in the buffer only. -/
theorem IsSound.copyBack (h : jni.IsSound) (hbuf : jni.buffers b = some buf) :
    (jni.copyBack b).IsSound ∧ jni.TouchesOnly b (jni.copyBack b) ∧
      ∃ buf', (jni.copyBack b).buffers b = some buf' ∧ buf'.array = buf.array ∧
        buf'.finals = buf.finals ∧ ¬ buf'.IsUnsent := by
  have hsound := h.buffer b buf hbuf
  unfold JavaArrays.copyBack
  rw [hbuf]
  dsimp only
  split
  · rename_i hdirect
    refine ⟨h, .refl jni b, buf, hbuf, rfl, rfl, fun hunsent => ?_⟩
    have hsome := hsound.isSome_copy hunsent
    rw [hdirect] at hsome
    exact absurd hsome nofun
  · rename_i xs hcopy
    have hunsent : ¬ buf.sent.IsUnsent := by
      rintro ⟨i, v, howed⟩
      obtain ⟨owed, -, hpair⟩ := Option.map_eq_some_iff.1 howed
      exact absurd (Prod.mk.inj hpair).2 nofun
    have hsent : buf.sent.IsSound (Function.update jni.arrays buf.array xs) := by
      have hself : Function.update jni.arrays buf.array xs buf.sent.array = xs :=
        Function.update_self ..
      refine ⟨fun ys hys => ?_, fun i v howed => ?_, fun ys hys i owed howed => ?_,
        fun hno => absurd hno hunsent⟩
      · rw [hself]
        exact congrArg List.length (Option.some.inj (hcopy.symm.trans hys)).symm
      · rw [hself]
        obtain ⟨owed, howed', hpair⟩ := Option.map_eq_some_iff.1 howed
        obtain rfl := (Prod.mk.inj hpair).1
        exact hsound.copied xs hcopy i owed howed'
      · obtain ⟨owed', howed', rfl⟩ := Option.map_eq_some_iff.1 howed
        exact hsound.copied ys hys i owed' howed'
    obtain ⟨hsound', htouches⟩ := h.put (fun _ => true) hbuf
      (hsound.length_copy xs hcopy) nofun hsent
    exact ⟨hsound', htouches, buf.sent, setBuffer_self, rfl, rfl, hunsent⟩

/-- **A final release** is counted, and writes nothing. -/
theorem IsSound.free (h : jni.IsSound) (hbuf : jni.buffers b = some buf) :
    (jni.free b).IsSound ∧ jni.TouchesOnly b (jni.free b) ∧
      (jni.free b).buffers b = some { buf with finals := buf.finals + 1 } := by
  have hsound := h.buffer b buf hbuf
  unfold JavaArrays.free
  rw [hbuf]
  exact ⟨h.setBuffer hbuf ⟨hsound.length_copy, hsound.sent, hsound.copied, hsound.isSome_copy⟩,
    setBuffer_touchesOnly hbuf, setBuffer_self⟩

/-- **The final release of a buffer.** Where it does not write back, no value
may be in the buffer only. -/
theorem IsSound.releaseElements (h : jni.IsSound) (hbuf : jni.buffers b = some buf)
    {mode : ReleaseMode} (hmode : mode = .copyBack ∨ mode = .abort ∧ ¬ buf.IsUnsent) :
    (jni.releaseElements b mode).IsSound ∧ jni.TouchesOnly b (jni.releaseElements b mode) ∧
      ∃ buf', (jni.releaseElements b mode).buffers b = some buf' ∧ buf'.array = buf.array ∧
        buf'.finals = buf.finals + 1 ∧ ¬ buf'.IsUnsent := by
  rcases hmode with rfl | ⟨rfl, hunsent⟩
  · obtain ⟨hback, htouches, buf', hbuf', harray, hfinals, hunsent⟩ := h.copyBack hbuf
    obtain ⟨hfree, htouches', hbuf''⟩ := hback.free hbuf'
    exact ⟨hfree, htouches.trans htouches', _, hbuf'', harray, congrArg (· + 1) hfinals, hunsent⟩
  · obtain ⟨hfree, htouches, hbuf'⟩ := h.free hbuf
    exact ⟨hfree, htouches, _, hbuf', rfl, rfl, hunsent⟩

/-- What is owed after a store. -/
theorem owed_of_update {f : ℕ → Option (ν × Bool)} {o o' : ν × Bool} {j : ℕ}
    (h : Function.update f i (some o') j = some o) : j = i ∧ o' = o ∨ j ≠ i ∧ f j = some o := by
  by_cases hj : j = i
  · subst hj
    rw [Function.update_self] at h
    exact Or.inl ⟨rfl, Option.some.inj h⟩
  · rw [Function.update_of_ne hj] at h
    exact Or.inr ⟨hj, h⟩

/-- A value stored into the array itself. -/
theorem isSound_storeDirect (h : buf.IsSound jni.arrays) (hdirect : buf.copy = none)
    (hlt : i < (jni.arrays buf.array).length) :
    ({ buf with owed := Function.update buf.owed i (some (v, true)) } : ArrayBuffer ν).IsSound
      (Function.update jni.arrays buf.array ((jni.arrays buf.array).set i v)) := by
  refine ⟨fun ys hys => ?_, fun j w howed => ?_, fun ys hys => ?_, ?_⟩
  · exact absurd (hdirect.symm.trans hys) nofun
  · show (Function.update jni.arrays buf.array ((jni.arrays buf.array).set i v)
      buf.array)[j]? = some w
    rw [Function.update_self]
    rcases owed_of_update howed with ⟨rfl, ho⟩ | ⟨hj, ho⟩
    · obtain rfl := (Prod.mk.inj ho).1
      exact List.getElem?_set_self hlt
    · rw [List.getElem?_set_ne (Ne.symm hj)]
      exact h.sent j w ho
  · exact absurd (hdirect.symm.trans hys) nofun
  · rintro ⟨j, w, howed⟩
    rcases owed_of_update howed with ⟨-, ho⟩ | ⟨-, ho⟩
    · exact absurd (Prod.mk.inj ho).2 nofun
    · exact h.isSome_copy ⟨j, w, ho⟩

/-- And one stored into a copy. -/
theorem isSound_storeCopy (h : buf.IsSound jni.arrays) (hcopy : buf.copy = some xs)
    (hlt : i < (jni.arrays buf.array).length) :
    ({ buf with
        copy := some (xs.set i v)
        owed := Function.update buf.owed i (some (v, false)) } :
          ArrayBuffer ν).IsSound jni.arrays := by
  have hlength := h.length_copy xs hcopy
  refine ⟨fun ys hys => ?_, fun j w howed => ?_, fun ys hys j owed howed => ?_, fun _ => rfl⟩
  · obtain rfl := Option.some.inj hys
    rw [List.length_set]
    exact hlength
  · rcases owed_of_update howed with ⟨-, ho⟩ | ⟨-, ho⟩
    · exact absurd (Prod.mk.inj ho).2 nofun
    · exact h.sent j w ho
  · obtain rfl := Option.some.inj hys
    rcases owed_of_update howed with ⟨rfl, rfl⟩ | ⟨hj, ho⟩
    · exact List.getElem?_set_self (by omega)
    · rw [List.getElem?_set_ne (Ne.symm hj)]
      exact h.copied xs hcopy j owed ho

/-- **A store** keeps what is kept of the buffers true. -/
theorem IsSound.store (h : jni.IsSound) (hbuf : jni.buffers b = some buf) (i : ℕ) (v : ν) :
    (jni.store b i v).IsSound ∧ jni.TouchesOnly b (jni.store b i v) ∧
      ∃ buf', (jni.store b i v).buffers b = some buf' ∧ buf'.array = buf.array ∧
        buf'.finals = buf.finals ∧ (buf'.IsUnsent → buf.finals = 0 ∨ buf.IsUnsent) := by
  have hsound := h.buffer b buf hbuf
  unfold JavaArrays.store
  rw [hbuf]
  dsimp only
  split
  · exact ⟨h, .refl jni b, buf, hbuf, rfl, rfl, Or.inr⟩
  · rename_i hinside
    rw [not_or, ne_eq, not_not, Nat.not_le] at hinside
    obtain ⟨hopen, hlt⟩ := hinside
    split
    · rename_i hdirect
      obtain ⟨hsound', htouches⟩ := h.put (fun j => j = i) hbuf List.length_set
        (fun j hj => List.getElem?_set_ne (Ne.symm (of_decide_eq_false hj)))
        (isSound_storeDirect (v := v) hsound hdirect hlt)
      exact ⟨hsound', htouches, _, setBuffer_self, rfl, rfl, fun _ => Or.inl hopen⟩
    · rename_i xs hcopy
      exact ⟨h.setBuffer hbuf (isSound_storeCopy hsound hcopy hlt), setBuffer_touchesOnly hbuf, _,
        setBuffer_self, rfl, rfl, fun _ => Or.inl hopen⟩

/-- **A buffer obtained** is new, and nothing else changes. -/
theorem IsSound.obtain (h : jni.IsSound) {copy : Option (List ν)}
    (hcopy : ∀ xs ∈ copy, xs = jni.arrays array) :
    (jni.obtain array copy).IsSound ∧
      (∀ b', (jni.obtain array copy).buffers b' =
        if b' = jni.obtained then some ⟨array, copy, 0, fun _ => none⟩ else jni.buffers b') := by
  have hbuffers : ∀ b', (jni.obtain array copy).buffers b' =
      if b' = jni.obtained then some ⟨array, copy, 0, fun _ => none⟩ else jni.buffers b' :=
    fun b' => Function.update_apply ..
  refine ⟨⟨fun b' buf' hbuf' => ?_, fun b' hle => ?_⟩, hbuffers⟩
  · rw [hbuffers] at hbuf'
    split at hbuf'
    · obtain rfl := Option.some.inj hbuf'
      refine ⟨fun xs hxs => congrArg List.length (hcopy xs hxs), nofun, nofun, ?_⟩
      rintro ⟨i, v, howed⟩
      exact absurd howed nofun
    · exact h.buffer b' buf' hbuf'
  · have hle' : jni.obtained + 1 ≤ b' := hle
    rw [hbuffers, if_neg (by omega)]
    exact h.fresh b' (by omega)

end JavaArrays

end LSPlant
