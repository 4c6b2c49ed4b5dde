import LSPlant.ObjectList
import LSPlant.State
import Mathlib.Data.List.GetD
/-!
# Stack traces

`NativeFillInStackTrace_`, which takes LSPlant's own frames out of the
backtrace of a new `Throwable`. An internal backtrace is an array of
objects: one of pointers, the methods of its frames and then their dex
pcs, and then a class for each frame. The frames of hidden methods are
left out, and that of a backup is given its target; what comes back is a
backtrace again, made in other containers than it was read from.
-/

namespace LSPlant

/-- An element of a backtrace. -/
inductive TraceObject where
  | pointers (elements : List ℕ)
  | clazz (id : ℕ)
deriving DecidableEq

/-- An object array, as `nativeFillInStackTrace` returns one. -/
abbrev Backtrace := List (Option TraceObject)

/-- `kNativeMethodDexPc`, minus two in 32 bits. -/
def kNativeMethodDexPc : ℕ := 2 ^ 32 - 2

variable (s : State) (hidden : Finset ArtMethodPtr)

/-- `new_methods` and `new_backtrace`. -/
structure NewTrace where
  methods : List (ArtMethodPtr × ℕ)
  backtrace : JObjectList TraceObject

/-- **One turn of the loop over the frames.** -/
def filterFrame (backtrace : Backtrace) (ptrArray : List ℕ) (frameCount : ℕ) (new : NewTrace)
    (i : ℕ) : Option NewTrace :=
  let method := ptrArray.getD i 0
  let dexPc := ptrArray.getD (frameCount + i) 0
  if method ∈ hidden then some new
  else
    let frame : ArtMethodPtr × ℕ := match s.isBackup method with
      | some target =>
        (target, if (s.heap method).isNative then kNativeMethodDexPc else dexPc)
      | none => (method, dexPc)
    (new.backtrace.add (backtrace.getD (i + 1) none)).map fun added =>
      ⟨new.methods ++ [frame], added.1⟩

/-- The loop that fills `new_ptr_array`, allocated at twice the number of
methods. -/
def newPtrArray (newMethods : List (ArtMethodPtr × ℕ)) : List ℕ :=
  (List.range newMethods.length).foldl (fun array i =>
    let frame := newMethods.getD i (0, 0)
    (array.set i frame.1).set (newMethods.length + i) frame.2)
    (List.replicate (newMethods.length * 2) 0)

/-- **`NativeFillInStackTrace_`**, with what the function hooked returns.
There is no result where it would not return: where the first element is
no pointer array, or an object list runs out of slots. -/
def nativeFillInStackTrace : Option Backtrace → Option (Option Backtrace)
  | none => some none
  | some backtrace =>
    if backtrace.length ≤ 1 then some (some backtrace)
    else
      let frameCount := backtrace.length - 1
      match backtrace.getD 0 none with
      | some (.pointers ptrArray) =>
        if ptrArray.length / 2 ≠ frameCount then some (some backtrace)
        else do
          let reserved := JObjectList.empty.reserve backtrace.length
          let (newBacktrace, _) ← reserved.add (some (.pointers ptrArray))
          let new ← (List.range frameCount).foldlM
            (filterFrame s hidden backtrace ptrArray frameCount) ⟨[], newBacktrace⟩
          let updated := new.backtrace.update 0 (some (.pointers (newPtrArray new.methods)))
          return updated.finalize.array
      | _ => none

/-! ## What a backtrace says -/

/-- **A frame of a backtrace.** -/
structure TraceFrame where
  method : ArtMethodPtr
  dexPc : ℕ
  clazz : ℕ
deriving DecidableEq

/-- The pointer array of frames. -/
def framePointers (frames : List TraceFrame) : List ℕ :=
  frames.map TraceFrame.method ++ frames.map TraceFrame.dexPc

/-- **ART's format**: the pointers of all frames, then their classes. -/
def internalBacktrace (frames : List TraceFrame) : Backtrace :=
  some (.pointers (framePointers frames)) :: frames.map fun frame => some (.clazz frame.clazz)

/-- A frame with its target for a backup. -/
def targetFrame (frame : TraceFrame) : TraceFrame :=
  match s.isBackup frame.method with
  | some target => { frame with
      method := target
      dexPc := if (s.heap frame.method).isNative then kNativeMethodDexPc else frame.dexPc }
  | none => frame

/-- **What a trace shows of a frame**: nothing if its method is hidden. -/
def shownFrame (frame : TraceFrame) : Option TraceFrame :=
  if frame.method ∈ hidden then none else some (targetFrame s frame)

/-- The frames shown of those before the `i`th. -/
def shownFrames (frames : List TraceFrame) (i : ℕ) : List TraceFrame :=
  (frames.take i).filterMap (shownFrame s hidden)

/-- **What the loop has made of the frames before the `i`th.** -/
structure Filtered (frames : List TraceFrame) (i : ℕ) (new : NewTrace) : Prop where
  methods : new.methods = (shownFrames s hidden frames i).map fun f => (f.method, f.dexPc)
  backtrace : new.backtrace.Filled
    (.pointers (framePointers frames) ::
      (shownFrames s hidden frames i).map fun f => .clazz f.clazz) (frames.length + 1)

variable {s hidden} {frames : List TraceFrame} {i : ℕ} {new : NewTrace}

theorem length_shownFrames_le : (shownFrames s hidden frames i).length ≤ i := by
  have hfilter : (shownFrames s hidden frames i).length ≤ (frames.take i).length :=
    List.length_filterMap_le _ _
  rw [List.length_take] at hfilter
  omega

/-- What the turn at `i` reads is the `i`th frame. -/
theorem getD_pointers {frame : TraceFrame} (h : frames[i]? = some frame) :
    (framePointers frames).getD i 0 = frame.method ∧
      (framePointers frames).getD (frames.length + i) 0 = frame.dexPc ∧
      (internalBacktrace frames).getD (i + 1) none = some (.clazz frame.clazz) := by
  obtain ⟨hi, rfl⟩ := List.getElem?_eq_some_iff.1 h
  refine ⟨?_, ?_, ?_⟩
  · rw [framePointers, List.getD_append _ _ _ _ (by simpa using hi)]
    simp [hi]
  · rw [framePointers, List.getD_append_right _ _ _ _ (by simp)]
    simp [hi]
  · simp [internalBacktrace, hi]

theorem shownFrames_succ {frame : TraceFrame} (h : frames[i]? = some frame) :
    shownFrames s hidden frames (i + 1) =
      shownFrames s hidden frames i ++ (shownFrame s hidden frame).toList := by
  rw [shownFrames, List.take_add_one, h, List.filterMap_append]
  rfl

/-- A turn adds its frame as it is shown. -/
theorem filterFrame_eq {frame : TraceFrame} (h : frames[i]? = some frame) (new : NewTrace) :
    filterFrame s hidden (internalBacktrace frames) (framePointers frames) frames.length new i =
      match shownFrame s hidden frame with
      | none => some new
      | some shown => (new.backtrace.add (some (.clazz shown.clazz))).map fun added =>
        ⟨new.methods ++ [(shown.method, shown.dexPc)], added.1⟩ := by
  obtain ⟨hmethod, hdexPc, hclazz⟩ := getD_pointers h
  unfold filterFrame shownFrame targetFrame
  rw [hmethod, hdexPc, hclazz]
  by_cases hhidden : frame.method ∈ hidden
  · simp only [if_pos hhidden]
  · simp only [if_neg hhidden]
    rcases s.isBackup frame.method with _ | target <;> rfl

/-- **One turn**: the frame is added, in the form it is shown, or left out. -/
theorem Filtered.step {frame : TraceFrame} (h : Filtered s hidden frames i new)
    (hframe : frames[i]? = some frame) :
    ∃ new', filterFrame s hidden (internalBacktrace frames) (framePointers frames) frames.length
        new i = some new' ∧ Filtered s hidden frames (i + 1) new' := by
  have hi : i < frames.length := (List.getElem?_eq_some_iff.1 hframe).1
  have hsucc : shownFrames s hidden frames (i + 1) =
      shownFrames s hidden frames i ++ (shownFrame s hidden frame).toList := shownFrames_succ hframe
  rw [filterFrame_eq hframe]
  rcases hshown : shownFrame s hidden frame with _ | shown
  · rw [hshown, Option.toList_none, List.append_nil] at hsucc
    exact ⟨new, rfl, ⟨hsucc ▸ h.methods, hsucc ▸ h.backtrace⟩⟩
  · rw [hshown, Option.toList_some] at hsucc
    have hroom : (shownFrames s hidden frames i).length ≤ i := length_shownFrames_le
    obtain ⟨list, hadd, hfilled⟩ := h.backtrace.add_of_lt (by simp; omega) (.clazz shown.clazz)
    refine ⟨⟨new.methods ++ [(shown.method, shown.dexPc)], list⟩, ?_, ?_, ?_⟩
    · dsimp only
      rw [hadd]
      rfl
    · rw [hsucc, List.map_append, h.methods]
      rfl
    · rw [hsucc, List.map_append]
      exact hfilled

/-- **The loop.** -/
theorem filtered_loop (hnew : Filtered s hidden frames 0 new) (hi : i ≤ frames.length) :
    ∃ new', (List.range i).foldlM (filterFrame s hidden (internalBacktrace frames)
        (framePointers frames) frames.length) new = some new' ∧
      Filtered s hidden frames i new' := by
  induction i with
  | zero => exact ⟨new, rfl, hnew⟩
  | succ i ih =>
    obtain ⟨new₁, hrun, hfiltered⟩ := ih (Nat.le_of_succ_le hi)
    obtain ⟨new₂, hstep, hfiltered₂⟩ := hfiltered.step (List.getElem?_eq_getElem hi)
    refine ⟨new₂, ?_, hfiltered₂⟩
    rw [List.range_succ, List.foldlM_append, hrun]
    simp only [Option.bind_eq_bind, Option.bind_some, List.foldlM_cons, List.foldlM_nil, hstep]
    rfl

/-- Setting two elements a turn, at its index in either half. -/
theorem getElem?_foldl_set {m : ℕ} (f g : ℕ → ℕ) (base : List ℕ) {k : ℕ} (hk : k ≤ m)
    (hbase : base.length = m * 2) (j : ℕ) :
    ((List.range k).foldl (fun array i => (array.set i (f i)).set (m + i) (g i)) base)[j]? =
      if j < k then some (f j) else if m ≤ j ∧ j < m + k then some (g (j - m)) else base[j]? := by
  have hlength : ∀ k, ((List.range k).foldl
      (fun array i => (array.set i (f i)).set (m + i) (g i)) base).length = m * 2 := by
    intro k
    induction k with
    | zero => exact hbase
    | succ k ih =>
      rw [List.range_succ, List.foldl_append]
      simpa using ih
  induction k with
  | zero => simp [show ¬ (m ≤ j ∧ j < m) by omega]
  | succ k ih =>
    rw [List.range_succ, List.foldl_append, List.foldl_cons, List.foldl_nil, List.getElem?_set,
      List.getElem?_set, List.length_set, hlength, ih (Nat.le_of_succ_le hk)]
    rcases Nat.lt_trichotomy j k with hjk | rfl | hjk
    · rw [if_neg (by omega), if_neg (by omega), if_pos hjk, if_pos (by omega)]
    · rw [if_neg (by omega), if_pos rfl, if_pos (by omega), if_pos (by omega)]
    · rw [if_neg (show ¬ k = j by omega), if_neg (show ¬ j < k by omega),
        if_neg (show ¬ j < k + 1 by omega)]
      by_cases hj : m + k = j
      · rw [if_pos hj, if_pos (by omega), if_pos (by omega), ← hj, Nat.add_sub_cancel_left]
      · rw [if_neg hj]
        by_cases hold : m ≤ j ∧ j < m + k
        · rw [if_pos hold, if_pos (by omega)]
        · rw [if_neg hold, if_neg (by omega)]

/-- **The new pointers are in the format of the old ones.** -/
theorem newPtrArray_eq (newMethods : List (ArtMethodPtr × ℕ)) :
    newPtrArray newMethods = newMethods.map Prod.fst ++ newMethods.map Prod.snd := by
  refine List.ext_getElem? fun j => ?_
  unfold newPtrArray
  dsimp only
  rw [getElem?_foldl_set (fun i => (newMethods.getD i (0, 0)).1)
    (fun i => (newMethods.getD i (0, 0)).2) _ (Nat.le_refl _) (by simp)]
  rcases Nat.lt_or_ge j newMethods.length with hj | hj
  · rw [if_pos hj, List.getElem?_append_left (by simpa using hj)]
    simp [hj]
  · rw [if_neg (Nat.not_lt.2 hj), List.getElem?_append_right (by simpa using hj),
      List.length_map]
    by_cases hsecond : j < newMethods.length + newMethods.length
    · have hin : j - newMethods.length < newMethods.length := by omega
      rw [if_pos ⟨hj, hsecond⟩]
      simp [hin]
    · rw [if_neg (fun h => hsecond h.2), List.getElem?_eq_none (by simp; omega),
        List.getElem?_eq_none (by simp; omega)]

variable (s hidden) in
/-- What the loop starts with: a list with room for every frame. -/
theorem filtered_zero (frames : List TraceFrame) :
    ∃ list : JObjectList TraceObject,
      (JObjectList.empty.reserve (frames.length + 1)).add
        (some (.pointers (framePointers frames))) = some (list, 0) ∧
          Filtered s hidden frames 0 ⟨[], list⟩ := by
  have hreserved := JObjectList.filled_reserve (α := TraceObject) (Nat.succ_pos frames.length)
  obtain ⟨list, hadd, hfilled⟩ := hreserved.add_of_lt (Nat.succ_pos frames.length)
    (.pointers (framePointers frames))
  exact ⟨list, hadd, ⟨rfl, hfilled⟩⟩

/-- What it ends with is the backtrace of the frames shown, once its
pointers are replaced. -/
theorem Filtered.finalize (h : Filtered s hidden frames i new) :
    (new.backtrace.update 0 (some (.pointers (newPtrArray new.methods)))).finalize.array =
      some (internalBacktrace (shownFrames s hidden frames i)) := by
  rw [(h.backtrace.update (Nat.succ_pos _) _).finalize, h.methods, newPtrArray_eq]
  simp [internalBacktrace, framePointers, Function.comp_def]

/-- What is shown, as a filter and a map. -/
theorem filterMap_shownFrame (s : State) (hidden : Finset ArtMethodPtr)
    (frames : List TraceFrame) : frames.filterMap (shownFrame s hidden) =
      (frames.filter fun frame => frame.method ∉ hidden).map (targetFrame s) := by
  induction frames with
  | nil => rfl
  | cons frame frames ih =>
    by_cases h : frame.method ∈ hidden
    · have hnone : shownFrame s hidden frame = none := if_pos h
      rw [List.filterMap_cons_none hnone, ih, List.filter_cons_of_neg (by simpa using h)]
    · have hsome : shownFrame s hidden frame = some (targetFrame s frame) := if_neg h
      rw [List.filterMap_cons_some hsome, ih, List.filter_cons_of_pos (by simpa using h),
        List.map_cons]

/-- The function gives back the backtrace of the frames shown. -/
theorem nativeFillInStackTrace_eq (s : State) (hidden : Finset ArtMethodPtr)
    (frames : List TraceFrame) :
    nativeFillInStackTrace s hidden (some (internalBacktrace frames)) =
      some (some (internalBacktrace (frames.filterMap (shownFrame s hidden)))) := by
  have hlength : (internalBacktrace frames).length = frames.length + 1 := by
    simp [internalBacktrace]
  have hpointers : (framePointers frames).length / 2 = frames.length := by
    simp [framePointers]
    omega
  rcases Nat.eq_zero_or_pos frames.length with hnil | hpos
  · rw [List.length_eq_zero_iff.1 hnil]
    rfl
  · obtain ⟨list, hadd, hzero⟩ := filtered_zero s hidden frames
    obtain ⟨new, hloop, hfiltered⟩ := filtered_loop hzero (Nat.le_refl frames.length)
    have hall : shownFrames s hidden frames frames.length =
        frames.filterMap (shownFrame s hidden) := by
      rw [shownFrames, List.take_length]
    have hfirst : (internalBacktrace frames).getD 0 none =
        some (.pointers (framePointers frames)) := rfl
    rw [nativeFillInStackTrace, if_neg (by omega)]
    simp only [hfirst, hlength, Nat.add_sub_cancel, hpointers, ne_eq, not_true_eq_false, if_false,
      hadd, hloop, Option.bind_eq_bind, Option.bind_some]
    rw [hfiltered.finalize, hall]
    rfl

/-- **Filtering a stack trace is a filter and a map**: of any backtrace
there remain exactly the frames whose method is not hidden, in order, each
with its own class and dex pc, a backup with its target. The result is a
backtrace again, of one object more than frames and twice as many
pointers. -/
theorem stackTrace_filtered (s : State) (hidden : Finset ArtMethodPtr)
    (frames : List TraceFrame) :
    let kept := (frames.filter fun frame => frame.method ∉ hidden).map (targetFrame s)
    nativeFillInStackTrace s hidden (some (internalBacktrace frames)) =
        some (some (internalBacktrace kept)) ∧
      (internalBacktrace kept).length = kept.length + 1 ∧
      ∃ pointers, (internalBacktrace kept)[0]? = some (some (.pointers pointers)) ∧
        pointers.length = 2 * kept.length := by
  intro kept
  refine ⟨?_, ?_, _, rfl, ?_⟩
  · rw [nativeFillInStackTrace_eq, filterMap_shownFrame]
  · simp [internalBacktrace]
  · simp [framePointers, Nat.two_mul]

end LSPlant
