import LSPlant.Library.Custody
import LSPlant.Library.Machine
import Mathlib.Data.Finset.Basic
/-!
# Local references

The wrapper that almost every JNI function of `jni_helper.hpp` returns. It
deletes the reference it has when it is reset, assigned to or destroyed, and a
move leaves its source empty. A reference belongs to the environment of one
thread, and moves between wrappers with it.
-/

namespace LSPlant

namespace JObject

/-! ## The code -/

/-- **A local reference**, in the table of the environment it belongs to. -/
structure Reference where
  env : ℕ
  handle : ℕ
deriving DecidableEq

/-- **The tables**, and whether `DeleteLocalRef` was ever given what is in none
of them. -/
structure References where
  live : Finset Reference
  wild : Bool

/-- `DeleteLocalRef` -/
def References.deleteLocalRef (jni : References) (env handle : ℕ) : References where
  live := jni.live.erase ⟨env, handle⟩
  wild := jni.wild || decide (⟨env, handle⟩ ∉ jni.live)

/-- A function of JNI returns a new reference, or null. -/
def References.add (jni : References) (env : ℕ) : Option ℕ → References
  | none => jni
  | some handle => { jni with live := insert ⟨env, handle⟩ jni.live }

/-- **`ScopedLocalRef`** -/
structure ScopedLocalRef where
  env : ℕ
  localRef : Option ℕ

namespace ScopedLocalRef

variable (r : ScopedLocalRef) (jni : References)

/-- What `reset` does with the reference there is. -/
def deleteRef : References :=
  match r.localRef with
  | some handle => jni.deleteLocalRef r.env handle
  | none => jni

/-- **`reset`** -/
def reset (ptr : Option ℕ) : ScopedLocalRef × References :=
  if ptr ≠ r.localRef then ({ r with localRef := ptr }, r.deleteRef jni) else (r, jni)

/-- **`release`** -/
def release : ScopedLocalRef × Option ℕ := ({ r with localRef := none }, r.localRef)

/-- The constructor. -/
def construct (env : ℕ) (jni : References) (localRef : Option ℕ) : ScopedLocalRef × References :=
  reset ⟨env, none⟩ jni localRef

/-- The reference a wrapper has, in its environment. -/
def reference : Option Reference := r.localRef.map (⟨r.env, ·⟩)

end ScopedLocalRef

/-- **A program that uses wrappers**: those alive, and the references it has in
its own hands. -/
structure Program where
  jni : References
  wrappers : ℕ → Option ScopedLocalRef
  raw : Finset Reference

/-- **What it may do.** -/
inductive Op where
  | call (env : ℕ) (result : Option ℕ)
  | deleteLocalRef (env handle : ℕ)
  | construct (w env : ℕ) (localRef : Option ℕ)
  | moveConstruct (w source : ℕ)
  | reset (w : ℕ) (ptr : Option ℕ)
  | release (w : ℕ)
  | clone (w source : ℕ) (result : Option ℕ)
  | moveAssign (w source : ℕ)
  | destroy (w : ℕ)

namespace Program

variable (p : Program)

/-- A program that has no references yet. -/
def start : Program := ⟨⟨∅, false⟩, fun _ => none, ∅⟩

/-- A wrapper with new fields. -/
def setWrapper (w : ℕ) (r : Option ScopedLocalRef) (jni : References) : Program :=
  { p with jni := jni, wrappers := Function.update p.wrappers w r }

/-- A reference goes into a wrapper. -/
def handIn (env : ℕ) : Option ℕ → Program
  | none => p
  | some handle => { p with raw := p.raw.erase ⟨env, handle⟩ }

/-- One comes out of a wrapper. -/
def handOut (env : ℕ) : Option ℕ → Program
  | none => p
  | some handle => { p with raw := insert ⟨env, handle⟩ p.raw }

/-- **One operation.** One that cannot happen, on a wrapper that is not alive
or to one that is already, does nothing. -/
def step : Op → Program
  | .call env result =>
    ({ p with jni := p.jni.add env result } : Program).handOut env result
  | .deleteLocalRef env handle =>
    { p with jni := p.jni.deleteLocalRef env handle, raw := p.raw.erase ⟨env, handle⟩ }
  | .construct w env localRef =>
    match p.wrappers w with
    | some _ => p
    | none =>
      let (r, jni) := ScopedLocalRef.construct env p.jni localRef
      (p.handIn env localRef).setWrapper w (some r) jni
  | .moveConstruct w source =>
    match p.wrappers w, p.wrappers source with
    | none, some s =>
      let (s', localRef) := s.release
      let (r, jni) := ScopedLocalRef.construct s.env p.jni localRef
      (p.setWrapper source (some s') p.jni).setWrapper w (some r) jni
    | _, _ => p
  | .reset w ptr =>
    match p.wrappers w with
    | none => p
    | some r =>
      let (r', jni) := r.reset p.jni ptr
      (p.handIn r.env ptr).setWrapper w (some r') jni
  | .release w =>
    match p.wrappers w with
    | none => p
    | some r =>
      let (r', localRef) := r.release
      (p.handOut r.env localRef).setWrapper w (some r') p.jni
  | .clone w source result =>
    match p.wrappers w, p.wrappers source with
    | none, some s =>
      -- `NewLocalRef` of null is null
      let localRef := s.localRef.bind fun _ => result
      let (r, jni) := ScopedLocalRef.construct s.env (p.jni.add s.env localRef) localRef
      p.setWrapper w (some r) jni
    | _, _ => p
  | .moveAssign w source =>
    match p.wrappers w, p.wrappers source with
    | some r, some s =>
      let (s', localRef) := s.release
      let p := p.setWrapper source (some s') p.jni
      -- a wrapper that is assigned to itself is empty by now
      let (r', jni) := (if w = source then s' else r).reset p.jni localRef
      p.setWrapper w (some { r' with env := s.env }) jni
    | _, _ => p
  | .destroy w =>
    match p.wrappers w with
    | none => p
    | some r => p.setWrapper w none (r.reset p.jni none).2

/-- The reference a wrapper has. -/
def heldBy (w : ℕ) : Option Reference := (p.wrappers w).bind ScopedLocalRef.reference

/-- **What a program may do**: JNI returns references that are not in use, and
what a program deletes or gives to a wrapper is in its own hands. A wrapper
may be given the reference it has. -/
def Admissible : Op → Prop
  | .call env result => ∀ handle ∈ result, ⟨env, handle⟩ ∉ p.jni.live
  | .deleteLocalRef env handle => ⟨env, handle⟩ ∈ p.raw
  | .construct _ env localRef => ∀ handle ∈ localRef, ⟨env, handle⟩ ∈ p.raw
  | .reset w ptr => ∀ r ∈ p.wrappers w, ptr = r.localRef ∨ ∀ handle ∈ ptr, ⟨r.env, handle⟩ ∈ p.raw
  | .clone _ source result =>
    ∀ s ∈ p.wrappers source, ∀ handle ∈ result, ⟨s.env, handle⟩ ∉ p.jni.live
  | _ => True

end Program

/-- **The machine.** -/
def program : Machine Program Op where
  step := Program.step
  admissible := Program.Admissible

instance (p : Program) : ∀ op, Decidable (p.Admissible op)
  | .call env result => inferInstanceAs (Decidable (∀ handle ∈ result, ⟨env, handle⟩ ∉ p.jni.live))
  | .deleteLocalRef env handle => inferInstanceAs (Decidable (⟨env, handle⟩ ∈ p.raw))
  | .construct _ env localRef =>
    inferInstanceAs (Decidable (∀ handle ∈ localRef, ⟨env, handle⟩ ∈ p.raw))
  | .reset w ptr => inferInstanceAs (Decidable (∀ r ∈ p.wrappers w,
      ptr = r.localRef ∨ ∀ handle ∈ ptr, ⟨r.env, handle⟩ ∈ p.raw))
  | .clone _ source result => inferInstanceAs (Decidable (∀ s ∈ p.wrappers source,
      ∀ handle ∈ result, ⟨s.env, handle⟩ ∉ p.jni.live))
  | .moveConstruct _ _ | .release _ | .moveAssign _ _ | .destroy _ => isTrue trivial

instance (p : Program) (op : Op) : Decidable (program.admissible p op) :=
  inferInstanceAs (Decidable (p.Admissible op))

/-! ## Nothing is lost -/

/-- **Every reference is in one place**: nothing was deleted that was not there,
what is in the program's hands or in a wrapper is there, what is there is in
either, and no reference is in two places. -/
structure Program.IsKept (p : Program) : Prop where
  tame : p.jni.wild = false
  raw : p.raw ⊆ p.jni.live
  held : ∀ w a, p.heldBy w = some a → a ∈ p.jni.live ∧ a ∉ p.raw
  unique : ∀ w w' a, p.heldBy w = some a → p.heldBy w' = some a → w = w'
  covered : ∀ a ∈ p.jni.live, a ∈ p.raw ∨ ∃ w, p.heldBy w = some a

/-- **A wrapper is assigned one of another environment** whose reference happens
to have the handle of its own. -/
def Program.Collides (p : Program) : Op → Prop
  | .moveAssign w source =>
    ∃ r ∈ p.wrappers w, ∃ s ∈ p.wrappers source,
      r.localRef.isSome ∧ r.localRef = s.localRef ∧ r.env ≠ s.env
  | _ => False

instance (p : Program) : ∀ op, Decidable (p.Collides op)
  | .moveAssign w source => inferInstanceAs (Decidable (∃ r ∈ p.wrappers w,
      ∃ s ∈ p.wrappers source, r.localRef.isSome ∧ r.localRef = s.localRef ∧ r.env ≠ s.env))
  | .call _ _ | .deleteLocalRef _ _ | .construct _ _ _ | .moveConstruct _ _ | .reset _ _
  | .release _ | .clone _ _ _ | .destroy _ => isFalse id

variable {p : Program} {w source env : ℕ} {r s : ScopedLocalRef} {ptr : Option ℕ}
  {jni : References} {ro : Option ScopedLocalRef} {op : Op} {ops : List Op}

theorem isKept_iff : p.IsKept ↔ p.jni.wild = false ∧
    ∃ k, Keeps k (p.jni.live : Set Reference) (p.raw : Set Reference) p.heldBy := by
  rw [exists_keeps_iff]
  constructor
  · rintro ⟨htame, hraw, hheld, hunique, hcovered⟩
    exact ⟨htame, hraw, hheld, hunique, hcovered⟩
  · rintro ⟨htame, hraw, hheld, hunique, hcovered⟩
    exact ⟨htame, hraw, hheld, hunique, hcovered⟩

namespace Program

theorem heldBy_setWrapper : (p.setWrapper w ro jni).heldBy =
    Function.update p.heldBy w (ro.bind ScopedLocalRef.reference) := by
  funext w'
  unfold heldBy setWrapper
  dsimp only
  rw [Function.update_apply, Function.update_apply]
  split <;> rfl

theorem heldBy_of_wrapper (hw : p.wrappers w = some r) : p.heldBy w = r.reference := by
  rw [heldBy, hw]
  rfl

theorem coe_handIn : ((p.handIn env ptr).raw : Set Reference) =
    (p.raw : Set Reference) \ {a | ptr.map (⟨env, ·⟩ : ℕ → Reference) = some a} := by
  cases ptr with
  | none => simp [handIn]
  | some handle => simp [handIn]

theorem coe_handOut : ((p.handOut env ptr).raw : Set Reference) =
    (p.raw : Set Reference) ∪ {a | ptr.map (⟨env, ·⟩ : ℕ → Reference) = some a} := by
  cases ptr with
  | none => simp [handOut]
  | some handle => simp [handOut]

@[simp] theorem heldBy_handIn : (p.handIn env ptr).heldBy = p.heldBy := by
  cases ptr <;> rfl

@[simp] theorem heldBy_handOut : (p.handOut env ptr).heldBy = p.heldBy := by
  cases ptr <;> rfl

theorem raw_handIn_congr {q : Program} (h : q.raw = p.raw) :
    (q.handIn env ptr).raw = (p.handIn env ptr).raw := by
  cases ptr with
  | none => exact h
  | some handle => exact congrArg (·.erase ⟨env, handle⟩) h

theorem mem_raw_handOut : ∀ handle ∈ ptr, ⟨env, handle⟩ ∈ (p.handOut env ptr).raw := by
  rintro handle hhandle
  rw [Option.mem_def.1 hhandle]
  exact Finset.mem_insert_self _ _

@[simp] theorem jni_handOut : (p.handOut env ptr).jni = p.jni := by
  cases ptr <;> rfl

@[simp] theorem wrappers_handOut : (p.handOut env ptr).wrappers = p.wrappers := by
  cases ptr <;> rfl

/-- What is put down and picked up again. -/
theorem raw_handIn_handOut (h : ∀ handle ∈ ptr, ⟨env, handle⟩ ∉ p.raw) :
    ((p.handOut env ptr).handIn env ptr).raw = p.raw := by
  cases ptr with
  | none => rfl
  | some handle => exact Finset.erase_insert (h handle rfl)

end Program

namespace ScopedLocalRef

theorem construct_eq (env : ℕ) (jni : References) (ptr : Option ℕ) :
    construct env jni ptr = (⟨env, ptr⟩, jni) := by
  unfold construct reset
  split
  · rfl
  · rename_i hnot
    rw [not_not.1 hnot]

theorem reset_none_snd (r : ScopedLocalRef) (jni : References) :
    (r.reset jni none).2 = r.deleteRef jni := by
  unfold reset
  split
  · rfl
  · rename_i hnot
    rw [deleteRef, ← not_not.1 hnot]

theorem coe_deleteRef (r : ScopedLocalRef) (jni : References) :
    ((r.deleteRef jni).live : Set Reference) =
      (jni.live : Set Reference) \ {a | r.reference = some a} := by
  unfold deleteRef reference
  cases r.localRef with
  | none => simp
  | some handle => simp [References.deleteLocalRef]

end ScopedLocalRef

namespace Program.IsKept

theorem congr (h : p.IsKept) {q : Program} (hjni : q.jni = p.jni) (hraw : q.raw = p.raw)
    (hheld : q.heldBy = p.heldBy) : q.IsKept := by
  rw [isKept_iff] at h ⊢
  rw [hjni, hraw, hheld]
  exact h

/-- A wrapper deletes what it has, and nothing else. -/
theorem tame_deleteRef (h : p.IsKept) (hw : p.wrappers w = some r) :
    (r.deleteRef p.jni).wild = false := by
  unfold ScopedLocalRef.deleteRef
  split
  · rename_i handle hhandle
    have hheld : p.heldBy w = some ⟨r.env, handle⟩ := by
      rw [heldBy_of_wrapper hw, ScopedLocalRef.reference, hhandle]
      rfl
    simp [References.deleteLocalRef, h.tame, (h.held w _ hheld).1]
  · exact h.tame

theorem fill (h : p.IsKept) (hw : p.wrappers w = none)
    (hptr : ∀ handle ∈ ptr, ⟨env, handle⟩ ∈ p.raw) :
    ((p.handIn env ptr).setWrapper w (some ⟨env, ptr⟩) p.jni).IsKept := by
  obtain ⟨htame, k, hk⟩ := isKept_iff.1 h
  have hnone : p.heldBy w = none := by rw [heldBy, hw]; rfl
  have hto : ∀ a ∈ ptr.map (⟨env, ·⟩ : ℕ → Reference), a ∈ (p.raw : Set Reference) := by
    intro a ha
    obtain ⟨handle, hhandle, rfl⟩ := Option.map_eq_some_iff.1 ha
    exact hptr handle hhandle
  refine isKept_iff.2 ⟨htame, ?_⟩
  rw [heldBy_setWrapper, heldBy_handIn]
  show ∃ k, Keeps k _ ((p.handIn env ptr).raw : Set Reference) _
  rw [coe_handIn]
  exact hk.takeAny hnone hto

theorem release (h : p.IsKept) (hw : p.wrappers w = some r) :
    ((p.handOut r.env r.localRef).setWrapper w (some { r with localRef := none }) p.jni).IsKept := by
  obtain ⟨htame, k, hk⟩ := isKept_iff.1 h
  have hgive := hk.giveAny w
  rw [heldBy_of_wrapper hw] at hgive
  refine isKept_iff.2 ⟨htame, ?_⟩
  rw [heldBy_setWrapper, heldBy_handOut]
  show ∃ k, Keeps k _ ((p.handOut r.env r.localRef).raw : Set Reference) _
  rw [coe_handOut]
  exact hgive

theorem destroy (h : p.IsKept) (hw : p.wrappers w = some r) :
    (p.setWrapper w none (r.deleteRef p.jni)).IsKept := by
  obtain ⟨-, k, hk⟩ := isKept_iff.1 h
  have hdrop := hk.dropAny w
  rw [heldBy_of_wrapper hw] at hdrop
  refine isKept_iff.2 ⟨h.tame_deleteRef hw, ?_⟩
  rw [heldBy_setWrapper]
  show ∃ k, Keeps k ((r.deleteRef p.jni).live : Set Reference) _ _
  rw [ScopedLocalRef.coe_deleteRef]
  exact hdrop

/-- **A wrapper deletes what it has and takes something else.** -/
theorem replace (h : p.IsKept) (hw : p.wrappers w = some r)
    (hptr : ∀ handle ∈ ptr, ⟨env, handle⟩ ∈ p.raw) :
    ((p.handIn env ptr).setWrapper w (some ⟨env, ptr⟩) (r.deleteRef p.jni)).IsKept := by
  have hnone : (p.setWrapper w none (r.deleteRef p.jni)).wrappers w = none :=
    Function.update_self ..
  have hfilled := (h.destroy hw).fill hnone hptr
  refine hfilled.congr rfl ?_ ?_
  · cases ptr <;> rfl
  · simp only [heldBy_setWrapper, heldBy_handIn, Function.update_idem]

theorem call (h : p.IsKept) (hfresh : ∀ handle ∈ ptr, ⟨env, handle⟩ ∉ p.jni.live) :
    (({ p with jni := p.jni.add env ptr } : Program).handOut env ptr).IsKept := by
  cases ptr with
  | none => exact h
  | some handle =>
    obtain ⟨htame, k, hk⟩ := isKept_iff.1 h
    have hnew := hk.acquire (hfresh handle rfl)
    rw [← Finset.coe_insert, ← Finset.coe_insert] at hnew
    exact isKept_iff.2 ⟨htame, _, hnew⟩

theorem deleteLocalRef {handle : ℕ} (h : p.IsKept) (hraw : ⟨env, handle⟩ ∈ p.raw) :
    IsKept { p with jni := p.jni.deleteLocalRef env handle, raw := p.raw.erase ⟨env, handle⟩ } := by
  obtain ⟨htame, k, hk⟩ := isKept_iff.1 h
  have hgone := hk.discard hraw
  rw [← Finset.coe_erase, ← Finset.coe_erase] at hgone
  refine isKept_iff.2 ⟨?_, _, hgone⟩
  simp [References.deleteLocalRef, htame, h.raw hraw]

/-- What a wrapper has is not in the program's hands. -/
theorem not_mem_raw (h : p.IsKept) (hw : p.wrappers w = some r) :
    ∀ handle ∈ r.localRef, ⟨r.env, handle⟩ ∉ p.raw := by
  intro handle hhandle
  refine (h.held w _ ?_).2
  rw [heldBy_of_wrapper hw, ScopedLocalRef.reference, hhandle]
  rfl

theorem reset (h : p.IsKept) (hw : p.wrappers w = some r)
    (hptr : ptr = r.localRef ∨ ∀ handle ∈ ptr, ⟨r.env, handle⟩ ∈ p.raw) :
    ((p.handIn r.env ptr).setWrapper w (some (r.reset p.jni ptr).1) (r.reset p.jni ptr).2).IsKept := by
  unfold ScopedLocalRef.reset
  by_cases hne : ptr ≠ r.localRef
  · rw [if_pos hne]
    exact h.replace hw (hptr.resolve_left hne)
  · rw [if_neg hne]
    have heq := not_not.1 hne
    subst ptr
    refine h.congr rfl ?_ ?_
    · have hnot := h.not_mem_raw hw
      show (p.handIn r.env r.localRef).raw = p.raw
      unfold handIn
      cases hr : r.localRef with
      | none => rfl
      | some handle => exact Finset.erase_eq_of_notMem (hnot handle hr)
    · rw [heldBy_setWrapper, heldBy_handIn, Option.bind_some, ← heldBy_of_wrapper hw,
        Function.update_eq_self]

/-- **A reference goes from a wrapper to the program and into another wrapper**,
which deletes what it had. -/
theorem move (h : p.IsKept) (hs : p.wrappers source = some s) (hne : w ≠ source)
    (hkept : ∀ q : Program, q.IsKept → q.wrappers w = p.wrappers w → q.jni = p.jni →
      (∀ handle ∈ s.localRef, ⟨s.env, handle⟩ ∈ q.raw) →
      ((q.handIn s.env s.localRef).setWrapper w (some ⟨s.env, s.localRef⟩) jni).IsKept) :
    ((p.setWrapper source (some { s with localRef := none }) p.jni).setWrapper w
      (some ⟨s.env, s.localRef⟩) jni).IsKept := by
  let q := (p.handOut s.env s.localRef).setWrapper source (some { s with localRef := none }) p.jni
  have hqw : q.wrappers w = p.wrappers w := by
    show Function.update (p.handOut s.env s.localRef).wrappers source _ w = _
    rw [Function.update_of_ne hne, wrappers_handOut]
  refine (hkept q (h.release hs) hqw rfl mem_raw_handOut).congr rfl ?_ ?_
  · exact (raw_handIn_handOut (h.not_mem_raw hs)).symm.trans (raw_handIn_congr (p := q) rfl)
  · simp only [q, heldBy_setWrapper, heldBy_handIn, heldBy_handOut]

theorem moveConstruct (h : p.IsKept) (hw : p.wrappers w = none)
    (hs : p.wrappers source = some s) :
    ((p.setWrapper source (some { s with localRef := none }) p.jni).setWrapper w
      (some ⟨s.env, s.localRef⟩) p.jni).IsKept := by
  refine h.move hs ?_ fun q hq hqw hqjni hraw => ?_
  · rintro rfl
    rw [hw] at hs
    cases hs
  · rw [← hqjni]
    exact hq.fill (hqw.trans hw) hraw

theorem clone (h : p.IsKept) (hw : p.wrappers w = none)
    (hfresh : ∀ handle ∈ ptr, ⟨env, handle⟩ ∉ p.jni.live) :
    (p.setWrapper w (some ⟨env, ptr⟩) (p.jni.add env ptr)).IsKept := by
  let q : Program := { p with jni := p.jni.add env ptr }
  have hfilled := (h.call hfresh).fill (w := w) (by rw [wrappers_handOut]; exact hw) mem_raw_handOut
  refine hfilled.congr ?_ ?_ ?_
  · exact (jni_handOut (p := q)).symm
  · refine (raw_handIn_handOut (p := q) fun handle hhandle hraw => ?_).symm
    exact hfresh handle hhandle (h.raw hraw)
  · simp only [heldBy_setWrapper, heldBy_handIn, heldBy_handOut]
    rfl

/-- A move assignment, where the wrapper deletes what it has. -/
theorem moveAssign (h : p.IsKept) (hw : p.wrappers w = some r) (hs : p.wrappers source = some s)
    (hne : w ≠ source) :
    ((p.setWrapper source (some { s with localRef := none }) p.jni).setWrapper w
      (some ⟨s.env, s.localRef⟩) (r.deleteRef p.jni)).IsKept := by
  refine h.move hs hne fun q hq hqw hqjni hraw => ?_
  rw [← hqjni]
  exact hq.replace (hqw.trans hw) hraw

/-- One to the wrapper itself. -/
theorem moveAssign_self (h : p.IsKept) (hs : p.wrappers w = some s) :
    ((p.setWrapper w (some { s with localRef := none }) p.jni).setWrapper w
      (some ⟨s.env, s.localRef⟩) p.jni).IsKept := by
  refine h.congr rfl rfl ?_
  rw [heldBy_setWrapper, heldBy_setWrapper, Function.update_idem]
  exact (congrArg _ (heldBy_of_wrapper hs).symm).trans (Function.update_eq_self w p.heldBy)

end Program.IsKept

/-- **What a wrapper forgets**: assigned a reference with the handle of its own,
it keeps quiet about the one it had. -/
theorem not_isKept_of_collides (h : p.IsKept) (hw : p.wrappers w = some r)
    (hsome : r.localRef.isSome) (henv : r.env ≠ s.env) :
    ¬ ((p.setWrapper source (some { s with localRef := none }) p.jni).setWrapper w
      (some ⟨s.env, s.localRef⟩) p.jni).IsKept := by
  intro hkept
  obtain ⟨handle, hhandle⟩ := Option.isSome_iff_exists.1 hsome
  have hheld : p.heldBy w = some ⟨r.env, handle⟩ := by
    rw [Program.heldBy_of_wrapper hw, ScopedLocalRef.reference, hhandle]
    rfl
  obtain ⟨hlive, hraw⟩ := h.held w _ hheld
  rcases hkept.covered _ hlive with hin | ⟨w', hw'⟩
  · exact hraw hin
  · rw [Program.heldBy_setWrapper, Program.heldBy_setWrapper, Function.update_apply,
      Function.update_apply] at hw'
    split at hw'
    · -- the wrapper has the other reference now
      obtain ⟨_, -, href⟩ := Option.map_eq_some_iff.1 hw'
      exact henv (congrArg Reference.env href).symm
    · rename_i hne
      split at hw'
      · cases hw'
      · exact hne (h.unique w' w _ hw' hheld)

/-- **A move assignment.** -/
theorem isKept_moveAssign_iff (h : p.IsKept) (hw : p.wrappers w = some r)
    (hs : p.wrappers source = some s) :
    let t := (if w = source then { s with localRef := none } else r).reset p.jni s.localRef
    ((p.setWrapper source (some { s with localRef := none }) p.jni).setWrapper w
        (some { t.1 with env := s.env }) t.2).IsKept ↔ ¬ p.Collides (.moveAssign w source) := by
  intro t
  have hcollides : p.Collides (.moveAssign w source) ↔
      r.localRef.isSome ∧ r.localRef = s.localRef ∧ r.env ≠ s.env := by
    simp [Program.Collides, hw, hs]
  rw [hcollides]
  by_cases hself : w = source
  · subst source
    obtain rfl : r = s := Option.some.inj (hw.symm.trans hs)
    have ht : t = (⟨r.env, r.localRef⟩, p.jni) := by
      show (if w = w then _ else _ : ScopedLocalRef).reset p.jni r.localRef = _
      rw [if_pos rfl]
      exact ScopedLocalRef.construct_eq r.env p.jni r.localRef
    rw [ht]
    exact iff_of_true (h.moveAssign_self hw) fun hne => hne.2.2 rfl
  have ht : t = r.reset p.jni s.localRef := by
    show (if w = source then _ else _ : ScopedLocalRef).reset p.jni s.localRef = _
    rw [if_neg hself]
  rw [ht]
  unfold ScopedLocalRef.reset
  by_cases hsame : s.localRef ≠ r.localRef
  · rw [if_pos hsame]
    exact iff_of_true (h.moveAssign hw hs hself) fun hne => hsame hne.2.1.symm
  rw [if_neg hsame]
  have heq : r.localRef = s.localRef := (not_not.1 hsame).symm
  show ((p.setWrapper source _ p.jni).setWrapper w (some ⟨s.env, r.localRef⟩) p.jni).IsKept ↔ _
  rw [heq]
  cases hsome : s.localRef with
  | none =>
    have hdelete : r.deleteRef p.jni = p.jni := by rw [ScopedLocalRef.deleteRef, heq, hsome]
    have hkept := h.moveAssign hw hs hself
    rw [hdelete, hsome] at hkept
    exact iff_of_true hkept fun hne => nomatch hne.1
  | some handle =>
    by_cases henv : r.env = s.env
    · -- two wrappers with one reference
      have hheld : p.heldBy w = some ⟨s.env, handle⟩ := by
        rw [Program.heldBy_of_wrapper hw, ScopedLocalRef.reference, heq, hsome, henv]
        rfl
      have hheld' : p.heldBy source = some ⟨s.env, handle⟩ := by
        rw [Program.heldBy_of_wrapper hs, ScopedLocalRef.reference, hsome]
        rfl
      exact absurd (h.unique w source _ hheld hheld') hself
    · rw [← hsome]
      have hsome' : r.localRef.isSome := by rw [heq, hsome]; rfl
      exact iff_of_false (not_isKept_of_collides h hw hsome' henv) fun hne => hne ⟨by rw [hsome]; rfl, rfl, henv⟩

theorem isKept_step_iff (h : p.IsKept) (hlegal : p.Admissible op) :
    (p.step op).IsKept ↔ ¬ p.Collides op := by
  cases op with
  | call env result => exact iff_of_true (h.call hlegal) id
  | deleteLocalRef env handle => exact iff_of_true (h.deleteLocalRef hlegal) id
  | construct w env localRef =>
    refine iff_of_true ?_ id
    cases hw : p.wrappers w with
    | some r =>
      simp only [Program.step, hw]
      exact h
    | none =>
      simp only [Program.step, hw, ScopedLocalRef.construct_eq]
      exact h.fill hw hlegal
  | moveConstruct w source =>
    refine iff_of_true ?_ id
    cases hw : p.wrappers w with
    | some r =>
      simp only [Program.step, hw]
      exact h
    | none =>
      cases hs : p.wrappers source with
      | none =>
        simp only [Program.step, hw, hs]
        exact h
      | some s =>
        simp only [Program.step, hw, hs, ScopedLocalRef.release, ScopedLocalRef.construct_eq]
        exact h.moveConstruct hw hs
  | reset w ptr =>
    refine iff_of_true ?_ id
    cases hw : p.wrappers w with
    | none =>
      simp only [Program.step, hw]
      exact h
    | some r =>
      simp only [Program.step, hw]
      exact h.reset hw (hlegal r hw)
  | release w =>
    refine iff_of_true ?_ id
    cases hw : p.wrappers w with
    | none =>
      simp only [Program.step, hw]
      exact h
    | some r =>
      simp only [Program.step, hw, ScopedLocalRef.release]
      exact h.release hw
  | clone w source result =>
    refine iff_of_true ?_ id
    cases hw : p.wrappers w with
    | some r =>
      simp only [Program.step, hw]
      exact h
    | none =>
      cases hs : p.wrappers source with
      | none =>
        simp only [Program.step, hw, hs]
        exact h
      | some s =>
        simp only [Program.step, hw, hs, ScopedLocalRef.construct_eq]
        refine h.clone hw fun handle hhandle => hlegal s hs handle ?_
        obtain ⟨-, -, hresult⟩ := Option.bind_eq_some_iff.1 hhandle
        exact hresult
  | moveAssign w source =>
    cases hw : p.wrappers w with
    | none =>
      simp only [Program.step, hw]
      refine iff_of_true h ?_
      rintro ⟨r, hr, -⟩
      rw [hw] at hr
      cases hr
    | some r =>
      cases hs : p.wrappers source with
      | none =>
        simp only [Program.step, hw, hs]
        refine iff_of_true h ?_
        rintro ⟨-, -, s, hs', -⟩
        rw [hs] at hs'
        cases hs'
      | some s =>
        simp only [Program.step, hw, hs, ScopedLocalRef.release]
        exact isKept_moveAssign_iff h hw hs
  | destroy w =>
    refine iff_of_true ?_ id
    cases hw : p.wrappers w with
    | none =>
      simp only [Program.step, hw]
      exact h
    | some r =>
      simp only [Program.step, hw, ScopedLocalRef.reset_none_snd]
      exact h.destroy hw

theorem isKept_start : Program.start.IsKept where
  tame := rfl
  raw := Finset.Subset.refl _
  held _ _ hheld := nomatch hheld
  unique _ _ _ hheld := nomatch hheld
  covered a ha := absurd ha (Finset.notMem_empty a)

/-- **No reference is lost and none is deleted twice** in any state of a program
that uses wrappers, if and only if it never assigns to a wrapper one of
another environment whose reference has the same handle. -/
theorem everywhere_isKept_iff (hL : program.Legal .start ops) :
    program.Everywhere Program.IsKept .start ops ↔
      program.EachStep (fun p op => ¬ p.Collides op) .start ops :=
  Machine.everywhere_iff_eachStep (Q := fun _ => True) (fun _ _ _ _ => trivial)
    (fun _ _ _ hlegal h => isKept_step_iff h hlegal) trivial isKept_start hL

/-- A run it is about: the reference 10 is deleted by an assignment, and used
again for a clone, which comes back to the program. -/
theorem everywhere_isKept_sample :
    program.Everywhere Program.IsKept .start
      [.call 1 (some 10), .construct 0 1 (some 10), .call 1 (some 11), .construct 1 1 (some 11),
        .moveAssign 0 1, .clone 2 0 (some 10), .moveAssign 2 2, .moveConstruct 3 2, .release 3,
        .reset 0 none, .destroy 0] :=
  (everywhere_isKept_iff (by decide)).2 (by decide)

/-- Two threads' references with one handle. -/
example : ¬ program.EachStep (fun p op => ¬ p.Collides op) .start
    [.call 1 (some 10), .construct 0 1 (some 10), .call 2 (some 10), .construct 1 2 (some 10),
      .moveAssign 0 1] := by
  decide

end JObject

end LSPlant
