import LSPlant.Coherence
import LSPlant.Library.Script
import LSPlant.StackTrace
/-!
# Walks over the stack

`HandleVisitFrame` and `HandleGetDexPc`, which LSPlant has in place of the
`VisitFrame` of several visitors of ART's and of `StackVisitor::GetDexPc`.
A visitor is a script that asks for the method of its frame and for its dex
pc, and in the end says whether to go on. While one visits the frame of a
backup, `current_method_` tells `GetDexPc` so, which makes the frame one of
the target then. Other threads walk their own stacks in the meantime.
-/

namespace LSPlant

/-! ## The code -/

/-- **A frame**: its method, and what ART's `GetDexPc` would return for it with
each method, asked to abort on failure or not. -/
structure StackFrame where
  method : Option ArtMethodPtr
  getDexPc : Option ArtMethodPtr → Bool → ℕ

/-- What it returns. -/
def StackFrame.dexPc (frame : StackFrame) (abortOnFailure : Bool) : ℕ :=
  frame.getDexPc frame.method abortOnFailure

/-- What a visitor asks of its frame. -/
inductive FrameQuestion where
  | getMethod
  | getDexPc (abortOnFailure : Bool)

/-- And what is answered. -/
abbrev FrameQuestion.Answer : FrameQuestion → Type
  | getMethod => Option ArtMethodPtr
  | getDexPc _ => ℕ

/-- **ART's `VisitFrame`**, by what the visitor has seen so far. -/
abbrev Visitor (α : Type) := α → Script FrameQuestion FrameQuestion.Answer (α × Bool)

/-- `current_method_`. -/
abbrev CurrentMethods := Table ThreadPtr (ArtMethodPtr × ArtMethodPtr)

/-- **What a walk moves on the way**: the frame it is at and `current_method_`.
The clock counts how often others have had their turn. -/
structure WalkState where
  frame : StackFrame
  currentMethod : CurrentMethods
  clock : ℕ

/-- **What other threads do to `current_method_`**: in each of their turns they
make or erase entries. -/
abbrev Interference := ℕ → List (ThreadPtr × Option (ArtMethodPtr × ArtMethodPtr))

/-- They walk stacks as this one does, and each has an entry of its own. -/
def Interference.Spares (others : Interference) (self : ThreadPtr) : Prop :=
  ∀ clock, ∀ move ∈ others clock, move.1 ≠ self

/-- An entry made or erased. -/
def CurrentMethods.move (table : CurrentMethods)
    (move : ThreadPtr × Option (ArtMethodPtr × ArtMethodPtr)) : CurrentMethods :=
  match move.2 with
  | some entry => table.insert move.1 entry
  | none => table.erase move.1

/-- Others have their turn. -/
def WalkState.yield (others : Interference) (w : WalkState) : WalkState :=
  { w with
    currentMethod := (others w.clock).foldl CurrentMethods.move w.currentMethod
    clock := w.clock + 1 }

/-- `SetMethod`, where ART has it. -/
def WalkState.setMethod (w : WalkState) (hasSetMethod : Bool) (method : ArtMethodPtr) :
    WalkState :=
  if hasSetMethod then { w with frame := { w.frame with method := some method } } else w

section Code

variable (s : State) (hidden : Finset ArtMethodPtr) (hasSetMethod : Bool) (self : ThreadPtr)
  (others : Interference) {α : Type} (visitor : Visitor α)

/-- **`HandleGetDexPc`.** -/
def handleGetDexPc (w : WalkState) (abortOnFailure : Bool) : ℕ × WalkState :=
  if w.currentMethod.IsEmpty then (w.frame.dexPc abortOnFailure, w)
  else match w.currentMethod.lookup self with
    | none => (w.frame.dexPc abortOnFailure, w)
    | some (target, backupMethod) =>
      if some backupMethod ≠ w.frame.method then (w.frame.dexPc abortOnFailure, w)
      else if (s.heap backupMethod).isNative then (kNativeMethodDexPc, w)
      else (w.frame.dexPc false, w.setMethod hasSetMethod target)

/-- **The environment of a visitor**: others have their turn before each
question. -/
def visitFrameEnv : Script.Environment FrameQuestion.Answer WalkState
  | .getMethod, w => (w.frame.method, w.yield others)
  | .getDexPc abortOnFailure, w =>
    handleGetDexPc s hasSetMethod self (w.yield others) abortOnFailure

/-- ART's own `VisitFrame`, where it is called from. -/
def runVisitor (seen : α) (w : WalkState) : (α × Bool) × WalkState :=
  (visitor seen).run (visitFrameEnv s hasSetMethod self others) w

/-- **`HandleVisitFrame`.** -/
def handleVisitFrame (seen : α) (w : WalkState) : (α × Bool) × WalkState :=
  let backup := runVisitor s hasSetMethod self others visitor seen
  if hidden = ∅ then backup w
  else match w.frame.method with
    | none => backup w
    | some method =>
      if method ∈ hidden then ((seen, true), w)
      else if !hasSetMethod then backup w
      else match s.isBackup method with
        | none => backup w
        | some target =>
          let w := { w with currentMethod := w.currentMethod.insert self (target, method) }
          let (result, w) := backup w
          (result, { w with currentMethod := w.currentMethod.erase self })

/-- **A walk**, from the top of the stack until the visitor has seen enough:
what it has seen, and the frames and `current_method_` afterwards. -/
def walk : α → List StackFrame → CurrentMethods → ℕ → α × List StackFrame × CurrentMethods
  | seen, [], table, _ => (seen, [], table)
  | seen, frame :: frames, table, clock =>
    let visit :=
      handleVisitFrame s hidden hasSetMethod self others visitor seen ⟨frame, table, clock⟩
    if visit.1.2 then
      let rest := walk visit.1.1 frames visit.2.currentMethod visit.2.clock
      (rest.1, visit.2.frame :: rest.2.1, rest.2.2)
    else (visit.1.1, visit.2.frame :: frames, visit.2.currentMethod)

end Code

/-! ## What a visitor is shown -/

/-- **A frame as a visitor sees it**: as it is, or one of a backup that turns
into one of its target when asked for its dex pc. -/
inductive FrameView where
  | plain (frame : StackFrame)
  | backup (frame : StackFrame) (target : ArtMethodPtr)

/-- What is answered: the target's frame has the dex pc of the backup's. -/
def frameViewEnv : Script.Environment FrameQuestion.Answer FrameView
  | .getMethod, .plain frame => (frame.method, .plain frame)
  | .getMethod, .backup frame target => (frame.method, .backup frame target)
  | .getDexPc abortOnFailure, .plain frame => (frame.dexPc abortOnFailure, .plain frame)
  | .getDexPc _, .backup frame target =>
    (frame.dexPc false, .plain { frame with method := some target })

section View

variable (s : State) (hidden : Finset ArtMethodPtr) (hasSetMethod : Bool) {α : Type}
  (visitor : Visitor α)

/-- How the frame of a backup is shown: a native one has no dex pc. -/
def StackFrame.viewBackup (frame : StackFrame) (method target : ArtMethodPtr) : FrameView :=
  if (s.heap method).isNative then
    .plain ⟨some method, fun _ _ => kNativeMethodDexPc⟩
  else .backup frame target

/-- **How a frame is shown**, if it is. As long as no method is hidden, every
frame is shown as it is. -/
def StackFrame.view (frame : StackFrame) : Option FrameView :=
  if hidden = ∅ then some (.plain frame)
  else match frame.method with
    | none => some (.plain frame)
    | some method =>
      if method ∈ hidden then none
      else if hasSetMethod then
        some (((s.isBackup method).map (frame.viewBackup s method)).getD (.plain frame))
      else some (.plain frame)

/-- **The walk over what is shown.** -/
def walkViews : α → List FrameView → α
  | seen, [] => seen
  | seen, view :: views =>
    let result := ((visitor seen).run frameViewEnv view).1
    if result.2 then walkViews result.1 views else result.1

end View

/-- **What a visit leaves of a frame**: all of it, or the frame of a backup has
become one of its target. -/
structure StackFrame.Kept (s : State) (frame frame' : StackFrame) : Prop where
  getDexPc : frame'.getDexPc = frame.getDexPc
  method : frame'.method = frame.method ∨
    ∃ b t, frame.method = some b ∧ s.isBackup b = some t ∧ frame'.method = some t

variable {art : Art} {s : State} {hidden : Finset ArtMethodPtr} {hasSetMethod : Bool}
  {self : ThreadPtr} {others : Interference} {α : Type} {visitor : Visitor α} {seen : α}
  {frame : StackFrame} {table : CurrentMethods} {w : WalkState} {b t : ArtMethodPtr} {clock : ℕ}

theorem StackFrame.Kept.refl (s : State) (frame : StackFrame) : frame.Kept s frame :=
  ⟨rfl, Or.inl rfl⟩

/-! ## A visit -/

/-- What other threads do leaves this one's entry. -/
theorem lookup_foldl_move {moves : List (ThreadPtr × Option (ArtMethodPtr × ArtMethodPtr))}
    (h : ∀ move ∈ moves, move.1 ≠ self) :
    (moves.foldl CurrentMethods.move table).lookup self = table.lookup self := by
  induction moves generalizing table with
  | nil => rfl
  | cons move moves ih =>
    obtain ⟨hmove, hmoves⟩ := List.forall_mem_cons.1 h
    rw [List.foldl_cons, ih hmoves]
    rcases move with ⟨thread, _ | entry⟩
    · exact Finmap.lookup_erase_ne hmove.symm
    · exact Finmap.lookup_insert_of_ne table hmove.symm

theorem lookup_yield (h : others.Spares self) :
    (w.yield others).currentMethod.lookup self = w.currentMethod.lookup self :=
  lookup_foldl_move (h w.clock)

/-- The table has nothing to say of a frame without an entry. -/
theorem handleGetDexPc_of_none (h : w.currentMethod.lookup self = none) (abortOnFailure : Bool) :
    handleGetDexPc s hasSetMethod self w abortOnFailure = (w.frame.dexPc abortOnFailure, w) := by
  unfold handleGetDexPc
  split_ifs
  · rfl
  · rw [h]

/-- And it has for the frame of the backup there. -/
theorem handleGetDexPc_of_some (h : w.currentMethod.lookup self = some (t, b))
    (abortOnFailure : Bool) :
    handleGetDexPc s hasSetMethod self w abortOnFailure =
      if some b ≠ w.frame.method then (w.frame.dexPc abortOnFailure, w)
      else if (s.heap b).isNative then (kNativeMethodDexPc, w)
      else (w.frame.dexPc false, w.setMethod hasSetMethod t) := by
  have hne : ¬ w.currentMethod.IsEmpty := by
    intro hempty
    rw [Table.isEmpty_iff.1 hempty] at h
    cases h
  unfold handleGetDexPc
  rw [if_neg hne, h]

/-- **Where there is no entry** a visitor is shown the frame as it is. -/
theorem runVisitor_plain (hothers : others.Spares self)
    (hnone : w.currentMethod.lookup self = none) :
    (runVisitor s hasSetMethod self others visitor seen w).1 =
        ((visitor seen).run frameViewEnv (.plain w.frame)).1 ∧
      (runVisitor s hasSetMethod self others visitor seen w).2.currentMethod.lookup self = none ∧
      (runVisitor s hasSetMethod self others visitor seen w).2.frame = w.frame := by
  obtain ⟨hresult, hrel⟩ := (visitor seen).run_simulation
    (visitFrameEnv s hasSetMethod self others) frameViewEnv
    (fun w' view => w'.currentMethod.lookup self = none ∧ w'.frame = w.frame ∧
      view = .plain w.frame) (by
    rintro (_ | abortOnFailure) w' view ⟨hnone', hframe, rfl⟩
    · exact ⟨congrArg StackFrame.method hframe, (lookup_yield hothers).trans hnone', hframe, rfl⟩
    · have hyield := (lookup_yield (w := w') hothers).trans hnone'
      rw [visitFrameEnv, handleGetDexPc_of_none hyield]
      exact ⟨congrArg (StackFrame.dexPc · abortOnFailure) hframe, hyield, hframe, rfl⟩)
    (s := w) ⟨hnone, rfl, rfl⟩
  exact ⟨hresult, hrel.1, hrel.2.1⟩

/-- **A native backup** has no dex pc, and its frame stays. -/
theorem runVisitor_native (hasSetMethod : Bool) (visitor : Visitor α) (seen : α)
    (hothers : others.Spares self)
    (hentry : w.currentMethod.lookup self = some (t, b)) (hmethod : w.frame.method = some b)
    (hnative : (s.heap b).isNative) :
    (runVisitor s hasSetMethod self others visitor seen w).1 =
        ((visitor seen).run frameViewEnv (.plain ⟨some b, fun _ _ => kNativeMethodDexPc⟩)).1 ∧
      (runVisitor s hasSetMethod self others visitor seen w).2.frame = w.frame := by
  obtain ⟨hresult, hrel⟩ := (visitor seen).run_simulation
    (visitFrameEnv s hasSetMethod self others) frameViewEnv
    (fun w' view => w'.currentMethod.lookup self = some (t, b) ∧ w'.frame = w.frame ∧
      view = .plain ⟨some b, fun _ _ => kNativeMethodDexPc⟩) (by
    rintro (_ | abortOnFailure) w' view ⟨hentry', hframe, rfl⟩
    · exact ⟨(congrArg StackFrame.method hframe).trans hmethod,
        (lookup_yield hothers).trans hentry', hframe, rfl⟩
    · have hyield := (lookup_yield (w := w') hothers).trans hentry'
      have hb : some b = (w'.yield others).frame.method :=
        ((congrArg StackFrame.method hframe).trans hmethod).symm
      rw [visitFrameEnv, handleGetDexPc_of_some hyield, if_neg (not_not.2 hb), if_pos hnative]
      exact ⟨rfl, hyield, hframe, rfl⟩)
    (s := w) ⟨hentry, rfl, rfl⟩
  exact ⟨hresult, hrel.2.1⟩

/-- **Any other** is one until a visitor asks for the dex pc, and its target
from then on. -/
theorem runVisitor_backup (visitor : Visitor α) (seen : α) (hothers : others.Spares self)
    (hentry : w.currentMethod.lookup self = some (t, b)) (hmethod : w.frame.method = some b)
    (hnative : (s.heap b).isNative = false) (hne : t ≠ b) :
    (runVisitor s true self others visitor seen w).1 =
        ((visitor seen).run frameViewEnv (.backup w.frame t)).1 ∧
      ((runVisitor s true self others visitor seen w).2.frame = w.frame ∨
        (runVisitor s true self others visitor seen w).2.frame =
          { w.frame with method := some t }) := by
  obtain ⟨hresult, hrel⟩ := (visitor seen).run_simulation
    (visitFrameEnv s true self others) frameViewEnv
    (fun w' view => w'.currentMethod.lookup self = some (t, b) ∧
      (w'.frame = w.frame ∧ view = .backup w.frame t ∨
        w'.frame = { w.frame with method := some t } ∧ view = .plain w'.frame)) (by
    rintro (_ | abortOnFailure) w' view ⟨hentry', ⟨hframe, rfl⟩ | ⟨hframe, rfl⟩⟩
    · exact ⟨congrArg StackFrame.method hframe, (lookup_yield hothers).trans hentry',
        Or.inl ⟨hframe, rfl⟩⟩
    · exact ⟨rfl, (lookup_yield hothers).trans hentry', Or.inr ⟨hframe, rfl⟩⟩
    · have hyield := (lookup_yield (w := w') hothers).trans hentry'
      have hb : some b = (w'.yield others).frame.method :=
        ((congrArg StackFrame.method hframe).trans hmethod).symm
      have hnot : ¬ (s.heap b).isNative = true := by rw [hnative]; exact Bool.false_ne_true
      rw [visitFrameEnv, handleGetDexPc_of_some hyield, if_neg (not_not.2 hb), if_neg hnot]
      have hset : ((w'.yield others).setMethod true t).frame =
          { w.frame with method := some t } :=
        congrArg (fun frame : StackFrame => { frame with method := some t }) hframe
      exact ⟨congrArg (StackFrame.dexPc · false) hframe, hyield,
        Or.inr ⟨hset, congrArg FrameView.plain hset.symm⟩⟩
    · have hyield := (lookup_yield (w := w') hothers).trans hentry'
      have hb : some b ≠ (w'.yield others).frame.method := by
        rw [show (w'.yield others).frame = { w.frame with method := some t } from hframe]
        exact fun h => hne (Option.some.inj h).symm
      rw [visitFrameEnv, handleGetDexPc_of_some hyield, if_pos hb]
      exact ⟨rfl, hyield, Or.inr ⟨hframe, rfl⟩⟩)
    (s := w) ⟨hentry, Or.inl ⟨rfl, rfl⟩⟩
  exact ⟨hresult, hrel.2.imp And.left And.left⟩

/-- A target is not a backup of its own. -/
theorem Coherent.isBackup_ne (h : Coherent art s) (hb : s.isBackup b = some t) : t ≠ b := by
  rintro rfl
  have ht : s.isHooked t = some t := (h.inverse t t).2 hb
  rw [h.isHooked_backup ht] at ht
  cases ht

/-- **What a visit amounts to**: the visitor run on what it is shown of the
frame, or nothing. -/
structure Visited (s : State) (hidden : Finset ArtMethodPtr) (hasSetMethod : Bool)
    (thread : ThreadPtr) (visitor : Visitor α) (seen : α) (frame : StackFrame)
    (visit : (α × Bool) × WalkState) : Prop where
  result : visit.1 = (frame.view s hidden hasSetMethod).elim (seen, true)
    fun view => ((visitor seen).run frameViewEnv view).1
  cleared : visit.2.currentMethod.lookup thread = none
  kept : frame.Kept s visit.2.frame

/-- A frame no hook is in the way of. -/
theorem visited_plain (hothers : others.Spares self) (hnone : w.currentMethod.lookup self = none)
    (hview : w.frame.view s hidden hasSetMethod = some (.plain w.frame)) :
    Visited s hidden hasSetMethod self visitor seen w.frame
      (runVisitor s hasSetMethod self others visitor seen w) := by
  obtain ⟨hresult, hcleared, hframe⟩ := runVisitor_plain (s := s) hothers hnone
  refine ⟨?_, hcleared, ?_⟩
  · rw [hview]; exact hresult
  · rw [hframe]; exact StackFrame.Kept.refl s w.frame

/-- The frame of a backup. -/
theorem visited_backup (hc : Coherent art s) (hothers : others.Spares self)
    (hmethod : w.frame.method = some b) (hb : s.isBackup b = some t)
    (hview : w.frame.view s hidden true = some (w.frame.viewBackup s b t))
    (hentry : w.currentMethod.lookup self = some (t, b)) (visit : (α × Bool) × WalkState)
    (hvisit : visit.1 = (runVisitor s true self others visitor seen w).1 ∧
      visit.2.frame = (runVisitor s true self others visitor seen w).2.frame ∧
      visit.2.currentMethod.lookup self = none) :
    Visited s hidden true self visitor seen w.frame visit := by
  obtain ⟨hresult, hframe, hcleared⟩ := hvisit
  cases hnative : (s.heap b).isNative with
  | true =>
    obtain ⟨hrun, hsame⟩ := runVisitor_native true visitor seen hothers hentry hmethod hnative
    refine ⟨?_, hcleared, ?_⟩
    · rw [hview, StackFrame.viewBackup, if_pos hnative, hresult]; exact hrun
    · rw [hframe, hsame]; exact StackFrame.Kept.refl s w.frame
  | false =>
    obtain ⟨hrun, hsame⟩ := runVisitor_backup visitor seen hothers hentry hmethod hnative
      (hc.isBackup_ne hb)
    have hnot : ¬ (s.heap b).isNative = true := by rw [hnative]; exact Bool.false_ne_true
    refine ⟨?_, hcleared, ?_⟩
    · rw [hview, StackFrame.viewBackup, if_neg hnot, hresult]; exact hrun
    · rw [hframe]
      rcases hsame with hsame | hsame
      · rw [hsame]; exact StackFrame.Kept.refl s w.frame
      · rw [hsame]; exact ⟨rfl, Or.inr ⟨b, t, hmethod, hb, rfl⟩⟩

/-- How a method not hidden is shown, where some are. -/
theorem view_of_method (hempty : hidden ≠ ∅) (hmethod : frame.method = some b)
    (hhidden : b ∉ hidden) :
    frame.view s hidden hasSetMethod =
      if hasSetMethod then
        some (((s.isBackup b).map (frame.viewBackup s b)).getD (.plain frame))
      else some (.plain frame) := by
  rw [StackFrame.view, if_neg hempty, hmethod]
  exact if_neg hhidden

/-- **One visit.** -/
theorem handleVisitFrame_spec (hidden : Finset ArtMethodPtr) (hasSetMethod : Bool)
    (visitor : Visitor α) (seen : α) (hc : Coherent art s) (hothers : others.Spares self)
    (hnone : w.currentMethod.lookup self = none) :
    Visited s hidden hasSetMethod self visitor seen w.frame
      (handleVisitFrame s hidden hasSetMethod self others visitor seen w) := by
  unfold handleVisitFrame
  by_cases hempty : hidden = ∅
  · rw [if_pos hempty]
    exact visited_plain hothers hnone (by rw [StackFrame.view, if_pos hempty])
  rw [if_neg hempty]
  cases hmethod : w.frame.method with
  | none =>
    exact visited_plain hothers hnone (by rw [StackFrame.view, if_neg hempty, hmethod])
  | some b =>
    by_cases hhidden : b ∈ hidden
    · simp only [if_pos hhidden]
      refine ⟨?_, hnone, StackFrame.Kept.refl s w.frame⟩
      rw [StackFrame.view, if_neg hempty, hmethod]
      simp only [if_pos hhidden, Option.elim]
    simp only [if_neg hhidden]
    cases hset : hasSetMethod with
    | false =>
      exact visited_plain hothers hnone (view_of_method hempty hmethod hhidden)
    | true =>
      simp only [Bool.not_true, Bool.false_eq_true, if_false]
      cases hb : s.isBackup b with
      | none =>
        refine visited_plain hothers hnone ?_
        rw [view_of_method hempty hmethod hhidden, if_pos rfl, hb]
        rfl
      | some t =>
        have hentry : (w.currentMethod.insert self (t, b)).lookup self = some (t, b) :=
          Finmap.lookup_insert _
        refine visited_backup (w := { w with currentMethod := w.currentMethod.insert self (t, b) })
          hc hothers hmethod hb ?_ hentry _ ⟨rfl, rfl, Finmap.lookup_erase self _⟩
        have hview : w.frame.view s hidden true = _ := view_of_method hempty hmethod hhidden
        rw [if_pos rfl, hb] at hview
        exact hview

/-! ## A walk -/

theorem walk_result (hc : Coherent art s) (hothers : others.Spares self)
    (hnone : table.lookup self = none) (visitor : Visitor α) (frames : List StackFrame)
    (seen : α) (clock : ℕ) :
    (walk s hidden hasSetMethod self others visitor seen frames table clock).1 =
      walkViews visitor seen (frames.filterMap (StackFrame.view s hidden hasSetMethod)) := by
  induction frames generalizing seen table clock with
  | nil => rfl
  | cons frame frames ih =>
    have hvisit := handleVisitFrame_spec hidden hasSetMethod visitor seen hc hothers
      (w := ⟨frame, table, clock⟩) hnone
    have hresult := hvisit.result
    have hrest := ih hvisit.cleared
    rw [walk]
    cases hview : frame.view s hidden hasSetMethod with
    | none =>
      rw [hview] at hresult
      rw [List.filterMap_cons_none hview, hresult]
      exact hrest seen _
    | some view =>
      rw [hview] at hresult
      rw [List.filterMap_cons_some hview, walkViews, hresult]
      cases hgoOn : ((visitor seen).run frameViewEnv view).1.2 with
      | true =>
        simp only [Option.elim, hgoOn, if_true]
        exact hrest _ _
      | false => simp only [Option.elim, hgoOn, Bool.false_eq_true, if_false]

theorem walk_rest (hc : Coherent art s) (hothers : others.Spares self)
    (hnone : table.lookup self = none) (visitor : Visitor α) (frames : List StackFrame)
    (seen : α) (clock : ℕ) :
    (walk s hidden hasSetMethod self others visitor seen frames table clock).2.2.lookup self =
        none ∧
      List.Forall₂ (StackFrame.Kept s) frames
        (walk s hidden hasSetMethod self others visitor seen frames table clock).2.1 := by
  induction frames generalizing seen table clock with
  | nil => exact ⟨hnone, List.Forall₂.nil⟩
  | cons frame frames ih =>
    have hvisit := handleVisitFrame_spec hidden hasSetMethod visitor seen hc hothers
      (w := ⟨frame, table, clock⟩) hnone
    rw [walk]
    dsimp only
    split
    · obtain ⟨hcleared, hkept⟩ := ih hvisit.cleared _ _
      exact ⟨hcleared, List.Forall₂.cons hvisit.kept hkept⟩
    · exact ⟨hvisit.cleared, List.Forall₂.cons hvisit.kept
        (List.forall₂_same.2 fun frame _ => StackFrame.Kept.refl s frame)⟩

/-- **A walk shows the visitor its frames as LSPlant would have them seen**:
wherever a run has led, none of the frames of hidden methods, and that of a
backup as one of its target, whatever the visitor asks and remembers and
whatever other threads do to `current_method_` meanwhile. While no method is
hidden every frame is shown as it is, and without `SetMethod` that of a
backup is. -/
theorem walk_eq_walkViews {heap : ArtMethodPtr → ArtMethod} {mem : Memory} {ids : List ℕ}
    {owner : ℕ → ArtMethodPtr} {es : List Event}
    (hL : (machine art).Legal (State.initial heap mem ids owner) es)
    (hothers : others.Spares self) (hnone : table.lookup self = none) (visitor : Visitor α)
    (frames : List StackFrame) (seen : α) (clock : ℕ) :
    let s := (machine art).exec (State.initial heap mem ids owner) es
    (walk s hidden hasSetMethod self others visitor seen frames table clock).1 =
      walkViews visitor seen (frames.filterMap (StackFrame.view s hidden hasSetMethod)) :=
  walk_result (coherent_exec coherent_initial hL) hothers hnone visitor frames seen clock

/-- A visitor that puts down dex pc and method of each frame. -/
def traceVisitor : Visitor (List (ℕ × Option ArtMethodPtr)) := fun seen =>
  .ask (.getDexPc true) fun dexPc => .ask .getMethod fun method =>
    .done (seen ++ [(dexPc, method)], true)

/-- A walk it is about: over the frames of a hooker, which is hidden, of a
backup and of another method, while a second thread is at the frame of the
same backup. -/
theorem walk_eq_walkViews_sample :
    let s := (machine sampleArt).exec (sampleState kAccPublic)
      [sampleHook 110 210 211 (some 65536)]
    (walk s {210} true 1 (fun _ => [(2, some (110, 211))]) traceVisitor []
      [⟨some 210, fun _ _ => 3⟩, ⟨some 211, fun _ _ => 4⟩, ⟨some 150, fun _ _ => 5⟩] ∅ 0).1 =
        [(4, some 110), (5, some 150)] :=
  (walk_eq_walkViews (by decide) (by unfold Interference.Spares; simp) (Finmap.lookup_empty 1)
    traceVisitor _ [] 0).trans (by decide)

/-- **A walk leaves nothing of its own behind**: its entry of `current_method_`
is gone, and every frame is as it was, or one of a backup that has become one
of its target. -/
theorem walk_leaves {heap : ArtMethodPtr → ArtMethod} {mem : Memory} {ids : List ℕ}
    {owner : ℕ → ArtMethodPtr} {es : List Event}
    (hL : (machine art).Legal (State.initial heap mem ids owner) es)
    (hothers : others.Spares self) (hnone : table.lookup self = none) (visitor : Visitor α)
    (frames : List StackFrame) (seen : α) (clock : ℕ) :
    let s := (machine art).exec (State.initial heap mem ids owner) es
    (walk s hidden hasSetMethod self others visitor seen frames table clock).2.2.lookup self =
        none ∧
      List.Forall₂ (StackFrame.Kept s) frames
        (walk s hidden hasSetMethod self others visitor seen frames table clock).2.1 :=
  walk_rest (coherent_exec coherent_initial hL) hothers hnone visitor frames seen clock

/-- As the walk over the first two does. -/
theorem walk_leaves_sample :
    let s := (machine sampleArt).exec (sampleState kAccPublic)
      [sampleHook 110 210 211 (some 65536)]
    (walk s {210} true 1 (fun _ => [(2, some (110, 211))]) traceVisitor []
      [⟨some 210, fun _ _ => 3⟩, ⟨some 211, fun _ _ => 4⟩] ∅ 0).2.2.lookup 1 = none :=
  (walk_leaves (by decide) (by unfold Interference.Spares; simp) (Finmap.lookup_empty 1)
    traceVisitor _ [] 0).1

end LSPlant
