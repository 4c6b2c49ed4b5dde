import LSPlant.Coherence
/-!
# The disguise of a fast native target

While a hooked fast native method is dispatched, `VNativeHookerEntry`
takes its native flag away, so that ART treats a call of it from the
callback as one of a method that is not native.
`ScopedNonNativeTargetMethod` counts the dispatches in the data of the
hook they came through, and the last one puts the flag back. That it
always comes back is `Counts.step`: at most one hook's dispatches are
counted at a time, since a dispatch that finds the flag gone and its own
count zero is not counted. What other calls make of a target in disguise
is another matter: a hook copies it to the backup as it is, and
`Deoptimize` takes it for a method with bytecode.
-/

namespace LSPlant

/-- **A fast native target and its dispatches**: the references counted in
each `NativeHookerData` there is, in the order they were made, and the
dispatches in progress, each with the data it is counted in, if it is. -/
structure Dispatched where
  hooks : State
  hookerData : ℕ
  references : ℕ → BitVec 32
  scopes : List (Option ℕ)

/-- Nothing hooked yet. -/
def Dispatched.initial (s : State) : Dispatched where
  hooks := s
  hookerData := 0
  references := fun _ => 0
  scopes := []

/-- What happens to a target: it is hooked, unhooked and deoptimized, and
dispatches enter and leave. -/
inductive TargetEvent where
  | hook (request : HookRequest)
  | unHook
  | deoptimize
  | enter (data : ℕ)
  | leave (scope : Option ℕ)

section
variable (art : Art) (t : ArtMethodPtr) (d : Dispatched)

/-- **`HookMethod` makes a `NativeHookerData`**: a class was built, and the
target is fast native as it is. -/
def makesHookerData (s : State) (request : HookRequest) : Bool :=
  reachesBuildDex s request && request.built.isSome && (s.heap t).isFastNative art

/-- `ScopedNonNativeTargetMethod`, made. -/
def enterScope (data : ℕ) : Dispatched :=
  -- the flag is gone, and not through this data: the scope counts nothing
  if d.references data = 0 ∧ (d.hooks.heap t).isNative = false then
    { d with scopes := none :: d.scopes }
  else
    let references := Function.update d.references data (d.references data + 1)
    { d with
      references := references
      hooks := if references data = 1 then d.hooks.modify t (·.setNonNative) else d.hooks
      scopes := some data :: d.scopes }

/-- And destroyed. -/
def leaveScope (scope : Option ℕ) : Dispatched :=
  match scope with
  | none => { d with scopes := d.scopes.erase none }
  | some data =>
    let references := Function.update d.references data (d.references data - 1)
    { d with
      references := references
      hooks := if references data = 0 then d.hooks.modify t (·.setNative) else d.hooks
      scopes := d.scopes.erase (some data) }

/-- **The machine of a target.** -/
def targetMachine : Machine Dispatched TargetEvent where
  step d
    | .hook request => { d with
        hooks := (hookMethod art d.hooks request).1
        hookerData :=
          if makesHookerData art t d.hooks request then d.hookerData + 1 else d.hookerData }
    | .unHook => { d with hooks := (unHook art d.hooks (some t)).1 }
    | .deoptimize => { d with hooks := (deoptimize art d.hooks (some t)).1 }
    | .enter data => enterScope t d data
    | .leave scope => leaveScope t d scope
  admissible d
    | .hook request => request.target = some t ∧ admissible art d.hooks (.hook request)
    | .unHook | .deoptimize => True
    | .enter data => data < d.hookerData
    | .leave scope => scope ∈ d.scopes

instance (d : Dispatched) : ∀ e, Decidable ((targetMachine art t).admissible d e)
  | .hook request => inferInstanceAs (Decidable (request.target = some t ∧
      admissible art d.hooks (.hook request)))
  | .unHook | .deoptimize => isTrue trivial
  | .enter data => inferInstanceAs (Decidable (data < d.hookerData))
  | .leave scope => inferInstanceAs (Decidable (scope ∈ d.scopes))

end

/-- **The interpreter bridge**: the one LSPlant has found, or what ART's own
function installs on a method that is not native. -/
def IsInterpreterBridge (art : Art) : EntryPoint → Prop
  | .trampoline _ => False
  | .code c => (art.artQuickToInterpreterBridge ≠ 0 ∧ c = art.artQuickToInterpreterBridge) ∨
      ∃ code ∈ art.setEntryPointsToInterpreterSym, ∃ f, f &&& kAccNative = 0#32 ∧ c = code f

/-- **The disguise does not leak**: it is off while nothing is dispatched,
and the backup is native and not set to the interpreter. -/
def NoLeak (art : Art) (t : ArtMethodPtr) (d : Dispatched) : Prop :=
  (d.scopes = [] → (d.hooks.heap t).isNative = true) ∧
    ∀ b ∈ d.hooks.isHooked t, (d.hooks.heap b).isNative = true ∧
      ¬ IsInterpreterBridge art (d.hooks.getEntryPoint b)

/-- **Nobody takes the disguise at its word**: a `Hook` that succeeds finds
the target native and not set to the interpreter, and a `Deoptimize` of the
hooked target finds it native, or what it would install is not the
bridge. -/
def SeesThrough (art : Art) (t : ArtMethodPtr) (d : Dispatched) : TargetEvent → Prop
  | .hook request => (hookMethod art d.hooks request).2.isSome = true →
      (d.hooks.heap t).isNative = true ∧ ¬ IsInterpreterBridge art (d.hooks.getEntryPoint t)
  | .deoptimize => ∀ b ∈ d.hooks.isHooked t, (d.hooks.heap t).isNative = false →
      ∀ entryPoint ∈ interpreterEntryPoint art d.hooks b, ¬ IsInterpreterBridge art entryPoint
  | _ => True

/-! ## The counts -/

variable {art : Art} {t b : ArtMethodPtr} {d : Dispatched} {data other : ℕ}

/-- **What the counts say**: each counts the dispatches counted in its data,
one data's only at a time, and the flag is gone exactly while there are
any. The counts are 32 bits wide, which is wide enough: a count come round
to zero takes no more. -/
structure Counts (t : ArtMethodPtr) (d : Dispatched) : Prop where
  references : ∀ data, d.references data = BitVec.ofNat 32 (d.scopes.count (some data))
  le : ∀ data, d.scopes.count (some data) ≤ 2 ^ 32
  one : ∀ data other, 0 < d.scopes.count (some data) → 0 < d.scopes.count (some other) →
    data = other
  native : (d.hooks.heap t).isNative = true ↔ ∀ data, d.scopes.count (some data) = 0
  backup : ∀ b ∈ d.hooks.isHooked t, b ≠ t

theorem Counts.references_eq_zero (h : Counts t d) :
    d.references data = 0 ↔
      d.scopes.count (some data) = 0 ∨ d.scopes.count (some data) = 2 ^ 32 := by
  have hle := h.le data
  rw [h.references]
  constructor
  · intro h0
    have hmod := congrArg BitVec.toNat h0
    rw [BitVec.toNat_ofNat] at hmod
    have hzero : d.scopes.count (some data) % 2 ^ 32 = 0 := hmod
    omega
  · rintro (h0 | h0) <;> rw [h0] <;> rfl

/-- A dispatch that is counted shows. -/
theorem Counts.not_native (h : Counts t d) (hpos : 0 < d.scopes.count (some data)) :
    (d.hooks.heap t).isNative = false := by
  rw [← Bool.not_eq_true]
  intro hnative
  have hzero := h.native.1 hnative data
  omega

/-- Where one data counts all that is counted, that count says it all. -/
theorem Counts.of_single {n : ℕ} (hself : d.scopes.count (some data) = n)
    (hother : ∀ x, x ≠ data → d.scopes.count (some x) = 0)
    (hreferences : d.references data = BitVec.ofNat 32 n)
    (hothers : ∀ x, x ≠ data → d.references x = 0) (hle : n ≤ 2 ^ 32)
    (hnative : (d.hooks.heap t).isNative = true ↔ n = 0)
    (hbackup : ∀ b ∈ d.hooks.isHooked t, b ≠ t) : Counts t d where
  references x := by
    by_cases hx : x = data
    · rw [hx, hself, hreferences]
    · rw [hother x hx, hothers x hx]
      rfl
  le x := by
    by_cases hx : x = data
    · rw [hx, hself]
      exact hle
    · rw [hother x hx]
      omega
  one x y hpx hpy := by
    have hdata : ∀ z, 0 < d.scopes.count (some z) → z = data := by
      intro z hz
      by_contra hne
      rw [hother z hne] at hz
      omega
    exact (hdata x hpx).trans (hdata y hpy).symm
  native := by
    refine hnative.trans ⟨fun h0 x => ?_, fun hall => hself ▸ hall data⟩
    by_cases hx : x = data
    · rw [hx, hself, h0]
    · exact hother x hx
  backup := hbackup

/-- Dispatches that are not counted make no difference. -/
theorem Counts.of_same (h : Counts t d) {d' : Dispatched}
    (hscopes : ∀ x, d'.scopes.count (some x) = d.scopes.count (some x))
    (hreferences : d'.references = d.references)
    (hnative : (d'.hooks.heap t).isNative = (d.hooks.heap t).isNative)
    (hbackup : ∀ b ∈ d'.hooks.isHooked t, b ≠ t) : Counts t d' where
  references x := by
    rw [hreferences, hscopes]
    exact h.references x
  le x := by
    rw [hscopes]
    exact h.le x
  one x y := by
    rw [hscopes, hscopes]
    exact h.one x y
  native := by
    simp only [hnative, hscopes]
    exact h.native
  backup := hbackup

/-- **A dispatch touches the target's flags and nothing else** of the
hooks. -/
structure FlagsOnly (t : ArtMethodPtr) (s s' : State) : Prop where
  toRegistry : s'.toRegistry = s.toRegistry
  heap : ∀ n, n ≠ t → s'.heap n = s.heap n

theorem FlagsOnly.refl (s : State) : FlagsOnly t s s := ⟨rfl, fun _ _ => rfl⟩

theorem FlagsOnly.modify {s : State} {f : ArtMethod → ArtMethod} :
    FlagsOnly t s (s.modify t f) where
  toRegistry := rfl
  heap n hn := by rw [State.heap_modify, if_neg hn]

theorem flagsOnly_enterScope : FlagsOnly t d.hooks (enterScope t d data).hooks := by
  unfold enterScope
  split
  · exact .refl _
  · dsimp only
    split
    · exact .modify
    · exact .refl _

theorem flagsOnly_leaveScope {scope : Option ℕ} :
    FlagsOnly t d.hooks (leaveScope t d scope).hooks := by
  unfold leaveScope
  cases scope with
  | none => exact .refl _
  | some data =>
    dsimp only
    split
    · exact .modify
    · exact .refl _

theorem FlagsOnly.isHooked {s s' : State} (h : FlagsOnly t s s') (m : ArtMethodPtr) :
    s'.isHooked m = s.isHooked m :=
  congrArg (fun r : Registry => r.isHooked m) h.toRegistry

/-- **A dispatch enters.** -/
theorem Counts.enter (h : Counts t d) : Counts t (enterScope t d data) := by
  have hbackup : ∀ b ∈ (enterScope t d data).hooks.isHooked t, b ≠ t := by
    rw [flagsOnly_enterScope.isHooked]
    exact h.backup
  revert hbackup
  unfold enterScope
  split
  · exact h.of_same (fun x => List.count_cons_of_ne (Option.some_ne_none x).symm) rfl rfl
  · rename_i hcounted
    intro hbackup
    -- what was counted before was counted in this data
    have hzero : ∀ x, x ≠ data → d.scopes.count (some x) = 0 := by
      intro x hx
      by_contra hne
      have hnative := h.not_native (Nat.pos_of_ne_zero hne)
      rcases Nat.eq_zero_or_pos (d.scopes.count (some data)) with h0 | h0
      · exact hcounted ⟨h.references_eq_zero.2 (Or.inl h0), hnative⟩
      · exact hx (h.one x data (Nat.pos_of_ne_zero hne) h0)
    have hlt : d.scopes.count (some data) ≠ 2 ^ 32 := by
      intro htop
      have hpos : 0 < d.scopes.count (some data) := by
        rw [htop]
        exact Nat.two_pow_pos 32
      exact hcounted ⟨h.references_eq_zero.2 (Or.inr htop), h.not_native hpos⟩
    have hle := h.le data
    have hfirst : Function.update d.references data (d.references data + 1) data = 1 ↔
        d.scopes.count (some data) = 0 := by
      rw [Function.update_self]
      refine BitVec.add_left_eq_self.trans (h.references_eq_zero.trans ?_)
      exact or_iff_left hlt
    refine .of_single (n := d.scopes.count (some data) + 1) List.count_cons_self ?_
      ?_ ?_ (by omega) ?_ hbackup
    · intro x hx
      have hne : (some data : Option ℕ) ≠ some x := fun he => hx (Option.some.inj he).symm
      exact (List.count_cons_of_ne hne).trans (hzero x hx)
    · dsimp only
      rw [Function.update_self, h.references, BitVec.ofNat_add]
      rfl
    · intro x hx
      dsimp only
      rw [Function.update_of_ne hx]
      exact h.references_eq_zero.2 (Or.inl (hzero x hx))
    · refine iff_of_false ?_ (by omega)
      dsimp only
      split
      · rw [State.heap_modify, if_pos rfl, ArtMethod.isNative_setNonNative]
        decide
      · rename_i hnot
        rw [h.not_native (Nat.pos_of_ne_zero fun h0 => hnot (hfirst.2 h0))]
        decide

/-- **A dispatch leaves.** -/
theorem Counts.leave {scope : Option ℕ} (h : Counts t d) (hmem : scope ∈ d.scopes) :
    Counts t (leaveScope t d scope) := by
  have hbackup : ∀ b ∈ (leaveScope t d scope).hooks.isHooked t, b ≠ t := by
    rw [flagsOnly_leaveScope.isHooked]
    exact h.backup
  cases scope with
  | none =>
    exact h.of_same (fun x => List.count_erase_of_ne (Option.some_ne_none x)) rfl rfl hbackup
  | some data =>
    have hpos : 0 < d.scopes.count (some data) := List.count_pos_iff.2 hmem
    have hzero : ∀ x, x ≠ data → d.scopes.count (some x) = 0 := by
      intro x hx
      by_contra hne
      exact hx (h.one x data (Nat.pos_of_ne_zero hne) hpos)
    have hle := h.le data
    have hreferences : d.references data - 1 =
        BitVec.ofNat 32 (d.scopes.count (some data) - 1) := by
      obtain ⟨n, hn⟩ := Nat.exists_eq_succ_of_ne_zero hpos.ne'
      rw [h.references, hn, Nat.succ_eq_add_one, BitVec.ofNat_add, Nat.add_sub_cancel]
      exact BitVec.add_sub_cancel _ _
    have hlast : Function.update d.references data (d.references data - 1) data = 0 ↔
        d.scopes.count (some data) - 1 = 0 := by
      rw [Function.update_self, hreferences]
      constructor
      · intro h0
        have htoNat := congrArg BitVec.toNat h0
        rw [BitVec.toNat_ofNat] at htoNat
        have hmod : (d.scopes.count (some data) - 1) % 2 ^ 32 = 0 := htoNat
        omega
      · intro h0
        rw [h0]
        rfl
    refine .of_single (n := d.scopes.count (some data) - 1) List.count_erase_self ?_
      ?_ ?_ (by omega) ?_ hbackup
    · intro x hx
      have hne : (some x : Option ℕ) ≠ some data := fun he => hx (Option.some.inj he)
      exact (List.count_erase_of_ne hne).trans (hzero x hx)
    · exact (Function.update_self ..).trans hreferences
    · intro x hx
      refine (Function.update_of_ne hx ..).trans ?_
      exact h.references_eq_zero.2 (Or.inl (hzero x hx))
    · rw [← hlast]
      unfold leaveScope
      dsimp only
      split
      · rename_i h0
        rw [State.heap_modify, if_pos rfl]
        exact iff_of_true ArtMethod.isNative_setNative h0
      · rename_i hnot
        rw [h.not_native hpos]
        exact iff_of_false (by decide) hnot

/-! ## What the other calls do -/

variable {s s' : State}

/-- The backup half of the property. -/
def BackupClean (art : Art) (t : ArtMethodPtr) (s : State) : Prop :=
  ∀ b ∈ s.isHooked t, (s.heap b).isNative = true ∧ ¬ IsInterpreterBridge art (s.getEntryPoint b)

/-- While the counts are right, the disguise can only leak through the
backup. -/
theorem Counts.noLeak_iff (h : Counts t d) : NoLeak art t d ↔ BackupClean art t d.hooks := by
  refine and_iff_right fun hnone => h.native.2 fun x => ?_
  rw [hnone]
  rfl

/-- A dispatch leaves the backup alone. -/
theorem FlagsOnly.backupClean_iff (hf : FlagsOnly t s s') (hb : ∀ b ∈ s.isHooked t, b ≠ t) :
    BackupClean art t s' ↔ BackupClean art t s := by
  unfold BackupClean
  rw [hf.isHooked]
  refine forall₂_congr fun b hmem => ?_
  rw [State.getEntryPoint, State.getEntryPoint, hf.heap b (hb b hmem)]

/-- **A hook copies the target as it is.** -/
theorem Hooked.backupClean_iff {request : HookRequest} {stub : Stub} {a slot : ℕ}
    (h : Hooked art s request t stub a slot s') (hne : stub.backup ≠ t) :
    BackupClean art t s' ↔
      (s.heap t).isNative = true ∧ ¬ IsInterpreterBridge art (s.getEntryPoint t) := by
  have hview : s'.view stub.backup = s.view t := by rw [h.view, if_neg hne, if_pos rfl]
  have hnative : (s'.heap stub.backup).isNative = (s.heap t).isNative :=
    ArtMethod.isNative_congr (congrArg (·.kind) hview)
  have hentry : s'.getEntryPoint stub.backup = s.getEntryPoint t :=
    congrArg (·.entryPoint) hview
  unfold BackupClean
  rw [h.isHooked_eq, if_pos rfl, ← hnative, ← hentry]
  exact ⟨fun hall => hall _ rfl, fun hone b hb => Option.some.inj hb ▸ hone⟩

/-- **`Deoptimize` sets the backup to the interpreter** where it takes the
target for a method that is not native. -/
theorem backupClean_deoptimize_iff (h : BackupClean art t s) :
    BackupClean art t (deoptimize art s (some t)).1 ↔
      ∀ b ∈ s.isHooked t, (s.heap t).isNative = false →
        ∀ entryPoint ∈ interpreterEntryPoint art s b, ¬ IsInterpreterBridge art entryPoint := by
  rcases deoptimize_cases art s (some t) with ⟨hcan | hnative, hdo⟩ | ⟨m, hm, -, hnot, hdo⟩ <;>
    rw [hdo]
  · -- nothing can be set to the interpreter
    refine iff_of_true h fun b hb _ entryPoint he => ?_
    have hnone : interpreterEntryPoint art s b = none := by
      simp only [canSetEntryPointsToInterpreter, Bool.or_eq_false_iff,
        bne_eq_false_iff_eq, Option.isSome_eq_false_iff, Option.isNone_iff_eq_none] at hcan
      rw [interpreterEntryPoint, if_neg (not_not.2 hcan.1), hcan.2]
      rfl
    rw [hnone] at he
    cases he
  · exact iff_of_true h fun b hb hnot => absurd ((hnative t rfl).symm.trans hnot) (by decide)
  · obtain rfl := Option.some.inj hm
    let s₁ : State := { s with
      toRegistry := s.recordDeoptimized (s.classDef art t) t (s.getEntryPoint t) }
    have hhooked : s₁.isHooked t = s.isHooked t := rfl
    show BackupClean art t (setEntryPointsToInterpreter art s₁ ((s.isHooked t).getD t)).1 ↔ _
    have hsame : SameRegistry s₁
        (setEntryPointsToInterpreter art s₁ ((s.isHooked t).getD t)).1 :=
      .setEntryPointsToInterpreter
    have hstill : (setEntryPointsToInterpreter art s₁ ((s.isHooked t).getD t)).1.isHooked t =
        s.isHooked t :=
      (congrArg (fun r : Registry => r.isHooked t) hsame.toRegistry).trans hhooked
    unfold BackupClean
    rw [hstill]
    refine forall₂_congr fun b hb => ?_
    have hb' : s.isHooked t = some b := hb
    have hkind : ((setEntryPointsToInterpreter art s₁ b).1.heap b).isNative = true := by
      have hsame : SameRegistry s₁ (setEntryPointsToInterpreter art s₁ b).1 :=
        .setEntryPointsToInterpreter
      exact (ArtMethod.isNative_congr (hsame.methods b).1).trans (h b hb).1
    rw [hb', Option.getD_some, and_iff_right hkind, getEntryPoint_setEntryPointsToInterpreter]
    constructor
    · intro hclean _ entryPoint he
      have he' : interpreterEntryPoint art s₁ b = some entryPoint := he
      rwa [he'] at hclean
    · intro hall
      have hentry := hall hnot
      cases he : interpreterEntryPoint art s₁ b with
      | none => exact (h b hb).2
      | some entryPoint => exact hentry entryPoint he

/-- A target stays what it is when it is hooked and unhooked. -/
theorem Hooked.isNative_target {request : HookRequest} {target : ArtMethodPtr} {stub : Stub}
    {a slot : ℕ} (hh : Hooked art s request target stub a slot s') :
    (s'.heap target).isNative = (s.heap target).isNative := by
  refine ArtMethod.isNative_congr ?_
  show (s'.view target).kind = _
  rw [hh.view, if_pos rfl]
  rfl

theorem UnHooked.isNative_target {target : ArtMethodPtr} {record : HookRecord}
    (hu : UnHooked art s target record s') :
    (s'.heap target).isNative = (s.heap target).isNative := by
  refine ArtMethod.isNative_congr ?_
  show (s'.view target).kind = _
  rw [hu.view, if_pos rfl]
  rfl

/-- `Deoptimize` changes no access flags and takes no hook out. -/
theorem sameMethods_deoptimize (art : Art) (s : State) (method : Option ArtMethodPtr) :
    (deoptimize art s method).1.hookedMethods = s.hookedMethods ∧
      (deoptimize art s method).1.SameMethods s := by
  rcases deoptimize_cases art s method with ⟨-, he⟩ | ⟨m, -, -, -, he⟩ <;> rw [he]
  · exact ⟨rfl, .refl _⟩
  · refine ⟨?_, fun n => SameRegistry.setEntryPointsToInterpreter.methods n⟩
    rw [SameRegistry.setEntryPointsToInterpreter.toRegistry]
    rfl

/-- **The counts stay right** whatever happens. -/
theorem Counts.step {e : TargetEvent} (h : Counts t d)
    (hA : (targetMachine art t).admissible d e) : Counts t ((targetMachine art t).step d e) := by
  cases e with
  | enter data => exact h.enter
  | leave scope => exact h.leave hA
  | hook request =>
    obtain ⟨htarget, hadm⟩ := hA
    have hcase : (((hookMethod art d.hooks request).1).heap t).isNative =
          (d.hooks.heap t).isNative ∧
        ∀ b ∈ (hookMethod art d.hooks request).1.isHooked t, b ≠ t := by
      rcases hookMethod_cases art d.hooks request (backup_ne_target hadm) with
        ⟨T, -, he⟩ | ⟨target, stub, a, slot, s', he, hh⟩
      · rw [he]
        exact ⟨rfl, h.backup⟩
      · obtain rfl : target = t := Option.some.inj (hh.target_eq.symm.trans htarget)
        rw [he]
        refine ⟨hh.isNative_target, ?_⟩
        rw [hh.isHooked_eq, if_pos rfl]
        rintro b ⟨⟩
        exact backup_ne_target hadm stub hh.built_eq target htarget
    exact h.of_same (fun _ => rfl) rfl hcase.1 hcase.2
  | unHook =>
    have hcase : (((unHook art d.hooks (some t)).1).heap t).isNative =
          (d.hooks.heap t).isNative ∧
        ∀ b ∈ (unHook art d.hooks (some t)).1.isHooked t, b ≠ t := by
      rcases unHook_cases art d.hooks (some t) with ⟨he, -⟩ | ⟨target, record, s', htarget, he, hu⟩
      · rw [he]
        exact ⟨rfl, h.backup⟩
      · obtain rfl := Option.some.inj htarget
        rw [he]
        refine ⟨hu.isNative_target, ?_⟩
        rw [hu.isHooked_eq, if_pos rfl]
        exact fun b hb => nomatch hb
    exact h.of_same (fun _ => rfl) rfl hcase.1 hcase.2
  | deoptimize =>
    obtain ⟨hhooks, hsame⟩ := sameMethods_deoptimize art d.hooks (some t)
    refine h.of_same (fun _ => rfl) rfl (ArtMethod.isNative_congr (hsame t).1) ?_
    show ∀ b ∈ (deoptimize art d.hooks (some t)).1.isHooked t, b ≠ t
    rw [Registry.isHooked, hhooks]
    exact h.backup

/-- **One event keeps the disguise from leaking** exactly where it sees
through it. -/
theorem noLeak_step_iff {e : TargetEvent} (h : Counts t d)
    (hA : (targetMachine art t).admissible d e) (hP : NoLeak art t d) :
    NoLeak art t ((targetMachine art t).step d e) ↔ SeesThrough art t d e := by
  rw [(h.step hA).noLeak_iff]
  have hclean : BackupClean art t d.hooks := h.noLeak_iff.1 hP
  cases e with
  | enter data =>
    exact iff_of_true ((flagsOnly_enterScope.backupClean_iff h.backup).2 hclean) trivial
  | leave scope =>
    exact iff_of_true ((flagsOnly_leaveScope.backupClean_iff h.backup).2 hclean) trivial
  | hook request =>
    obtain ⟨htarget, hadm⟩ := hA
    show BackupClean art t (hookMethod art d.hooks request).1 ↔
      ((hookMethod art d.hooks request).2.isSome = true → _)
    rcases hookMethod_cases art d.hooks request (backup_ne_target hadm) with
      ⟨T, -, he⟩ | ⟨target, stub, a, slot, s', he, hh⟩
    · rw [he]
      exact iff_of_true hclean fun hsome => nomatch hsome
    · obtain rfl : target = t := Option.some.inj (hh.target_eq.symm.trans htarget)
      rw [he, hh.backupClean_iff (backup_ne_target hadm stub hh.built_eq target htarget)]
      exact ⟨fun hone _ => hone, fun hall => hall rfl⟩
  | unHook =>
    refine iff_of_true ?_ trivial
    show BackupClean art t (unHook art d.hooks (some t)).1
    rcases unHook_cases art d.hooks (some t) with ⟨he, -⟩ | ⟨target, record, s', htarget, he, hu⟩
    · rw [he]
      exact hclean
    · obtain rfl := Option.some.inj htarget
      rw [he, BackupClean, hu.isHooked_eq, if_pos rfl]
      exact fun b hb => nomatch hb
  | deoptimize => exact backupClean_deoptimize_iff hclean

/-- **The disguise never leaks** along a run of a fast native target if and
only if every call in it sees through it. -/
theorem disguise_everywhere_iff {heap : ArtMethodPtr → ArtMethod} {mem : Memory} {ids : List ℕ}
    {owner : ℕ → ArtMethodPtr} {es : List TargetEvent}
    (hfast : (heap t).isFastNative art = true)
    (hL : (targetMachine art t).Legal (.initial (.initial heap mem ids owner)) es) :
    (targetMachine art t).Everywhere (NoLeak art t) (.initial (.initial heap mem ids owner)) es ↔
      (targetMachine art t).EachStep (SeesThrough art t)
        (.initial (.initial heap mem ids owner)) es := by
  have hnative : (heap t).isNative = true := by
    unfold ArtMethod.isFastNative at hfast
    exact (Bool.and_eq_true_iff.1 hfast).2
  have hnone : (State.initial heap mem ids owner).isHooked t = none := rfl
  have hcounts : Counts t (.initial (.initial heap mem ids owner)) := by
    constructor
    · exact fun _ => rfl
    · exact fun _ => Nat.zero_le _
    · exact fun _ _ hpos => absurd hpos (Nat.lt_irrefl 0)
    · exact iff_of_true hnative fun _ => rfl
    · exact fun b hb => nomatch hnone.symm.trans hb
  refine Machine.everywhere_iff_eachStep (Q := Counts t) (fun _ _ h hA => h.step hA)
    (fun _ _ h hA hP => noLeak_step_iff h hA hP) hcounts ?_ hL
  exact hcounts.noLeak_iff.2 fun b hb => nomatch hnone.symm.trans hb

/-- A hook of method 110. -/
def sampleTargetHook (hook backup : ArtMethodPtr) (page : Option ℕ) : TargetEvent :=
  .hook {
    target := some 110
    callback := .native false
    isProxy := false
    built := some { hook, backup, backupMethod := backup }
    mmap := page
    mprotectOk := true }

/-- Method 110, static and fast native. -/
def sampleTarget : Dispatched := .initial (sampleState (kAccNative ||| 0x00080000))

/-- It is unhooked and hooked again by its own callback. -/
def sampleRehook : List TargetEvent :=
  [sampleTargetHook 210 211 (some 65536), .enter 0, .unHook, sampleTargetHook 310 311 none]

/-- **A disguise copied**: the new backup is not native. -/
theorem disguise_copied_to_backup :
    ((sampleTarget.hooks.heap 110).isFastNative sampleArt = true ∧
      (targetMachine sampleArt 110).Legal sampleTarget sampleRehook) ∧
      ¬ (targetMachine sampleArt 110).Everywhere (NoLeak sampleArt 110) sampleTarget
        sampleRehook := by
  refine ⟨⟨by decide, by decide⟩, fun h => ?_⟩
  have hback : 311 ∈
      ((targetMachine sampleArt 110).exec sampleTarget sampleRehook).hooks.isHooked 110 := by
    decide
  exact absurd (h.exec.2 311 hback).1 (by decide)

/-- A run it is about: dispatches nest, and the method is unhooked from the
inner one. -/
theorem disguise_everywhere_sample :
    (targetMachine sampleArt 110).Everywhere (NoLeak sampleArt 110) sampleTarget
      [sampleTargetHook 210 211 (some 65536), .enter 0, .enter 0, .unHook, .leave (some 0),
        .leave (some 0)] := by
  refine (disguise_everywhere_iff (by decide) (by decide)).2
    ⟨fun _ => ⟨by decide, ?_⟩, trivial, trivial, trivial, trivial, trivial, trivial⟩
  have hentry : sampleTarget.hooks.getEntryPoint 110 = .code 1110 := rfl
  show ¬ IsInterpreterBridge sampleArt (sampleTarget.hooks.getEntryPoint 110)
  rw [hentry]
  rintro (⟨-, hbridge⟩ | ⟨code, hcode, -⟩)
  · exact absurd hbridge (by decide)
  · cases hcode

end LSPlant
