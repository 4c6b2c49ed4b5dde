import LSPlant.RegistryInterleaving
/-!
# The registries are linearizable

`RecordHooked` and `UnHook` update one container after another, and calls on
other targets come in between. The registries end up as if each call had been
made at once, with the same answer: a `Hook` when its target goes into
`hooked_methods_`, or when it finds that it may not hook, and an `UnHook` when
the target is taken out of there. That nobody hooks the backup of a call in
progress is needed here: refused until the call has taken it out of
`backuped_methods_`, made at once it would succeed.

`Linearized` relates the registries to those of the calls made at once so far:
`hooked_methods_` is the same, and in the others the calls in progress are
behind by what they have still to do.
-/

namespace LSPlant

/-! ## Calls made at once -/

/-- **A call.** -/
inductive RegistryCall where
  | hook (target : ArtMethodPtr) (record : HookRecord) (isProxy : Bool)
  | unHook (target : ArtMethodPtr)
deriving DecidableEq

/-- What it is a call on. -/
def RegistryCall.target : RegistryCall → ArtMethodPtr
  | hook target _ _ | unHook target => target

/-- What an event is about. -/
def RecordingEvent.target : RecordingEvent → ArtMethodPtr
  | hook target _ _ | unHook target | next target => target

section Machine

variable (classDef : ArtMethodPtr → ClassDefPtr)

/-- The last thing a `Hook` records. -/
def Registry.recordMovement (r : Registry) (target backup : ArtMethodPtr) (isProxy : Bool) :
    Registry :=
  if !isProxy then r.recordJitMovement target backup
  else { r with backupedProxyMethods := insert backup r.backupedProxyMethods }

/-- All that it records. -/
def Registry.hookAtOnce (r : Registry) (target : ArtMethodPtr) (record : HookRecord)
    (isProxy : Bool) : Registry :=
  { r with
    hookedClasses := Registry.addToClass r.hookedClasses (classDef target) target
    hookedMethods := Table.emplace r.hookedMethods target record
    backupedMethods := Table.emplace r.backupedMethods record.backup target
  }.recordMovement target record.backup isProxy

/-- **A call made at once**: the registries after it, and whether it has hooked
or unhooked its target. -/
def Registry.call (r : Registry) : RegistryCall → Registry × Bool
  | .hook target record isProxy =>
    if r.isHooked target ≠ none ∨ r.isBackup target ≠ none then (r, false)
    else (r.hookAtOnce classDef target record isProxy, true)
  | .unHook target => match r.hookedMethods.lookup target with
    | none => (r, false)
    | some record => (r.recordUnhooked target record.backup (classDef target), true)

/-- **Calls with their answers**, one at a time. -/
def registryCalls : Machine Registry (RegistryCall × Bool) where
  step r call := (r.call classDef call.1).1
  admissible r call := (r.call classDef call.1).2 = call.2

end Machine

namespace Recordings

variable (s : Recordings)

/-- Whether a `Hook` that looks may not hook. -/
def Refuses (target : ArtMethodPtr) : Prop := s.isHooked target ≠ none ∨ s.isBackup target ≠ none

instance decidableRefuses (target : ArtMethodPtr) : Decidable (s.Refuses target) :=
  inferInstanceAs (Decidable (_ ∨ _))

/-- **The call that begins**, with what its answer will be. -/
def begins : RecordingEvent → Option (RegistryCall × Bool)
  | .hook target record isProxy => some (.hook target record isProxy, !decide (s.Refuses target))
  | .unHook target => some (.unHook target, (s.hookedMethods.lookup target).isSome)
  | .next _ => none

/-- **The call that takes effect**, with its answer. -/
def takesEffect : RecordingEvent → Option (RegistryCall × Bool)
  | .hook target record isProxy =>
    if s.Refuses target then some (.hook target record isProxy, false) else none
  | .unHook target => some (.unHook target, (s.hookedMethods.lookup target).isSome)
  | .next target => match s.calls.lookup target with
    | some (.addMethod record isProxy) => some (.hook target record isProxy, true)
    | _ => none

end Recordings

variable {classDef : ArtMethodPtr → ClassDefPtr} {s s' : Recordings} {r r' : Registry}
  {target t b : ArtMethodPtr} {call : RecordingCall} {record : HookRecord} {isProxy : Bool}
  {e : RecordingEvent}

/-- It is what `recordHooked` records, and what comes after it. -/
theorem hookAtOnce_eq_recordHooked (hook backup : ArtMethodPtr)
    (methodEntrySlot backupMethod : ℕ) :
    r.hookAtOnce classDef target ⟨hook, backup, methodEntrySlot, backupMethod, true⟩ isProxy =
      (r.recordHooked target hook backup (classDef target) methodEntrySlot
        backupMethod).recordMovement target backup isProxy := rfl

/-! ## What calls made at once keep -/

/-- The registries with no call in progress. -/
def Registry.quiet (r : Registry) : Recordings where
  toRegistry := r
  calls := ∅

open Interleaved Recordings

theorem known_quiet {α : Type} {ofCall : RecordingCall → Option α} {ofRecord : HookRecord → α} :
    r.quiet.known t ofCall ofRecord = (r.hookedMethods.lookup t).map ofRecord :=
  known_of_no_call rfl

theorem forall_quiet_calls {P : ArtMethodPtr → RecordingCall → Prop} :
    Table.Forall r.quiet.calls P := by
  intro x hx
  cases hx

theorem quiet_of_calls (h : Interleaved classDef s) (hcalls : ∀ t, s.calls.lookup t = none) :
    Interleaved classDef s.toRegistry.quiet := by
  have heq : s = s.toRegistry.quiet := by
    have hempty : s.calls = ∅ := Finmap.ext_lookup fun t => by rw [hcalls]; rfl
    cases s
    cases hempty
    rfl
  rw [← heq]
  exact h

/-- A call that goes on leaves the others where they are. -/
theorem recordingStep_next_of_ne (ht : t ≠ target) :
    (recordingStep classDef s (.next target)).calls.lookup t = s.calls.lookup t := by
  simp only [recordingStep]
  cases s.calls.lookup target with
  | none => rfl
  | some call => exact (lookup_goes _).trans (if_neg ht)

/-- **A `Hook` with nothing in between** is one made at once. -/
theorem exec_hook (hnot : ¬ s.Refuses target) :
    let s' := (recordings classDef).exec s
      [.hook target record isProxy, .next target, .next target, .next target, .next target]
    s'.toRegistry = s.hookAtOnce classDef target record isProxy ∧
      ∀ t, s'.calls.lookup t = if t = target then none else s.calls.lookup t := by
  let s₁ := s.goes target (some (.addClass record isProxy))
  have hbegin : recordingStep classDef s (.hook target record isProxy) = s₁ := if_neg hnot
  obtain ⟨hclass, hmethod⟩ := recordingStep_next classDef (s := s₁) calls_goes
  obtain ⟨hmethod', hbackup⟩ := recordingStep_next classDef hmethod
  obtain ⟨hbackup', hmovement⟩ := recordingStep_next classDef hbackup
  obtain ⟨hmovement', hdone⟩ := recordingStep_next classDef hmovement
  simp only [Machine.exec_cons, Machine.exec_nil, recordings_step]
  rw [hbegin]
  refine ⟨?_, fun t => ?_⟩
  · rw [hmovement', hbackup', hmethod', hclass]
    rfl
  · split
    · rename_i ht
      rw [ht]
      exact hdone
    · rename_i ht
      rw [recordingStep_next_of_ne ht, recordingStep_next_of_ne ht, recordingStep_next_of_ne ht,
        recordingStep_next_of_ne ht]
      exact (lookup_goes _).trans (if_neg ht)

/-- **And so is an `UnHook`.** -/
theorem exec_unHook (hlookup : s.hookedMethods.lookup target = some record) :
    let s' := (recordings classDef).exec s
      [.unHook target, .next target, .next target, .next target]
    s'.toRegistry = s.recordUnhooked target record.backup (classDef target) ∧
      ∀ t, s'.calls.lookup t = if t = target then none else s.calls.lookup t := by
  let s₁ := { s with hookedMethods := s.hookedMethods.erase target }.goes target
    (some (.eraseBackup record.backup))
  have hbegin : recordingStep classDef s (.unHook target) = s₁ := by
    simp only [recordingStep, hlookup]
    rfl
  obtain ⟨hbackup, hproxy⟩ := recordingStep_next classDef (s := s₁) calls_goes
  obtain ⟨hproxy', hclass⟩ := recordingStep_next classDef hproxy
  obtain ⟨hclass', hdone⟩ := recordingStep_next classDef hclass
  simp only [Machine.exec_cons, Machine.exec_nil, recordings_step]
  rw [hbegin]
  refine ⟨?_, fun t => ?_⟩
  · rw [hclass', hproxy', hbackup]
    rfl
  · split
    · rename_i ht
      rw [ht]
      exact hdone
    · rename_i ht
      rw [recordingStep_next_of_ne ht, recordingStep_next_of_ne ht, recordingStep_next_of_ne ht]
      exact (lookup_goes _).trans (if_neg ht)

/-- A call with nothing in between keeps the invariant. -/
theorem interleaved_quiet {events : List RecordingEvent} (h : Interleaved classDef r.quiet)
    (hL : (recordings classDef).Legal r.quiet events)
    (hend : let s := (recordings classDef).exec r.quiet events
      s.toRegistry = r' ∧ ∀ t, s.calls.lookup t = if t = target then none else none) :
    Interleaved classDef r'.quiet := by
  obtain ⟨hregistry, hcalls⟩ := hend
  have hexec : Interleaved classDef ((recordings classDef).exec r.quiet events) :=
    Machine.exec_of_eachStep interleaved_step h hL
  rw [← hregistry]
  exact quiet_of_calls hexec fun t => (hcalls t).trans (ite_self none)

theorem interleaved_hookAtOnce (h : Interleaved classDef r.quiet)
    (hfresh : r.quiet.Fresh target record.backup) (hnot : ¬ r.quiet.Refuses target) :
    Interleaved classDef (r.hookAtOnce classDef target record isProxy).quiet := by
  have hL : (recordings classDef).Legal r.quiet [.hook target record isProxy, .next target,
      .next target, .next target, .next target] :=
    ⟨⟨Finmap.notMem_empty, hfresh, forall_quiet_calls⟩, trivial, trivial, trivial, trivial,
      trivial⟩
  exact interleaved_quiet h hL (exec_hook hnot)

theorem interleaved_recordUnhooked (h : Interleaved classDef r.quiet)
    (hlookup : r.hookedMethods.lookup target = some record) :
    Interleaved classDef (r.recordUnhooked target record.backup (classDef target)).quiet := by
  have hL : (recordings classDef).Legal r.quiet
      [.unHook target, .next target, .next target, .next target] :=
    ⟨Finmap.notMem_empty, trivial, trivial, trivial, trivial⟩
  exact interleaved_quiet h hL (exec_unHook hlookup)

/-! ## Behind the calls made at once -/

namespace RecordingCall

/-- Whether its backup would be among the proxy backups. -/
def isProxyAtOnce : RecordingCall → Bool
  | addBackup _ isProxy | addMovement _ isProxy => isProxy
  | _ => false

/-- The backup there would be a JIT movement to by now. -/
def movementAtOnce : RecordingCall → Option ArtMethodPtr
  | addBackup record false | addMovement record false => some record.backup
  | _ => none

/-- The backup a `Hook` in progress brings. -/
def newBackup : RecordingCall → Option ArtMethodPtr
  | addClass record _ | addMethod record _ | addBackup record _ | addMovement record _ =>
    some record.backup
  | _ => none

end RecordingCall

namespace Recordings

variable (s) (t b)

/-- Whether the backup of a target would be among the proxy backups. -/
def IsProxyAtOnce : Prop := match s.calls.lookup t with
  | some call => call.isProxyAtOnce = true
  | none => b ∈ s.backupedProxyMethods

/-- The JIT movement of a target that is not recorded yet. -/
def movementAtOnce : Option ArtMethodPtr := (s.calls.lookup t).bind RecordingCall.movementAtOnce

end Recordings

/-- **The registries and those of the calls made at once.** -/
structure Linearized (classDef : ArtMethodPtr → ClassDefPtr) (s : Recordings) (r : Registry) :
    Prop where
  interleaved : Interleaved classDef s
  atOnce : Interleaved classDef r.quiet
  methods : r.hookedMethods = s.hookedMethods
  deoptimizedMethods : r.deoptimizedMethods = s.deoptimizedMethods
  deoptimizedClasses : r.deoptimizedClasses = s.deoptimizedClasses
  proxies : ∀ t b, s.backupOf t = some b → (b ∈ r.backupedProxyMethods ↔ s.IsProxyAtOnce t b)
  movements : ∀ t b, r.jitMovements.count (t, b) =
    s.jitMovements.count (t, b) + if s.movementAtOnce t = some b then 1 else 0
  unrecorded : ∀ t call b, s.calls.lookup t = some call → call.newBackup = some b →
    b ∉ s.backupedProxyMethods

namespace Linearized

theorem backup_of_newBackup (h : call.newBackup = some b) : call.backup = some b := by
  cases call <;> first | exact h | cases h

theorem isProxyAtOnce_of_call (hcall : s.calls.lookup t = some call) :
    s.IsProxyAtOnce t b ↔ call.isProxyAtOnce = true := by
  unfold IsProxyAtOnce
  rw [hcall]

theorem isProxyAtOnce_of_no_call (hcall : s.calls.lookup t = none) :
    s.IsProxyAtOnce t b ↔ b ∈ s.backupedProxyMethods := by
  unfold IsProxyAtOnce
  rw [hcall]

theorem movementAtOnce_of_call (hcall : s.calls.lookup t = some call) :
    s.movementAtOnce t = call.movementAtOnce := by
  rw [movementAtOnce, hcall]
  rfl

theorem movementAtOnce_of_no_call (hcall : s.calls.lookup t = none) :
    s.movementAtOnce t = none := by
  rw [movementAtOnce, hcall]
  rfl

/-- **A step at one target** keeps the registries related if it does so there
and touches no proxy backup but the target's and no JIT movement but its own. -/
theorem update (h : Linearized classDef s r) (hoff : SameOff target s s')
    (hinterleaved : Interleaved classDef s') (hatOnce : Interleaved classDef r'.quiet)
    (hmethods : r'.hookedMethods = s'.hookedMethods)
    (hdeoptimized : r'.deoptimizedMethods = s'.deoptimizedMethods ∧
      r'.deoptimizedClasses = s'.deoptimizedClasses)
    (hproxies : ∀ b, s'.backupOf target = some b →
      (b ∈ r'.backupedProxyMethods ↔ s'.IsProxyAtOnce target b))
    (hproxiesOff : ∀ b, s.backupOf target ≠ some b → s'.backupOf target ≠ some b →
      (b ∈ r'.backupedProxyMethods ↔ b ∈ r.backupedProxyMethods) ∧
        (b ∈ s'.backupedProxyMethods ↔ b ∈ s.backupedProxyMethods))
    (hmovements : ∀ b, r'.jitMovements.count (target, b) =
      s'.jitMovements.count (target, b) + if s'.movementAtOnce target = some b then 1 else 0)
    (hmovementsOff : ∀ t ≠ target, ∀ b,
      r'.jitMovements.count (t, b) = r.jitMovements.count (t, b) ∧
        s'.jitMovements.count (t, b) = s.jitMovements.count (t, b))
    (hunrecorded : ∀ call b, s'.calls.lookup target = some call → call.newBackup = some b →
      b ∉ s'.backupedProxyMethods) :
    Linearized classDef s' r' := by
  -- what others back up is not what the target does, before or after
  have hothers : ∀ t ≠ target, ∀ b, s'.backupOf t = some b → s.backupOf t = some b ∧
      s.backupOf target ≠ some b ∧ s'.backupOf target ≠ some b := by
    intro t ht b hb
    have hb' : s.backupOf t = some b := (hoff.known ht).symm.trans hb
    exact ⟨hb', fun heq => ht (h.interleaved.distinct t target b hb' heq),
      fun heq => ht (hinterleaved.distinct t target b hb heq)⟩
  refine ⟨hinterleaved, hatOnce, hmethods, hdeoptimized.1, hdeoptimized.2, ?_, ?_, ?_⟩
  · intro t b hb
    by_cases ht : t = target
    · rw [ht] at hb ⊢
      exact hproxies b hb
    · obtain ⟨hbefore, hnot, hnot'⟩ := hothers t ht b hb
      obtain ⟨hr, hs⟩ := hproxiesOff b hnot hnot'
      rw [hr, h.proxies t b hbefore]
      unfold IsProxyAtOnce
      rw [hoff.calls t ht]
      cases s.calls.lookup t with
      | none => exact hs.symm
      | some call => rfl
  · intro t b
    by_cases ht : t = target
    · rw [ht]
      exact hmovements b
    · obtain ⟨hr, hs⟩ := hmovementsOff t ht b
      rw [hr, hs, h.movements, movementAtOnce, movementAtOnce, hoff.calls t ht]
  · intro t call b hcall hnew
    by_cases ht : t = target
    · rw [ht] at hcall
      exact hunrecorded call b hcall hnew
    · have hb : s'.backupOf t = some b :=
        (known_of_call hcall).trans (backup_of_newBackup hnew)
      obtain ⟨-, hnot, hnot'⟩ := hothers t ht b hb
      rw [(hproxiesOff b hnot hnot').2]
      rw [hoff.calls t ht] at hcall
      exact h.unrecorded t call b hcall hnew

/-! ### What the calls made at once know -/

theorem backup_of_call (h : Linearized classDef s r) (hcall : s.calls.lookup t = some call)
    (hb : call.backup = some b) :
    b ∈ r.backupedProxyMethods ↔ call.isProxyAtOnce = true := by
  rw [h.proxies t b ((known_of_call hcall).trans hb), isProxyAtOnce_of_call hcall]

theorem isHooked_eq (h : Linearized classDef s r) : r.isHooked t = s.isHooked t := by
  rw [Registry.isHooked, Registry.isHooked, h.methods]

theorem isBackup_iff (h : Linearized classDef s r) :
    r.isBackup b = some t ↔ s.isHooked t = some b := by
  rw [← h.isHooked_eq]
  exact (h.atOnce.backups t b).trans (by rw [backupedAs, known_quiet]; rfl)

theorem notMem_backupedMethods (h : Linearized classDef s r)
    (hb : ∀ t, s.isHooked t ≠ some b) : b ∉ r.backupedMethods := by
  rw [Table.mem_iff_lookup]
  rintro ⟨t, ht⟩
  exact hb t (h.isBackup_iff.1 ht)

theorem notMem_backupedProxyMethods (h : Linearized classDef s r)
    (hb : ∀ t, s.isHooked t ≠ some b) : b ∉ r.backupedProxyMethods := by
  intro hmem
  obtain ⟨t, ht⟩ := h.atOnce.proxies b hmem
  rw [backupOf, known_quiet] at ht
  exact hb t (h.isHooked_eq.symm.trans ht)

/-- **A `Hook` that looks** sees what it would see if the calls were made at
once: nobody has begun to take its target out as a backup. -/
theorem refuses_iff (h : Linearized classDef s r)
    (hcalls : Table.Forall s.calls fun _ call => call.backup ≠ some target) :
    r.isHooked target ≠ none ∨ r.isBackup target ≠ none ↔ s.Refuses target := by
  have hbackup : ∀ t, s.isHooked t = some target ↔ s.isBackup target = some t := by
    intro t
    refine Iff.trans ?_ (h.interleaved.backups t target).symm
    cases hcall : s.calls.lookup t with
    | none =>
      rw [backupedAs, known_of_no_call hcall]
      rfl
    | some call =>
      have hnot : s.backupOf t ≠ some target := by
        rw [backupOf, known_of_call hcall]
        exact Table.forall_iff.1 hcalls t call hcall
      exact iff_of_false (fun heq => hnot (h.interleaved.backupOf_of_isHooked heq))
        fun heq => hnot (backupOf_of_backupedAs heq)
  unfold Refuses
  rw [h.isHooked_eq]
  refine or_congr_right ?_
  rw [Option.ne_none_iff_exists', Option.ne_none_iff_exists']
  exact exists_congr fun t => h.isBackup_iff.trans (hbackup t)

/-! ### Steps that nothing comes of -/

/-- A call that goes on with what has taken effect already, or has not yet. -/
theorem goesOn {next : RecordingCall} {classes : Table ClassDefPtr (Finset ArtMethodPtr)}
    {backups : Table ArtMethodPtr ArtMethodPtr} (h : Linearized classDef s r)
    (hcall : s.calls.lookup target = some call)
    (hinterleaved : Interleaved classDef
      ({ s with hookedClasses := classes, backupedMethods := backups }.goes target (some next)))
    (hbackup : next.backup = call.backup) (hproxy : next.isProxyAtOnce = call.isProxyAtOnce)
    (hmovement : next.movementAtOnce = call.movementAtOnce)
    (hnew : next.newBackup = call.newBackup) :
    Linearized classDef
      ({ s with hookedClasses := classes, backupedMethods := backups }.goes target (some next))
      r := by
  refine h.update (sameOff_goes _ fun _ _ => rfl) hinterleaved h.atOnce h.methods
    ⟨h.deoptimizedMethods, h.deoptimizedClasses⟩ ?_ (fun b _ _ => ⟨Iff.rfl, Iff.rfl⟩) ?_
    (fun t _ b => ⟨rfl, rfl⟩) ?_
  · intro b hb
    rw [backupOf_goes, hbackup] at hb
    rw [h.backup_of_call hcall hb, isProxyAtOnce_of_call calls_goes, hproxy]
  · intro b
    rw [h.movements, movementAtOnce_of_call hcall, movementAtOnce_of_call calls_goes, hmovement]
    rfl
  · intro call' b hcall' hb
    rw [calls_goes] at hcall'
    rw [← Option.some.inj hcall', hnew] at hb
    exact h.unrecorded target call b hcall hb

/-- **A `Hook` that begins.** -/
theorem hook (h : Linearized classDef s r) (hlegal : s.Admissible (.hook target record isProxy))
    (hnot : ¬ s.Refuses target) :
    Linearized classDef (s.goes target (some (.addClass record isProxy))) r := by
  have hinterleaved : Interleaved classDef (s.goes target (some (.addClass record isProxy))) := by
    have hbegin : recordingStep classDef s (.hook target record isProxy) =
        s.goes target (some (.addClass record isProxy)) := if_neg hnot
    rw [← hbegin]
    exact h.interleaved.hook hlegal
  have hnone : s.calls.lookup target = none := Finmap.lookup_eq_none.2 hlegal.1
  refine h.update (sameOff_goes _ fun _ _ => rfl) hinterleaved h.atOnce h.methods
    ⟨h.deoptimizedMethods, h.deoptimizedClasses⟩ ?_ (fun b _ _ => ⟨Iff.rfl, Iff.rfl⟩) ?_
    (fun t _ b => ⟨rfl, rfl⟩) ?_
  · intro b hb
    rw [isProxyAtOnce_of_call calls_goes]
    refine iff_of_false (h.notMem_backupedProxyMethods fun t ht => ?_) Bool.false_ne_true
    -- the target of its backup would be the target, which is not hooked
    have heq := hinterleaved.distinct t target b (hinterleaved.backupOf_of_isHooked ht) hb
    have hhooked := hinterleaved.methods target _ calls_goes
    rw [heq, Registry.isHooked_eq_some] at ht
    obtain ⟨record', hrecord', -⟩ := ht
    cases hhooked.symm.trans hrecord'
  · intro b
    rw [h.movements, movementAtOnce_of_no_call hnone, movementAtOnce_of_call calls_goes]
    rfl
  · intro call b hcall hb
    rw [calls_goes] at hcall
    rw [← Option.some.inj hcall] at hb
    rw [← Option.some.inj hb]
    exact hlegal.2.1.2.2.2.1

/-! ### Steps that take effect, or make up for it -/

variable {backup : ArtMethodPtr} {p : ArtMethodPtr × ArtMethodPtr}

theorem mem_recordMovement :
    b ∈ (r.recordMovement target backup isProxy).backupedProxyMethods ↔
      isProxy = true ∧ b = backup ∨ b ∈ r.backupedProxyMethods := by
  cases isProxy with
  | false => exact (or_iff_right fun h => Bool.false_ne_true h.1).symm
  | true => exact Finset.mem_insert.trans (or_congr_left (iff_and_self.2 fun _ => rfl))

theorem count_recordMovement :
    (r.recordMovement target backup isProxy).jitMovements.count p =
      r.jitMovements.count p + if isProxy = false ∧ p = (target, backup) then 1 else 0 := by
  cases isProxy with
  | false =>
    show (r.jitMovements ++ [(target, backup)]).count p = _
    rw [List.count_append, List.count_singleton]
    simp only [beq_iff_eq, true_and, eq_comm (a := p)]
  | true => rfl

theorem recordMovement_eq (r : Registry) (target backup : ArtMethodPtr) (isProxy : Bool) :
    ∃ proxies movements, r.recordMovement target backup isProxy =
      { r with backupedProxyMethods := proxies, jitMovements := movements } := by
  cases isProxy <;> exact ⟨_, _, rfl⟩

theorem movementAtOnce_addBackup_eq_some :
    (RecordingCall.addBackup record isProxy).movementAtOnce = some b ↔
      isProxy = false ∧ b = record.backup := by
  cases isProxy with
  | false => exact Option.some_inj.trans (eq_comm.trans (iff_and_self.2 fun _ => rfl))
  | true => exact iff_of_false nofun fun h => Bool.false_ne_true h.1.symm

theorem isHooked_target (h : Linearized classDef s r) (hlookup : s.hookedMethods.lookup target =
    none) : r.isHooked target = none := by
  rw [Registry.isHooked, h.methods, hlookup]
  rfl

/-- A target of a call in progress is no backup. -/
theorem isBackup_target (h : Linearized classDef s r)
    (hcall : s.calls.lookup target = some call) : r.isBackup target = none := by
  rw [Option.eq_none_iff_forall_ne_some]
  intro t ht
  have hb := h.interleaved.backupOf_of_isHooked (h.isBackup_iff.1 ht)
  exact h.interleaved.apart t target hb (isTarget_of_call hcall)

/-- A new backup is one for the registries of the calls made at once. -/
theorem fresh (h : Linearized classDef s r)
    (hcall : s.calls.lookup target = some (.addMethod record isProxy)) :
    r.quiet.Fresh target record.backup := by
  obtain ⟨hmethod, hbackupOf, -, -⟩ := h.interleaved.known_of_calls hcall
  have hapart := h.interleaved.apart target record.backup hbackupOf
  have hnone : ∀ t, s.isHooked t ≠ some record.backup := by
    intro t ht
    -- it would be the target, which is not in `hooked_methods_` yet
    have heq := h.interleaved.distinct t target _ (h.interleaved.backupOf_of_isHooked ht) hbackupOf
    rw [heq, Registry.isHooked, hmethod] at ht
    cases ht
  refine ⟨?_, ?_, h.notMem_backupedMethods hnone, h.notMem_backupedProxyMethods hnone,
    Finmap.notMem_empty, forall_quiet_calls⟩
  · intro heq
    rw [heq] at hapart
    exact hapart (isTarget_of_call hcall)
  · show record.backup ∉ r.hookedMethods
    rw [h.methods]
    exact fun hmem => hapart (Or.inr hmem)

/-- **A `Hook` takes effect.** -/
theorem addMethod (h : Linearized classDef s r)
    (hcall : s.calls.lookup target = some (.addMethod record isProxy)) :
    ¬ r.quiet.Refuses target ∧
      Linearized classDef ({ s with
        hookedMethods := Table.emplace s.hookedMethods target record }.goes target
          (some (.addBackup record isProxy))) (r.hookAtOnce classDef target record isProxy) := by
  obtain ⟨hmethod, hbackupOf, -, -⟩ := h.interleaved.known_of_calls hcall
  have hnot : ¬ r.quiet.Refuses target := by
    rintro (hhooked | hbackup)
    · exact hhooked (h.isHooked_target hmethod)
    · exact hbackup (h.isBackup_target hcall)
  have hatOnce : Interleaved classDef (r.hookAtOnce classDef target record isProxy).quiet :=
    interleaved_hookAtOnce h.atOnce (h.fresh hcall) hnot
  have hproxy : record.backup ∉ r.backupedProxyMethods := by
    rw [h.backup_of_call hcall rfl]
    exact Bool.false_ne_true
  obtain ⟨proxies, movements, hrecord⟩ := recordMovement_eq { r with
    hookedClasses := Registry.addToClass r.hookedClasses (classDef target) target
    hookedMethods := Table.emplace r.hookedMethods target record
    backupedMethods := Table.emplace r.backupedMethods record.backup target }
    target record.backup isProxy
  refine ⟨hnot, h.update (sameOff_goes _ fun t ht => ?_) (h.interleaved.addMethod hcall) hatOnce
    ?_ ⟨?_, ?_⟩ ?_ ?_ ?_ ?_ ?_⟩
  · exact Table.lookup_emplace_eq.trans (if_neg fun heq => ht heq.1)
  · rw [Registry.hookAtOnce, hrecord, ← h.methods]
    rfl
  · rw [Registry.hookAtOnce, hrecord]
    exact h.deoptimizedMethods
  · rw [Registry.hookAtOnce, hrecord]
    exact h.deoptimizedClasses
  · intro b hb
    obtain rfl : record.backup = b := Option.some.inj (backupOf_goes.symm.trans hb)
    rw [isProxyAtOnce_of_call calls_goes]
    refine mem_recordMovement.trans ?_
    rw [or_iff_left hproxy]
    exact and_iff_left rfl
  · intro b hb _
    have hne : b ≠ record.backup := by
      rintro rfl
      exact hb hbackupOf
    exact ⟨mem_recordMovement.trans (or_iff_right fun heq => hne heq.2), Iff.rfl⟩
  · intro b
    rw [movementAtOnce_of_call calls_goes]
    refine count_recordMovement.trans ?_
    show r.jitMovements.count (target, b) + _ = s.jitMovements.count (target, b) + _
    rw [h.movements, movementAtOnce_of_call hcall]
    simp only [movementAtOnce_addBackup_eq_some, Prod.mk.injEq, true_and]
    rfl
  · intro t ht b
    refine ⟨count_recordMovement.trans ?_, rfl⟩
    rw [if_neg fun heq => ht (Prod.mk.inj heq.2).1]
    rfl
  · intro call' b hcall' hb
    rw [calls_goes] at hcall'
    rw [← Option.some.inj hcall'] at hb
    exact h.unrecorded target _ b hcall hb

/-- A `Hook` is done. -/
theorem addMovement (h : Linearized classDef s r)
    (hcall : s.calls.lookup target = some (.addMovement record isProxy)) :
    Linearized classDef ({ s with
      toRegistry := s.recordMovement target record.backup isProxy }.goes target none) r := by
  obtain ⟨hmethod, hbackupOf, -, -⟩ := h.interleaved.known_of_calls hcall
  obtain ⟨proxies, movements, hrecord⟩ :=
    recordMovement_eq s.toRegistry target record.backup isProxy
  have hinterleaved : Interleaved classDef ({ s with
      toRegistry := s.recordMovement target record.backup isProxy }.goes target none) := by
    refine h.interleaved.addMovement hcall ?_ ?_ ?_ fun b hb => ?_
    · rw [hrecord]
    · rw [hrecord]
    · rw [hrecord]
    · exact (mem_recordMovement.1 hb).imp_left And.right
  refine h.update (sameOff_goes _ fun t _ => by rw [hrecord]) hinterleaved h.atOnce ?_ ⟨?_, ?_⟩
    ?_ ?_ ?_ ?_ ?_
  · rw [h.methods, hrecord]
    rfl
  · rw [h.deoptimizedMethods, hrecord]
    rfl
  · rw [h.deoptimizedClasses, hrecord]
    rfl
  · intro b hb
    rw [backupOf_done, hrecord] at hb
    obtain rfl : record.backup = b :=
      Option.some.inj ((congrArg (Option.map _) hmethod).symm.trans hb)
    rw [isProxyAtOnce_of_no_call calls_goes, h.backup_of_call hcall rfl]
    refine Iff.trans ?_ mem_recordMovement.symm
    -- nobody else has put it there
    rw [or_iff_left (h.unrecorded target _ _ hcall rfl)]
    exact (and_iff_left rfl).symm
  · intro b hb _
    have hne : b ≠ record.backup := by
      rintro rfl
      exact hb hbackupOf
    exact ⟨Iff.rfl, mem_recordMovement.trans (or_iff_right fun heq => hne heq.2)⟩
  · intro b
    rw [h.movements, movementAtOnce_of_call hcall, movementAtOnce_of_no_call calls_goes]
    refine Eq.trans ?_ (congrArg (· + _) count_recordMovement.symm)
    show _ = _ + _ + 0
    simp only [Prod.mk.injEq, true_and]
    have hmovement : (RecordingCall.addMovement record isProxy).movementAtOnce =
        (RecordingCall.addBackup record isProxy).movementAtOnce := by cases isProxy <;> rfl
    rw [hmovement]
    exact congrArg _ (if_congr movementAtOnce_addBackup_eq_some rfl rfl)
  · intro t ht b
    refine ⟨rfl, count_recordMovement.trans ?_⟩
    rw [if_neg fun heq => ht (Prod.mk.inj heq.2).1]
    rfl
  · intro call b hcall'
    rw [calls_goes] at hcall'
    cases hcall'

/-- **An `UnHook` takes effect.** -/
theorem unHook (h : Linearized classDef s r) (hlegal : target ∉ s.calls)
    (hlookup : s.hookedMethods.lookup target = some record) :
    Linearized classDef ({ s with hookedMethods := s.hookedMethods.erase target }.goes target
      (some (.eraseBackup record.backup)))
      (r.recordUnhooked target record.backup (classDef target)) := by
  have hnone : s.calls.lookup target = none := Finmap.lookup_eq_none.2 hlegal
  have hbackupOf : s.backupOf target = some record.backup :=
    h.interleaved.backupOf_of_isHooked (Registry.isHooked_eq_some.2 ⟨record, hlookup, rfl⟩)
  have hinterleaved : Interleaved classDef
      ({ s with hookedMethods := s.hookedMethods.erase target }.goes target
        (some (.eraseBackup record.backup))) := by
    have hunHook := h.interleaved.unHook hlegal
    simp only [recordingStep, hlookup] at hunHook
    exact hunHook
  have hlookup' : r.hookedMethods.lookup target = some record := by
    rw [h.methods]
    exact hlookup
  have hatOnce := interleaved_recordUnhooked h.atOnce hlookup'
  refine h.update (sameOff_goes _ fun t ht => Finmap.lookup_erase_ne ht) hinterleaved hatOnce
    ?_ ⟨h.deoptimizedMethods, h.deoptimizedClasses⟩ ?_ ?_ ?_ (fun t _ b => ⟨rfl, rfl⟩) ?_
  · show r.hookedMethods.erase target = s.hookedMethods.erase target
    rw [h.methods]
  · intro b hb
    obtain rfl : record.backup = b := Option.some.inj (backupOf_goes.symm.trans hb)
    rw [isProxyAtOnce_of_call calls_goes]
    exact iff_of_false (Finset.notMem_erase _ _) Bool.false_ne_true
  · intro b hb _
    have hne : b ≠ record.backup := by
      rintro rfl
      exact hb hbackupOf
    exact ⟨Finset.mem_erase.trans (and_iff_right hne), Iff.rfl⟩
  · intro b
    show r.jitMovements.count (target, b) = _
    rw [h.movements, movementAtOnce_of_no_call hnone, movementAtOnce_of_call calls_goes]
    rfl
  · intro call b hcall hb
    rw [calls_goes] at hcall
    rw [← Option.some.inj hcall] at hb
    cases hb

/-- It takes out the proxy backup. -/
theorem eraseProxy (h : Linearized classDef s r)
    (hcall : s.calls.lookup target = some (.eraseProxy backup)) :
    Linearized classDef ({ s with
      backupedProxyMethods := s.backupedProxyMethods.erase backup }.goes target
        (some .eraseClass)) r := by
  obtain ⟨-, hbackupOf, -, -⟩ := h.interleaved.known_of_calls hcall
  refine h.update (sameOff_goes _ fun _ _ => rfl) (h.interleaved.eraseProxy hcall) h.atOnce
    h.methods ⟨h.deoptimizedMethods, h.deoptimizedClasses⟩ ?_ ?_ ?_ (fun t _ b => ⟨rfl, rfl⟩) ?_
  · intro b hb
    rw [backupOf_goes] at hb
    cases hb
  · intro b hb _
    have hne : b ≠ backup := by
      rintro rfl
      exact hb hbackupOf
    exact ⟨Iff.rfl, Finset.mem_erase.trans (and_iff_right hne)⟩
  · intro b
    rw [h.movements, movementAtOnce_of_call hcall, movementAtOnce_of_call calls_goes]
    rfl
  · intro call b hcall' hb
    rw [calls_goes] at hcall'
    rw [← Option.some.inj hcall'] at hb
    cases hb

/-- And it is done. -/
theorem eraseClass (h : Linearized classDef s r)
    (hcall : s.calls.lookup target = some .eraseClass) :
    Linearized classDef ({ s with
      hookedClasses :=
        Registry.eraseFromClass s.hookedClasses (classDef target) target }.goes target none)
      r := by
  obtain ⟨hmethod, -, -, -⟩ := h.interleaved.known_of_calls hcall
  refine h.update (sameOff_goes _ fun _ _ => rfl) (h.interleaved.eraseClass hcall) h.atOnce
    h.methods ⟨h.deoptimizedMethods, h.deoptimizedClasses⟩ ?_ (fun b _ _ => ⟨Iff.rfl, Iff.rfl⟩)
    ?_ (fun t _ b => ⟨rfl, rfl⟩) ?_
  · intro b hb
    rw [backupOf_done] at hb
    cases (congrArg (Option.map _) hmethod).symm.trans hb
  · intro b
    rw [h.movements, movementAtOnce_of_call hcall, movementAtOnce_of_no_call calls_goes]
    rfl
  · intro call b hcall'
    rw [calls_goes] at hcall'
    cases hcall'

end Linearized

/-! ## Runs -/

theorem linearized_initial : Linearized classDef .initial .empty where
  interleaved := interleaved_initial
  atOnce := interleaved_initial
  methods := rfl
  deoptimizedMethods := rfl
  deoptimizedClasses := rfl
  proxies t b hb := by cases hb
  movements t b := rfl
  unrecorded t call b hcall := by cases hcall

/-- **What a step does to the registries**, the calls made at once do at the
point where one takes effect, with the answer it gives. -/
theorem linearized_step (h : Linearized classDef s r) (hlegal : s.Admissible e) :
    (registryCalls classDef).Legal r (s.takesEffect e).toList ∧
      Linearized classDef (recordingStep classDef s e)
        ((registryCalls classDef).exec r (s.takesEffect e).toList) := by
  cases e with
  | hook target record isProxy =>
    by_cases hrefuses : s.Refuses target
    · -- it gives up at once, and would with the calls made at once
      have hrefuses' := (h.refuses_iff hlegal.2.2).2 hrefuses
      have hcall : r.call classDef (.hook target record isProxy) = (r, false) :=
        if_pos hrefuses'
      have hstep : recordingStep classDef s (.hook target record isProxy) = s := if_pos hrefuses
      simp only [takesEffect, if_pos hrefuses, Option.toList_some]
      rw [hstep]
      refine ⟨⟨congrArg Prod.snd hcall, trivial⟩, ?_⟩
      show Linearized classDef s (r.call classDef _).1
      rw [hcall]
      exact h
    · have hstep : recordingStep classDef s (.hook target record isProxy) =
          s.goes target (some (.addClass record isProxy)) := if_neg hrefuses
      simp only [takesEffect, if_neg hrefuses, Option.toList_none]
      rw [hstep]
      exact ⟨trivial, h.hook hlegal hrefuses⟩
  | unHook target =>
    refine ⟨⟨?_, trivial⟩, ?_⟩
    · show (r.call classDef (.unHook target)).2 = _
      rw [Registry.call, h.methods]
      cases s.hookedMethods.lookup target <;> rfl
    · show Linearized classDef _ (r.call classDef (.unHook target)).1
      rw [Registry.call, h.methods]
      cases hlookup : s.hookedMethods.lookup target with
      | none =>
        simp only [recordingStep, hlookup]
        exact h
      | some record =>
        simp only [recordingStep, hlookup]
        exact h.unHook hlegal hlookup
  | next target =>
    cases hcall : s.calls.lookup target with
    | none =>
      simp only [takesEffect, recordingStep, hcall]
      exact ⟨trivial, h⟩
    | some call =>
      simp only [takesEffect, recordingStep, hcall]
      cases call with
      | addClass record isProxy =>
        exact ⟨trivial, h.goesOn hcall (h.interleaved.addClass hcall) rfl rfl rfl rfl⟩
      | addMethod record isProxy =>
        obtain ⟨hnot, hnext⟩ := h.addMethod hcall
        have hdone : r.call classDef (.hook target record isProxy) =
            (r.hookAtOnce classDef target record isProxy, true) := if_neg hnot
        refine ⟨⟨congrArg Prod.snd hdone, trivial⟩, ?_⟩
        show Linearized classDef _ (r.call classDef _).1
        rw [hdone]
        exact hnext
      | addBackup record isProxy =>
        exact ⟨trivial, h.goesOn hcall (h.interleaved.addBackup hcall) rfl rfl
          (by cases isProxy <;> rfl) rfl⟩
      | addMovement record isProxy => exact ⟨trivial, h.addMovement hcall⟩
      | eraseBackup backup =>
        exact ⟨trivial, h.goesOn hcall (h.interleaved.eraseBackup hcall) rfl rfl rfl rfl⟩
      | eraseProxy backup => exact ⟨trivial, h.eraseProxy hcall⟩
      | eraseClass => exact ⟨trivial, h.eraseClass hcall⟩

/-- The sets of the classes are known by what is in them, if none is empty. -/
theorem classes_ext {classes classes' : Table ClassDefPtr (Finset ArtMethodPtr)}
    (hne : ∀ c ms, classes.lookup c = some ms → ms ≠ ∅)
    (hne' : ∀ c ms, classes'.lookup c = some ms → ms ≠ ∅)
    (heq : ∀ c, Registry.methodsOf classes c = Registry.methodsOf classes' c) :
    classes = classes' := by
  refine Finmap.ext_lookup fun c => ?_
  have hc := heq c
  unfold Registry.methodsOf at hc
  cases h : classes.lookup c with
  | none =>
    cases h' : classes'.lookup c with
    | none => rfl
    | some ms =>
      rw [h, h'] at hc
      exact absurd hc.symm (hne' c ms h')
  | some ms =>
    cases h' : classes'.lookup c with
    | none =>
      rw [h, h'] at hc
      exact absurd hc (hne c ms h)
    | some ms' =>
      rw [h, h'] at hc
      exact congrArg some hc

/-- **With no call in progress** the registries are those of the calls made at
once, but for the order of the JIT movements. -/
theorem Linearized.eq_of_quiet (h : Linearized classDef s r) (hquiet : s.calls.IsEmpty) :
    r.jitMovements.Perm s.jitMovements ∧
      { r with jitMovements := s.jitMovements } = s.toRegistry := by
  have hcalls : ∀ t, s.calls.lookup t = none := Table.isEmpty_iff.1 hquiet
  have hbackupOf : ∀ t b, s.backupOf t = some b ↔ s.isHooked t = some b := by
    intro t b
    rw [backupOf, known_of_no_call (hcalls t)]
    rfl
  have hbackups : r.backupedMethods = s.backupedMethods := by
    refine Finmap.ext_lookup fun b => Option.ext fun t => h.isBackup_iff.trans ?_
    refine Iff.trans ?_ (h.interleaved.backups t b).symm
    rw [backupedAs, known_of_no_call (hcalls t)]
    rfl
  have hclasses : r.hookedClasses = s.hookedClasses := by
    refine classes_ext h.atOnce.nonempty h.interleaved.nonempty fun c => Finset.ext fun t => ?_
    refine (h.atOnce.classes t c).trans (Iff.trans ?_ (h.interleaved.classes t c).symm)
    rw [inClass, inClass, known_quiet, known_of_no_call (hcalls t), h.methods]
  have hproxies : r.backupedProxyMethods = s.backupedProxyMethods := by
    refine Finset.ext fun b => ?_
    by_cases hb : ∃ t, s.backupOf t = some b
    · obtain ⟨t, ht⟩ := hb
      exact (h.proxies t b ht).trans (isProxyAtOnce_of_no_call (hcalls t))
    · refine iff_of_false (h.notMem_backupedProxyMethods fun t ht => ?_) fun hmem => ?_
      · exact hb ⟨t, (hbackupOf t b).2 ht⟩
      · exact hb (h.interleaved.proxies b hmem)
  constructor
  · refine List.perm_iff_count.2 fun p => ?_
    rw [h.movements p.1 p.2, movementAtOnce_of_no_call (hcalls p.1)]
    rfl
  · rw [hbackups, hclasses, hproxies, h.methods, h.deoptimizedMethods, h.deoptimizedClasses]

/-! ## Each call once -/

/-- A call that has begun and not taken effect. -/
def RecordingCall.waiting (target : ArtMethodPtr) : RecordingCall → Option (RegistryCall × Bool)
  | addClass record isProxy | addMethod record isProxy => some (.hook target record isProxy, true)
  | _ => none

/-- The one there is of a target. -/
def Recordings.waiting (s : Recordings) (t : ArtMethodPtr) : Option (RegistryCall × Bool) :=
  (s.calls.lookup t).bind (RecordingCall.waiting t)

theorem waiting_of_lookup {call? : Option RecordingCall} (hcall : s.calls.lookup t = call?) :
    s.waiting t = call?.bind (RecordingCall.waiting t) := by
  rw [Recordings.waiting, hcall]

/-- **A call that waits takes effect, and one that begins waits or does.** -/
theorem waiting_step (hlegal : s.Admissible e) :
    ((recordingStep classDef s e).waiting e.target).toList ++ (s.takesEffect e).toList =
      (s.waiting e.target).toList ++ (s.begins e).toList := by
  cases e with
  | hook target record isProxy =>
    have hnone : s.calls.lookup target = none := Finmap.lookup_eq_none.2 hlegal.1
    by_cases hrefuses : s.Refuses target
    · have hstep : recordingStep classDef s (.hook target record isProxy) = s := if_pos hrefuses
      simp only [takesEffect, begins, if_pos hrefuses, hstep, decide_eq_true hrefuses]
      rfl
    · have hstep : recordingStep classDef s (.hook target record isProxy) =
          s.goes target (some (.addClass record isProxy)) := if_neg hrefuses
      simp only [takesEffect, begins, if_neg hrefuses, hstep, decide_eq_false hrefuses]
      show ((s.goes target _).waiting target).toList ++ [] = (s.waiting target).toList ++ _
      rw [waiting_of_lookup calls_goes, waiting_of_lookup hnone]
      rfl
  | unHook target =>
    have hnone : s.calls.lookup target = none := Finmap.lookup_eq_none.2 hlegal
    refine congrArg (· ++ _) (congrArg Option.toList ?_)
    show (recordingStep classDef s (.unHook target)).waiting target = s.waiting target
    cases hlookup : s.hookedMethods.lookup target with
    | none => simp only [recordingStep, hlookup]
    | some record =>
      simp only [recordingStep, hlookup]
      rw [waiting_of_lookup calls_goes, waiting_of_lookup hnone]
      rfl
  | next target =>
    show ((recordingStep classDef s (.next target)).waiting target).toList ++ _ =
      (s.waiting target).toList ++ []
    cases hcall : s.calls.lookup target with
    | none =>
      simp only [recordingStep, takesEffect, hcall]
      rfl
    | some call =>
      rw [waiting_of_lookup hcall, waiting_of_lookup (recordingStep_next classDef hcall).2]
      simp only [takesEffect, hcall]
      cases call <;> rfl

/-- An event is about its target, and leaves the calls on others. -/
theorem waiting_step_of_ne (ht : t ≠ e.target) :
    (recordingStep classDef s e).waiting t = s.waiting t := by
  unfold Recordings.waiting
  refine congrArg (Option.bind · _) ?_
  cases e with
  | hook target record isProxy =>
    simp only [recordingStep]
    split
    · rfl
    · exact (lookup_goes _).trans (if_neg ht)
  | unHook target =>
    simp only [recordingStep]
    cases s.hookedMethods.lookup target with
    | none => rfl
    | some record => exact (lookup_goes _).trans (if_neg ht)
  | next target => exact recordingStep_next_of_ne ht

theorem target_of_mem_takesEffect {k : RegistryCall × Bool}
    (hk : k ∈ (s.takesEffect e).toList) : k.1.target = e.target := by
  rw [Option.mem_toList] at hk
  cases e with
  | hook target record isProxy =>
    simp only [takesEffect] at hk
    split at hk
    · cases hk
      rfl
    · cases hk
  | unHook target =>
    cases hk
    rfl
  | next target =>
    simp only [takesEffect] at hk
    split at hk
    · cases hk
      rfl
    · cases hk

theorem target_of_mem_begins {k : RegistryCall × Bool} (hk : k ∈ (s.begins e).toList) :
    k.1.target = e.target := by
  rw [Option.mem_toList] at hk
  cases e <;> cases hk <;> rfl

/-- **The account of a call**: as often as it has begun, it has taken effect or
waits. -/
theorem count_waiting_step (k : RegistryCall × Bool) (hlegal : s.Admissible e) :
    ((recordingStep classDef s e).waiting k.1.target).toList.count k +
        (s.takesEffect e).toList.count k =
      (s.waiting k.1.target).toList.count k + (s.begins e).toList.count k := by
  by_cases ht : k.1.target = e.target
  · rw [ht, ← List.count_append, ← List.count_append, waiting_step hlegal]
  · rw [waiting_step_of_ne ht, List.count_eq_zero.2 fun hk => ht (target_of_mem_takesEffect hk),
      List.count_eq_zero.2 fun hk => ht (target_of_mem_begins hk)]

theorem perm_begins {events : List RecordingEvent}
    (hL : (recordings classDef).Legal .initial events)
    (hquiet : ((recordings classDef).exec .initial events).calls.IsEmpty) :
    ((recordings classDef).points Recordings.takesEffect .initial events).Perm
      ((recordings classDef).points Recordings.begins .initial events) := by
  refine List.perm_iff_count.2 fun k => ?_
  let s := (recordings classDef).exec .initial events
  have hcount : (s.waiting k.1.target).toList.count k +
      ((recordings classDef).points Recordings.takesEffect .initial events).count k =
      (Recordings.initial.waiting k.1.target).toList.count k +
        ((recordings classDef).points Recordings.begins .initial events).count k :=
    Machine.count_points k (fun s => (s.waiting k.1.target).toList.count k)
      (fun _ _ hlegal => count_waiting_step k hlegal) hL
  rw [waiting_of_lookup (Table.isEmpty_iff.1 hquiet _)] at hcount
  have hnone : Recordings.initial.waiting k.1.target = none := rfl
  rw [hnone] at hcount
  simpa using hcount

/-- **The registries are linearizable.** However any number of calls are
interleaved, a container at a time, no two of them on one target and none
hooking the backup of a call in progress, there is an order of the calls, each
once it has begun and before it is done, in which each made at once gives the
answer it has given, and leaves the hooked methods as they are. Where no call is
in progress these are the calls there have been, and the registries are theirs,
but for the order of the JIT movements. -/
theorem registries_linearize {events : List RecordingEvent}
    (hL : (recordings classDef).Legal .initial events) :
    let s := (recordings classDef).exec .initial events
    let calls := (recordings classDef).points Recordings.takesEffect .initial events
    let r := (registryCalls classDef).exec .empty calls
    (registryCalls classDef).Legal .empty calls ∧ r.hookedMethods = s.hookedMethods ∧
      (s.calls.IsEmpty →
        calls.Perm ((recordings classDef).points Recordings.begins .initial events) ∧
          r.jitMovements.Perm s.jitMovements ∧
          { r with jitMovements := s.jitMovements } = s.toRegistry) := by
  intro s calls r
  obtain ⟨hlegal, hend⟩ := Machine.exec_points (N := registryCalls classDef)
    (R := Linearized classDef) (fun _ _ _ h hlegal => linearized_step h hlegal)
    linearized_initial hL
  exact ⟨hlegal, hend.methods, fun hquiet => ⟨perm_begins hL hquiet, hend.eq_of_quiet hquiet⟩⟩

/-- Two methods are hooked at once, the second begun later and done first, and
the first again while it is: the one is taken out before the other is in. -/
theorem registries_linearize_sample :
    let events : List RecordingEvent :=
      [.hook 110 ⟨210, 211, 65536, 0, true⟩ false, .hook 120 ⟨220, 221, 65560, 0, true⟩ true,
        .next 120, .next 110, .next 120, .next 120, .next 120, .unHook 120, .next 110, .next 120,
        .next 110, .next 120, .next 120, .next 110, .hook 110 ⟨230, 231, 65584, 0, true⟩ false]
    let calls := (recordings id).points Recordings.takesEffect .initial events
    calls = [(.hook 120 ⟨220, 221, 65560, 0, true⟩ true, true), (.unHook 120, true),
        (.hook 110 ⟨210, 211, 65536, 0, true⟩ false, true),
        (.hook 110 ⟨230, 231, 65584, 0, true⟩ false, false)] ∧
      (registryCalls id).Legal .empty calls ∧
      calls.Perm ((recordings id).points Recordings.begins .initial events) :=
  ⟨by decide, (registries_linearize (by decide)).1,
    ((registries_linearize (by decide)).2.2 (by decide)).1⟩

end LSPlant
