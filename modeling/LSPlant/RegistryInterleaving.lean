import LSPlant.Hook
import LSPlant.Library.Machine
/-!
# The registries under interleaving

`RecordHooked` and the first half of `UnHook` one container at a time. Each
container has a lock of its own and no lock is held from one to the next, so
any number of calls may be between two of theirs. Of one target there is one
call at a time, as the documentation asks for, and nobody hooks the backup of
a call in progress: a `Hook` has not returned it yet, and an `UnHook` is
disposing of it.

`Interleaved` is the invariant: where a call is says which containers know of
its target. Of a target with no call in progress all of them do, or none.
-/

namespace LSPlant

/-! ## Calls -/

/-- **What a call does next**, its target aside: `RecordHooked` has a class, a
method and a backup to record, and then there is a JIT movement or a proxy
backup; `UnHook`, once the method is gone, takes out the backup, the proxy
backup and the class. -/
inductive RecordingCall where
  | addClass (record : HookRecord) (isProxy : Bool)
  | addMethod (record : HookRecord) (isProxy : Bool)
  | addBackup (record : HookRecord) (isProxy : Bool)
  | addMovement (record : HookRecord) (isProxy : Bool)
  | eraseBackup (backup : ArtMethodPtr)
  | eraseProxy (backup : ArtMethodPtr)
  | eraseClass

namespace RecordingCall

/-- What `hooked_methods_` has of the target meanwhile. -/
def hookedRecord : RecordingCall → Option HookRecord
  | addBackup record _ | addMovement record _ => some record
  | _ => none

/-- What `backuped_methods_` has. -/
def backupedAs : RecordingCall → Option ArtMethodPtr
  | addMovement record _ => some record.backup
  | eraseBackup backup => some backup
  | _ => none

/-- The backup the call has to do with. -/
def backup : RecordingCall → Option ArtMethodPtr
  | addClass record _ | addMethod record _ | addBackup record _ | addMovement record _ =>
    some record.backup
  | eraseBackup backup | eraseProxy backup => some backup
  | eraseClass => none

/-- Whether `hooked_classes_` has the target. -/
def inClass : RecordingCall → Bool
  | addClass _ _ => false
  | _ => true

end RecordingCall

/-- **The registries and the calls in progress**, by their targets. -/
structure Recordings extends Registry where
  calls : Table ArtMethodPtr RecordingCall

/-- No call has begun. -/
def Recordings.initial : Recordings where
  toRegistry := .empty
  calls := ∅

/-- A call that begins, or one that does the next thing. A `Hook` begins with
its checks, an `UnHook` with taking out the method. -/
inductive RecordingEvent where
  | hook (target : ArtMethodPtr) (record : HookRecord) (isProxy : Bool)
  | unHook (target : ArtMethodPtr)
  | next (target : ArtMethodPtr)

section Machine

variable (classDef : ArtMethodPtr → ClassDefPtr) (s : Recordings)

/-- **The next thing a call does**, and what it does after that. -/
def Registry.recordNext (r : Registry) (target : ArtMethodPtr) :
    RecordingCall → Registry × Option RecordingCall
  | .addClass record isProxy =>
    ({ r with hookedClasses := Registry.addToClass r.hookedClasses (classDef target) target },
      some (.addMethod record isProxy))
  | .addMethod record isProxy =>
    ({ r with hookedMethods := Table.emplace r.hookedMethods target record },
      some (.addBackup record isProxy))
  | .addBackup record isProxy =>
    ({ r with backupedMethods := Table.emplace r.backupedMethods record.backup target },
      some (.addMovement record isProxy))
  | .addMovement record isProxy =>
    (if !isProxy then r.recordJitMovement target record.backup
      else { r with backupedProxyMethods := insert record.backup r.backupedProxyMethods }, none)
  | .eraseBackup backup =>
    ({ r with backupedMethods := r.backupedMethods.erase backup }, some (.eraseProxy backup))
  | .eraseProxy backup =>
    ({ r with backupedProxyMethods := r.backupedProxyMethods.erase backup }, some .eraseClass)
  | .eraseClass =>
    ({ r with hookedClasses := Registry.eraseFromClass r.hookedClasses (classDef target) target },
      none)

/-- The call goes on, or is done. -/
def Recordings.goes (target : ArtMethodPtr) (call : Option RecordingCall) : Recordings :=
  { s with calls := match call with
    | some call => s.calls.insert target call
    | none => s.calls.erase target }

/-- **One atomic step.** -/
def recordingStep : RecordingEvent → Recordings
  | .hook target record isProxy =>
    if s.isHooked target ≠ none ∨ s.isBackup target ≠ none then s
    else s.goes target (some (.addClass record isProxy))
  | .unHook target => match s.hookedMethods.lookup target with
    | none => s
    | some record =>
      { s with hookedMethods := s.hookedMethods.erase target }.goes target
        (some (.eraseBackup record.backup))
  | .next target => match s.calls.lookup target with
    | none => s
    | some call =>
      let (registry, next) := s.toRegistry.recordNext classDef target call
      { s with toRegistry := registry }.goes target next

/-- **A new stub**: its backup is none that is kept or worked on, and no method
that is hooked or worked on. -/
def Recordings.Fresh (target backup : ArtMethodPtr) : Prop :=
  backup ≠ target ∧ backup ∉ s.hookedMethods ∧ backup ∉ s.backupedMethods ∧
    backup ∉ s.backupedProxyMethods ∧ backup ∉ s.calls ∧
    Table.Forall s.calls fun _ call => call.backup ≠ some backup

instance Recordings.decidableFresh (target backup : ArtMethodPtr) :
    Decidable (s.Fresh target backup) :=
  inferInstanceAs (Decidable (_ ∧ _ ∧ _ ∧ _ ∧ _ ∧ _))

/-- **What is promised of the calls**: there is one at a time of a target, a
`Hook` has a backup of its own, and nobody hooks the backup of a call in
progress. -/
def Recordings.Admissible : RecordingEvent → Prop
  | .hook target record _ => target ∉ s.calls ∧ s.Fresh target record.backup ∧
    Table.Forall s.calls fun _ call => call.backup ≠ some target
  | .unHook target => target ∉ s.calls
  | .next _ => True

instance Recordings.decidableAdmissible : ∀ e, Decidable (s.Admissible e)
  | .hook target record _ =>
    inferInstanceAs (Decidable (target ∉ s.calls ∧ s.Fresh target record.backup ∧
      Table.Forall s.calls fun _ call => call.backup ≠ some target))
  | .unHook target => inferInstanceAs (Decidable (target ∉ s.calls))
  | .next _ => isTrue trivial

/-- **Calls by many threads**, as a machine. -/
def recordings : Machine Recordings RecordingEvent where
  step := recordingStep classDef
  admissible := Recordings.Admissible

instance Recordings.decidableLegal (e : RecordingEvent) :
    Decidable ((recordings classDef).admissible s e) :=
  inferInstanceAs (Decidable (s.Admissible e))

end Machine

/-! ## The invariant -/

namespace Recordings

variable (s : Recordings) (target : ArtMethodPtr)

/-- What there is of a target, by the call of it that is in progress or, if
there is none, by `hooked_methods_`. -/
def known {α : Type} (ofCall : RecordingCall → Option α) (ofRecord : HookRecord → α) : Option α :=
  match s.calls.lookup target with
  | some call => ofCall call
  | none => (s.hookedMethods.lookup target).map ofRecord

/-- Its backup in `backuped_methods_`. -/
def backupedAs : Option ArtMethodPtr := s.known target RecordingCall.backupedAs HookRecord.backup

/-- Its backup, whoever knows of it. -/
def backupOf : Option ArtMethodPtr := s.known target RecordingCall.backup HookRecord.backup

/-- Whether its class has it. -/
def inClass : Bool :=
  (s.known target (fun call => some call.inClass) fun _ => true).getD false

/-- A target of something: hooked, or of a call in progress. -/
def IsTarget : Prop := target ∈ s.calls ∨ target ∈ s.hookedMethods

end Recordings

/-- **The invariant.** -/
structure Interleaved (classDef : ArtMethodPtr → ClassDefPtr) (s : Recordings) : Prop where
  methods : ∀ t call, s.calls.lookup t = some call → s.hookedMethods.lookup t = call.hookedRecord
  backups : ∀ t b, s.backupedMethods.lookup b = some t ↔ s.backupedAs t = some b
  classes : ∀ t c, t ∈ Registry.methodsOf s.hookedClasses c ↔ c = classDef t ∧ s.inClass t = true
  nonempty : ∀ c ms, s.hookedClasses.lookup c = some ms → ms ≠ ∅
  proxies : ∀ b ∈ s.backupedProxyMethods, ∃ t, s.backupOf t = some b
  distinct : ∀ t t' b, s.backupOf t = some b → s.backupOf t' = some b → t = t'
  apart : ∀ t b, s.backupOf t = some b → ¬ s.IsTarget b

variable {classDef : ArtMethodPtr → ClassDefPtr} {s s' : Recordings} {target t b : ArtMethodPtr}
  {call : RecordingCall} {record : HookRecord} {isProxy : Bool} {c : ClassDefPtr}

namespace Recordings

section Known

variable {α : Type} {ofCall : RecordingCall → Option α} {ofRecord : HookRecord → α}

theorem known_of_call (h : s.calls.lookup t = some call) :
    s.known t ofCall ofRecord = ofCall call := by
  rw [known, h]

theorem known_of_no_call (h : s.calls.lookup t = none) :
    s.known t ofCall ofRecord = (s.hookedMethods.lookup t).map ofRecord := by
  rw [known, h]

end Known

theorem lookup_goes (next : Option RecordingCall) :
    (s.goes target next).calls.lookup t = if t = target then next else s.calls.lookup t := by
  cases next with
  | none => exact Table.lookup_erase_eq
  | some call => exact Table.lookup_insert_eq

/-- A backup in `backuped_methods_` is one someone knows of. -/
theorem backupOf_of_backupedAs (h : s.backupedAs t = some b) : s.backupOf t = some b := by
  unfold backupedAs backupOf at *
  cases hcall : s.calls.lookup t with
  | none =>
    rw [known_of_no_call hcall] at h ⊢
    exact h
  | some call =>
    rw [known_of_call hcall] at h ⊢
    cases call with
    | addMovement record isProxy => exact h
    | eraseBackup backup => exact h
    | _ => cases h

/-- **Nothing but one target is touched** of the calls and `hooked_methods_`. -/
structure SameOff (target : ArtMethodPtr) (s s' : Recordings) : Prop where
  calls : ∀ t ≠ target, s'.calls.lookup t = s.calls.lookup t
  methods : ∀ t ≠ target, s'.hookedMethods.lookup t = s.hookedMethods.lookup t

theorem SameOff.known {α : Type} {ofCall : RecordingCall → Option α} {ofRecord : HookRecord → α}
    (h : SameOff target s s') (ht : t ≠ target) :
    s'.known t ofCall ofRecord = s.known t ofCall ofRecord := by
  unfold Recordings.known
  rw [h.calls t ht, h.methods t ht]

theorem SameOff.isTarget (h : SameOff target s s') (ht : t ≠ target) :
    s'.IsTarget t ↔ s.IsTarget t := by
  unfold IsTarget
  rw [Table.mem_iff_lookup, Table.mem_iff_lookup, Table.mem_iff_lookup, Table.mem_iff_lookup,
    h.calls t ht, h.methods t ht]

end Recordings

namespace Interleaved

open Recordings

/-- **A step at one target** keeps the invariant if it does so there, makes no
backup known but a new one, and no method a target that is a backup. -/
theorem update (h : Interleaved classDef s) (hoff : SameOff target s s')
    (hmethods : ∀ call, s'.calls.lookup target = some call →
      s'.hookedMethods.lookup target = call.hookedRecord)
    (hbackups : ∀ t b, s'.backupedMethods.lookup b = some t ↔
      if t = target then s'.backupedAs target = some b else s.backupedMethods.lookup b = some t)
    (hclasses : ∀ t c, t ∈ Registry.methodsOf s'.hookedClasses c ↔
      if t = target then c = classDef target ∧ s'.inClass target = true
      else t ∈ Registry.methodsOf s.hookedClasses c)
    (hnonempty : ∀ c ms, s'.hookedClasses.lookup c = some ms → ms ≠ ∅)
    (hproxies : ∀ b ∈ s'.backupedProxyMethods, s'.backupOf target = some b ∨
      b ∈ s.backupedProxyMethods ∧ s.backupOf target ≠ some b)
    (hbackup : ∀ b, s'.backupOf target = some b → s.backupOf target = some b ∨
      (∀ t, s.backupOf t ≠ some b) ∧ ¬ s'.IsTarget b)
    (htarget : s'.IsTarget target → s.IsTarget target ∨ ∀ t, s.backupOf t ≠ some target) :
    Interleaved classDef s' := by
  -- a backup known before has not become a target
  have hold : ∀ t b, s.backupOf t = some b → ¬ s'.IsTarget b := by
    intro t b hb
    by_cases heq : b = target
    · subst heq
      intro htarget'
      rcases htarget htarget' with hbefore | hno
      · exact h.apart t b hb hbefore
      · exact hno t hb
    · rw [hoff.isTarget heq]
      exact h.apart t b hb
  have hsame : ∀ t ≠ target, s'.backupOf t = s.backupOf t := fun _ ht => hoff.known ht
  have hone : ∀ t b, s'.backupOf target = some b → s.backupOf t = some b → t = target := by
    intro t b hnew hb
    rcases hbackup b hnew with hbefore | ⟨hno, -⟩
    · exact h.distinct t target b hb hbefore
    · exact absurd hb (hno t)
  constructor
  · intro t call hcall
    by_cases ht : t = target
    · subst ht
      exact hmethods call hcall
    · rw [hoff.calls t ht] at hcall
      rw [hoff.methods t ht]
      exact h.methods t call hcall
  · intro t b
    rw [hbackups]
    split
    · rename_i ht
      rw [ht]
    · rename_i ht
      rw [h.backups, backupedAs, backupedAs, hoff.known ht]
  · intro t c
    rw [hclasses]
    split
    · rename_i ht
      rw [ht]
    · rename_i ht
      rw [h.classes, inClass, inClass, hoff.known ht]
  · exact hnonempty
  · intro b hb
    rcases hproxies b hb with hnew | ⟨hb, hnot⟩
    · exact ⟨target, hnew⟩
    · obtain ⟨t, ht⟩ := h.proxies b hb
      have hne : t ≠ target := by
        rintro rfl
        exact hnot ht
      exact ⟨t, (hsame t hne).trans ht⟩
  · intro t t' b hb hb'
    by_cases ht : t = target
    · by_cases ht' : t' = target
      · rw [ht, ht']
      · rw [hsame t' ht'] at hb'
        rw [ht] at hb
        rw [ht, hone t' b hb hb']
    · rw [hsame t ht] at hb
      by_cases ht' : t' = target
      · rw [ht'] at hb'
        rw [ht', hone t b hb' hb]
      · rw [hsame t' ht'] at hb'
        exact h.distinct t t' b hb hb'
  · intro t b hb
    by_cases ht : t = target
    · rw [ht] at hb
      rcases hbackup b hb with hbefore | ⟨-, hnot⟩
      · exact hold target b hbefore
      · exact hnot
    · rw [hsame t ht] at hb
      exact hold t b hb

/-! ## Steps -/

variable {r : Registry}

theorem sameOff_goes (next : Option RecordingCall)
    (h : ∀ t ≠ target, r.hookedMethods.lookup t = s.hookedMethods.lookup t) :
    SameOff target s ({ s with toRegistry := r }.goes target next) where
  calls _ ht := (lookup_goes next).trans (if_neg ht)
  methods := h

theorem calls_goes {next : Option RecordingCall} :
    (s.goes target next).calls.lookup target = next :=
  (lookup_goes next).trans (if_pos rfl)

/-- A backup not yet in `backuped_methods_` is nobody's there. -/
theorem lookup_backuped_of_backupOf (h : Interleaved classDef s)
    (hb : s.backupOf target = some b) (hnot : s.backupedAs target ≠ some b) :
    s.backupedMethods.lookup b = none := by
  rw [Option.eq_none_iff_forall_ne_some]
  intro t ht
  have hbackuped := (h.backups t b).1 ht
  have heq := h.distinct t target b (backupOf_of_backupedAs hbackuped) hb
  rw [heq] at hbackuped
  exact hnot hbackuped

/-- A step that leaves `backuped_methods_` and what is in it of the target. -/
theorem backups_same (h : Interleaved classDef s) (htable : s'.backupedMethods = s.backupedMethods)
    (hsame : s'.backupedAs target = s.backupedAs target) (t b : ArtMethodPtr) :
    s'.backupedMethods.lookup b = some t ↔
      if t = target then s'.backupedAs target = some b
      else s.backupedMethods.lookup b = some t := by
  rw [htable, hsame]
  split
  · rename_i ht
    rw [ht, h.backups]
  · rfl

/-- And one that leaves `hooked_classes_`. -/
theorem classes_same (h : Interleaved classDef s) (htable : s'.hookedClasses = s.hookedClasses)
    (hsame : s'.inClass target = s.inClass target) (t : ArtMethodPtr) (c : ClassDefPtr) :
    t ∈ Registry.methodsOf s'.hookedClasses c ↔
      if t = target then c = classDef target ∧ s'.inClass target = true
      else t ∈ Registry.methodsOf s.hookedClasses c := by
  rw [htable, hsame]
  split
  · rename_i ht
    rw [ht, h.classes]
  · rfl

/-- And one that leaves `backuped_proxy_methods_` and the backup of the target. -/
theorem proxies_same (htable : s'.backupedProxyMethods = s.backupedProxyMethods)
    (hsame : s'.backupOf target = s.backupOf target) (b : ArtMethodPtr)
    (hb : b ∈ s'.backupedProxyMethods) :
    s'.backupOf target = some b ∨ b ∈ s.backupedProxyMethods ∧ s.backupOf target ≠ some b := by
  rw [hsame]
  rw [htable] at hb
  by_cases heq : s.backupOf target = some b
  · exact Or.inl heq
  · exact Or.inr ⟨hb, heq⟩

theorem backup_same (hsame : s'.backupOf target = s.backupOf target) (b : ArtMethodPtr)
    (hb : s'.backupOf target = some b) :
    s.backupOf target = some b ∨ (∀ t, s.backupOf t ≠ some b) ∧ ¬ s'.IsTarget b :=
  Or.inl (hsame.symm.trans hb)

/-- What a call that is in progress says of its target. -/
theorem known_of_calls (h : Interleaved classDef s) (hcall : s.calls.lookup target = some call) :
    s.hookedMethods.lookup target = call.hookedRecord ∧ s.backupOf target = call.backup ∧
      s.backupedAs target = call.backupedAs ∧ s.inClass target = call.inClass :=
  ⟨h.methods target call hcall, known_of_call hcall, known_of_call hcall, by
    rw [inClass, known_of_call hcall]; rfl⟩

theorem isTarget_of_call (hcall : s.calls.lookup target = some call) : s.IsTarget target :=
  Or.inl (Table.mem_iff_lookup.2 ⟨call, hcall⟩)

theorem methods_goes (hrecord : s.hookedMethods.lookup target = call.hookedRecord)
    (next : RecordingCall)
    (hnext : (s.goes target (some call)).calls.lookup target = some next) :
    (s.goes target (some call)).hookedMethods.lookup target = next.hookedRecord := by
  rw [calls_goes] at hnext
  rw [← Option.some.inj hnext]
  exact hrecord

theorem backupOf_goes : (s.goes target (some call)).backupOf target = call.backup :=
  known_of_call calls_goes

theorem backupedAs_goes : (s.goes target (some call)).backupedAs target = call.backupedAs :=
  known_of_call calls_goes

theorem inClass_goes : (s.goes target (some call)).inClass target = call.inClass := by
  rw [inClass, known_of_call calls_goes]
  rfl

theorem addClass (h : Interleaved classDef s)
    (hcall : s.calls.lookup target = some (.addClass record isProxy)) :
    Interleaved classDef ({ s with
      hookedClasses := Registry.addToClass s.hookedClasses (classDef target) target }.goes target
        (some (.addMethod record isProxy))) := by
  obtain ⟨hrecord, hbackupOf, hbackupedAs, hinClass⟩ := h.known_of_calls hcall
  refine h.update (sameOff_goes _ fun _ _ => rfl) (methods_goes hrecord)
    (h.backups_same rfl (backupedAs_goes.trans hbackupedAs.symm)) ?_ ?_
    (proxies_same rfl (backupOf_goes.trans hbackupOf.symm))
    (backup_same (backupOf_goes.trans hbackupOf.symm))
    fun _ => Or.inl (isTarget_of_call hcall)
  · intro t c
    have hnot : target ∉ Registry.methodsOf s.hookedClasses c := by
      rw [h.classes, hinClass]
      exact fun hin => Bool.false_ne_true hin.2
    refine Registry.mem_addToClass.trans ?_
    rw [inClass_goes]
    split
    · rename_i ht
      rw [ht, or_iff_left hnot]
      exact and_congr_right fun _ => iff_of_true rfl rfl
    · rename_i ht
      exact or_iff_right fun hin => ht hin.2
  · intro c ms hlookup
    have hadd := Registry.lookup_addToClass.symm.trans hlookup
    split at hadd
    · rw [← Option.some.inj hadd]
      exact Finset.insert_ne_empty _ _
    · exact h.nonempty c ms hadd

theorem addMethod (h : Interleaved classDef s)
    (hcall : s.calls.lookup target = some (.addMethod record isProxy)) :
    Interleaved classDef ({ s with
      hookedMethods := Table.emplace s.hookedMethods target record }.goes target
        (some (.addBackup record isProxy))) := by
  obtain ⟨hrecord, hbackupOf, hbackupedAs, hinClass⟩ := h.known_of_calls hcall
  have hnot : target ∉ s.hookedMethods := Finmap.lookup_eq_none.1 hrecord
  refine h.update (sameOff_goes _ fun t ht => ?_)
    (methods_goes (Table.lookup_emplace_self hnot))
    (h.backups_same rfl (backupedAs_goes.trans hbackupedAs.symm))
    (h.classes_same rfl (inClass_goes.trans hinClass.symm)) h.nonempty
    (proxies_same rfl (backupOf_goes.trans hbackupOf.symm))
    (backup_same (backupOf_goes.trans hbackupOf.symm))
    fun _ => Or.inl (isTarget_of_call hcall)
  exact Table.lookup_emplace_eq.trans (if_neg fun heq => ht heq.1)

theorem addBackup (h : Interleaved classDef s)
    (hcall : s.calls.lookup target = some (.addBackup record isProxy)) :
    Interleaved classDef ({ s with
      backupedMethods := Table.emplace s.backupedMethods record.backup target }.goes target
        (some (.addMovement record isProxy))) := by
  obtain ⟨hrecord, hbackupOf, hbackupedAs, hinClass⟩ := h.known_of_calls hcall
  have hfree : s.backupedMethods.lookup record.backup = none :=
    h.lookup_backuped_of_backupOf hbackupOf (by rw [hbackupedAs]; exact nofun)
  refine h.update (sameOff_goes _ fun _ _ => rfl) (methods_goes hrecord) ?_
    (h.classes_same rfl (inClass_goes.trans hinClass.symm)) h.nonempty
    (proxies_same rfl (backupOf_goes.trans hbackupOf.symm))
    (backup_same (backupOf_goes.trans hbackupOf.symm))
    fun _ => Or.inl (isTarget_of_call hcall)
  intro t b
  have hown : s.backupedMethods.lookup b ≠ some target := by
    rw [Ne, h.backups, hbackupedAs]
    exact nofun
  have hlookup : (Table.emplace s.backupedMethods record.backup target).lookup b =
      if b = record.backup then some target else s.backupedMethods.lookup b := by
    rw [Table.lookup_emplace_eq]
    simp [Finmap.lookup_eq_none.1 hfree]
  rw [backupedAs_goes]
  refine (Eq.congr_left hlookup).trans ?_
  by_cases hb : b = record.backup
  · rw [if_pos hb, hb, hfree]
    split
    · rename_i ht
      rw [ht]
      exact iff_of_true rfl rfl
    · rename_i ht
      exact iff_of_false (fun heq => ht (Option.some.inj heq).symm) nofun
  · rw [if_neg hb]
    split
    · rename_i ht
      rw [ht]
      exact iff_of_false hown fun heq => hb (Option.some.inj heq).symm
    · rfl

theorem backupOf_done : (s.goes target none).backupOf target =
    (s.hookedMethods.lookup target).map HookRecord.backup := known_of_no_call calls_goes

theorem backupedAs_done : (s.goes target none).backupedAs target =
    (s.hookedMethods.lookup target).map HookRecord.backup := known_of_no_call calls_goes

theorem inClass_done : (s.goes target none).inClass target =
    (s.hookedMethods.lookup target).isSome := by
  rw [inClass, known_of_no_call calls_goes]
  show (Option.map _ (s.hookedMethods.lookup target)).getD false = _
  cases s.hookedMethods.lookup target <;> rfl

/-- A call that is done has nothing more to say of its target. -/
theorem methods_done (next : RecordingCall)
    (hnext : (s.goes target none).calls.lookup target = some next) :
    (s.goes target none).hookedMethods.lookup target = next.hookedRecord := by
  rw [calls_goes] at hnext
  cases hnext

/-- The last thing `Hook` does is to no table of these. -/
theorem addMovement (h : Interleaved classDef s)
    (hcall : s.calls.lookup target = some (.addMovement record isProxy))
    (hmethods : r.hookedMethods = s.hookedMethods)
    (hbackups : r.backupedMethods = s.backupedMethods)
    (hclasses : r.hookedClasses = s.hookedClasses)
    (hproxies : ∀ b ∈ r.backupedProxyMethods, b = record.backup ∨ b ∈ s.backupedProxyMethods) :
    Interleaved classDef ({ s with toRegistry := r }.goes target none) := by
  obtain ⟨hrecord, hbackupOf, hbackupedAs, hinClass⟩ := h.known_of_calls hcall
  have hlookup : r.hookedMethods.lookup target = some record := by rw [hmethods]; exact hrecord
  have hsame : ({ s with toRegistry := r }.goes target none).backupOf target =
      some record.backup := by rw [backupOf_done]; exact congrArg (Option.map _) hlookup
  refine h.update (sameOff_goes _ fun t _ => by rw [hmethods]) methods_done
    (h.backups_same hbackups ?_) (h.classes_same hclasses ?_) ?_ ?_
    (backup_same (hsame.trans hbackupOf.symm)) fun _ => Or.inl (isTarget_of_call hcall)
  · rw [backupedAs_done, hbackupedAs]
    exact congrArg (Option.map _) hlookup
  · rw [inClass_done, hinClass]
    exact congrArg Option.isSome hlookup
  · intro c ms hc
    exact h.nonempty c ms (by rw [← hclasses]; exact hc)
  · intro b hb
    rw [hsame, hbackupOf]
    rcases hproxies b hb with heq | hmem
    · exact Or.inl (congrArg some heq.symm)
    · by_cases heq : record.backup = b
      · exact Or.inl (congrArg some heq)
      · exact Or.inr ⟨hmem, fun hsome => heq (Option.some.inj hsome)⟩

theorem eraseBackup {backup : ArtMethodPtr} (h : Interleaved classDef s)
    (hcall : s.calls.lookup target = some (.eraseBackup backup)) :
    Interleaved classDef ({ s with
      backupedMethods := s.backupedMethods.erase backup }.goes target
        (some (.eraseProxy backup))) := by
  obtain ⟨hrecord, hbackupOf, hbackupedAs, hinClass⟩ := h.known_of_calls hcall
  refine h.update (sameOff_goes _ fun _ _ => rfl) (methods_goes hrecord) ?_
    (h.classes_same rfl (inClass_goes.trans hinClass.symm)) h.nonempty
    (proxies_same rfl (backupOf_goes.trans hbackupOf.symm))
    (backup_same (backupOf_goes.trans hbackupOf.symm))
    fun _ => Or.inl (isTarget_of_call hcall)
  intro t b
  have hlookup : (s.backupedMethods.erase backup).lookup b =
      if b = backup then none else s.backupedMethods.lookup b := Table.lookup_erase_eq
  rw [backupedAs_goes]
  refine (Eq.congr_left hlookup).trans ?_
  have howner : s.backupedMethods.lookup backup = some target :=
    (h.backups target backup).2 hbackupedAs
  by_cases hb : b = backup
  · rw [if_pos hb, hb, howner]
    split
    · exact iff_of_false nofun nofun
    · rename_i ht
      exact iff_of_false nofun fun heq => ht (Option.some.inj heq).symm
  · rw [if_neg hb]
    split
    · rename_i ht
      rw [ht, h.backups, hbackupedAs]
      exact iff_of_false (fun heq => hb (Option.some.inj heq).symm) nofun
    · rfl

theorem eraseProxy {backup : ArtMethodPtr} (h : Interleaved classDef s)
    (hcall : s.calls.lookup target = some (.eraseProxy backup)) :
    Interleaved classDef ({ s with
      backupedProxyMethods := s.backupedProxyMethods.erase backup }.goes target
        (some .eraseClass)) := by
  obtain ⟨hrecord, hbackupOf, hbackupedAs, hinClass⟩ := h.known_of_calls hcall
  refine h.update (sameOff_goes _ fun _ _ => rfl) (methods_goes hrecord)
    (h.backups_same rfl (backupedAs_goes.trans hbackupedAs.symm))
    (h.classes_same rfl (inClass_goes.trans hinClass.symm)) h.nonempty ?_ ?_
    fun _ => Or.inl (isTarget_of_call hcall)
  · intro b hb
    obtain ⟨hne, hmem⟩ := Finset.mem_erase.1 hb
    rw [hbackupOf]
    exact Or.inr ⟨hmem, fun heq => hne (Option.some.inj heq).symm⟩
  · intro b hb
    rw [backupOf_goes] at hb
    cases hb

theorem eraseClass (h : Interleaved classDef s)
    (hcall : s.calls.lookup target = some .eraseClass) :
    Interleaved classDef ({ s with
      hookedClasses :=
        Registry.eraseFromClass s.hookedClasses (classDef target) target }.goes target none) := by
  obtain ⟨hrecord, hbackupOf, hbackupedAs, hinClass⟩ := h.known_of_calls hcall
  refine h.update (sameOff_goes _ fun _ _ => rfl) methods_done (h.backups_same rfl ?_) ?_ ?_
    (proxies_same rfl ?_) (backup_same ?_) fun _ => Or.inl (isTarget_of_call hcall)
  · rw [backupedAs_done, hbackupedAs]
    exact congrArg (Option.map _) hrecord
  · intro t c
    refine Registry.mem_eraseFromClass.trans ?_
    rw [inClass_done]
    split
    · rename_i ht
      rw [ht, h.classes]
      refine iff_of_false (fun hin => hin.2 ⟨hin.1.1, rfl⟩) fun hin => ?_
      have hsome := hin.2
      rw [show _ = _ from hrecord] at hsome
      cases hsome
    · rename_i ht
      exact and_iff_left fun heq => ht heq.2
  · exact fun _ _ => Registry.eraseFromClass_ne_empty h.nonempty
  · rw [backupOf_done, hbackupOf]
    exact congrArg (Option.map _) hrecord
  · rw [backupOf_done, hbackupOf]
    exact congrArg (Option.map _) hrecord

/-- **The next thing a call does** keeps the invariant. -/
theorem next (h : Interleaved classDef s) (target : ArtMethodPtr) :
    Interleaved classDef (recordingStep classDef s (.next target)) := by
  rcases hcall : s.calls.lookup target with _ | call
  · simp only [recordingStep, hcall]
    exact h
  simp only [recordingStep, hcall]
  cases call with
  | addClass record isProxy => exact h.addClass hcall
  | addMethod record isProxy => exact h.addMethod hcall
  | addBackup record isProxy => exact h.addBackup hcall
  | addMovement record isProxy =>
    cases isProxy with
    | false => exact h.addMovement hcall rfl rfl rfl fun b hb => Or.inr hb
    | true => exact h.addMovement hcall rfl rfl rfl fun b hb => Finset.mem_insert.1 hb
  | eraseBackup backup => exact h.eraseBackup hcall
  | eraseProxy backup => exact h.eraseProxy hcall
  | eraseClass => exact h.eraseClass hcall

/-- The backup of a hooked method is known of. -/
theorem backupOf_of_isHooked (h : Interleaved classDef s) (hb : s.isHooked t = some b) :
    s.backupOf t = some b := by
  cases hcall : s.calls.lookup t with
  | none =>
    rw [backupOf, known_of_no_call hcall]
    exact hb
  | some call =>
    have hrecord := h.methods t call hcall
    rw [Registry.isHooked, hrecord] at hb
    rw [backupOf, known_of_call hcall]
    cases call with
    | addBackup record isProxy => exact hb
    | addMovement record isProxy => exact hb
    | _ => cases hb

/-- A backup that is known is in `backuped_methods_` or one of a call in
progress. -/
theorem known_backup (h : Interleaved classDef s) (hb : s.backupOf t = some b) :
    s.backupedMethods.lookup b = some t ∨
      ∃ call, s.calls.lookup t = some call ∧ call.backup = some b := by
  cases hcall : s.calls.lookup t with
  | none =>
    refine Or.inl ((h.backups t b).2 ?_)
    rw [backupedAs, known_of_no_call hcall]
    rw [backupOf, known_of_no_call hcall] at hb
    exact hb
  | some call =>
    rw [backupOf, known_of_call hcall] at hb
    exact Or.inr ⟨call, rfl, hb⟩

/-- **A `Hook` that begins** keeps the invariant. -/
theorem hook (h : Interleaved classDef s)
    (hlegal : s.Admissible (.hook target record isProxy)) :
    Interleaved classDef (recordingStep classDef s (.hook target record isProxy)) := by
  obtain ⟨hcalls, ⟨hne, hmethod, hbacked, -, hcall, hcallBackups⟩, hcallBackups'⟩ := hlegal
  by_cases hcheck : s.isHooked target ≠ none ∨ s.isBackup target ≠ none
  · simp only [recordingStep, if_pos hcheck]
    exact h
  simp only [recordingStep, if_neg hcheck]
  rw [not_or, not_not, not_not] at hcheck
  have hnone : s.calls.lookup target = none := Finmap.lookup_eq_none.2 hcalls
  have hunhooked : s.hookedMethods.lookup target = none :=
    Finmap.lookup_eq_none.2 (Registry.isHooked_eq_none.1 hcheck.1)
  have hbackupOf : s.backupOf target = none := by
    rw [backupOf, known_of_no_call hnone, hunhooked]; rfl
  have hbackupedAs : s.backupedAs target = none := by
    rw [backupedAs, known_of_no_call hnone, hunhooked]; rfl
  have hinClass : s.inClass target = false := by
    rw [inClass, known_of_no_call hnone, hunhooked]; rfl
  refine h.update (sameOff_goes _ fun _ _ => rfl) (methods_goes hunhooked)
    (h.backups_same rfl (backupedAs_goes.trans hbackupedAs.symm))
    (h.classes_same rfl (inClass_goes.trans hinClass.symm)) h.nonempty ?_ ?_ fun _ => Or.inr ?_
  · intro b hb
    rw [hbackupOf]
    exact Or.inr ⟨hb, nofun⟩
  · intro b hb
    obtain rfl : record.backup = b := Option.some.inj (backupOf_goes.symm.trans hb)
    refine Or.inr ⟨fun t ht => ?_, ?_⟩
    · rcases h.known_backup ht with hbackup | ⟨call, hcall', hbackup⟩
      · exact hbacked (Table.mem_iff_lookup.2 ⟨t, hbackup⟩)
      · exact Table.forall_iff.1 hcallBackups t call hcall' hbackup
    · rw [(sameOff_goes (r := s.toRegistry) _ fun _ _ => rfl).isTarget hne]
      rintro (hin | hin)
      · exact hcall hin
      · exact hmethod hin
  · intro t ht
    rcases h.known_backup ht with hbackup | ⟨call, hcall', hbackup⟩
    · rw [show s.backupedMethods.lookup target = none from hcheck.2] at hbackup
      cases hbackup
    · exact Table.forall_iff.1 hcallBackups' t call hcall' hbackup

/-- **An `UnHook` that begins** keeps the invariant. -/
theorem unHook (h : Interleaved classDef s) (hlegal : target ∉ s.calls) :
    Interleaved classDef (recordingStep classDef s (.unHook target)) := by
  have hnone : s.calls.lookup target = none := Finmap.lookup_eq_none.2 hlegal
  rcases hlookup : s.hookedMethods.lookup target with _ | record
  · simp only [recordingStep, hlookup]
    exact h
  simp only [recordingStep, hlookup]
  have hbackupOf : s.backupOf target = some record.backup := by
    rw [backupOf, known_of_no_call hnone, hlookup]; rfl
  have hbackupedAs : s.backupedAs target = some record.backup := by
    rw [backupedAs, known_of_no_call hnone, hlookup]; rfl
  have hinClass : s.inClass target = true := by
    rw [inClass, known_of_no_call hnone, hlookup]; rfl
  refine h.update (sameOff_goes _ fun t ht => Finmap.lookup_erase_ne ht)
    (methods_goes (Finmap.lookup_erase target _))
    (h.backups_same rfl (backupedAs_goes.trans hbackupedAs.symm))
    (h.classes_same rfl (inClass_goes.trans hinClass.symm)) h.nonempty
    (proxies_same rfl (backupOf_goes.trans hbackupOf.symm))
    (backup_same (backupOf_goes.trans hbackupOf.symm))
    fun _ => Or.inl (Or.inr (Table.mem_iff_lookup.2 ⟨record, hlookup⟩))

end Interleaved

/-! ## Runs -/

theorem interleaved_initial : Interleaved classDef .initial where
  methods t call hcall := by cases hcall
  backups t b := iff_of_false nofun nofun
  classes t c := iff_of_false (Finset.notMem_empty t) fun hin => Bool.false_ne_true hin.2
  nonempty c ms hc := by cases hc
  proxies b hb := absurd hb (Finset.notMem_empty b)
  distinct t t' b hb := by cases hb
  apart t b hb := by cases hb

theorem interleaved_step (s : Recordings) (e : RecordingEvent) (h : Interleaved classDef s)
    (hlegal : s.Admissible e) : Interleaved classDef (recordingStep classDef s e) := by
  cases e with
  | hook target record isProxy => exact h.hook hlegal
  | unHook target => exact h.unHook hlegal
  | next target => exact h.next target

theorem interleaved_exec {events : List RecordingEvent}
    (hL : (recordings classDef).Legal .initial events) :
    Interleaved classDef ((recordings classDef).exec .initial events) :=
  Machine.exec_of_eachStep interleaved_step interleaved_initial hL

@[simp] theorem recordings_step {e : RecordingEvent} :
    (recordings classDef).step s e = recordingStep classDef s e := rfl

variable (classDef) in
/-- A call that goes on. -/
theorem recordingStep_next (hcall : s.calls.lookup target = some call) :
    (recordingStep classDef s (.next target)).toRegistry =
        (s.toRegistry.recordNext classDef target call).1 ∧
      (recordingStep classDef s (.next target)).calls.lookup target =
        (s.toRegistry.recordNext classDef target call).2 := by
  simp only [recordingStep, hcall]
  exact ⟨rfl, Interleaved.calls_goes⟩

/-- **The registries agree under every interleaving.** In every state that any
number of threads get to, hooking and unhooking at once, a container at a time,
no two of them one target and none of them the backup of a call in progress: no
method is hooked and a backup, a backup is not hooked itself and has one target,
and of a method with no call in progress the three tables say the same. Where no
call is in progress, proxy backups are backups. -/
theorem registries_interleave {events : List RecordingEvent}
    (hL : (recordings classDef).Legal .initial events) :
    let s := (recordings classDef).exec .initial events
    (∀ m, ¬ (m ∈ s.hookedMethods ∧ m ∈ s.backupedMethods)) ∧
      (∀ t b, s.isHooked t = some b → s.isHooked b = none) ∧
      (∀ t t' b, s.isHooked t = some b → s.isHooked t' = some b → t = t') ∧
      (∀ t, t ∉ s.calls → (∀ b, s.isHooked t = some b ↔ s.isBackup b = some t) ∧
        ∀ c, t ∈ Registry.methodsOf s.hookedClasses c ↔ t ∈ s.hookedMethods ∧ c = classDef t) ∧
      (∀ c ms, s.hookedClasses.lookup c = some ms → ms ≠ ∅) ∧
      (s.calls.IsEmpty → ∀ b ∈ s.backupedProxyMethods, b ∈ s.backupedMethods) := by
  intro s
  have h : Interleaved classDef s := interleaved_exec hL
  have hquiet : ∀ t, s.calls.lookup t = none → s.backupedAs t = s.isHooked t :=
    fun t hcall => Recordings.known_of_no_call hcall
  refine ⟨?_, ?_, ?_, ?_, h.nonempty, ?_⟩
  · rintro m ⟨hhooked, hbackup⟩
    obtain ⟨t, ht⟩ := Table.mem_iff_lookup.1 hbackup
    have hknown := Recordings.backupOf_of_backupedAs ((h.backups t m).1 ht)
    exact h.apart t m hknown (Or.inr hhooked)
  · intro t b hb
    rw [Registry.isHooked_eq_none]
    exact fun hhooked => h.apart t b (h.backupOf_of_isHooked hb) (Or.inr hhooked)
  · intro t t' b hb hb'
    exact h.distinct t t' b (h.backupOf_of_isHooked hb) (h.backupOf_of_isHooked hb')
  · intro t ht
    have hcall : s.calls.lookup t = none := Finmap.lookup_eq_none.2 ht
    refine ⟨fun b => ?_, fun c => ?_⟩
    · rw [← hquiet t hcall]
      exact (h.backups t b).symm
    · rw [h.classes, Recordings.inClass, Recordings.known_of_no_call hcall, and_comm,
        Table.mem_iff_lookup]
      refine and_congr_left fun _ => ?_
      cases s.hookedMethods.lookup t <;> simp
  · intro hempty b hb
    obtain ⟨t, ht⟩ := h.proxies b hb
    have hcall : s.calls.lookup t = none := Table.isEmpty_iff.1 hempty t
    rw [Recordings.backupOf, Recordings.known_of_no_call hcall] at ht
    exact Table.mem_iff_lookup.2 ⟨t, (h.backups t b).2 ((hquiet t hcall).trans ht)⟩

/-- An interleaving it is about: a second method is hooked and taken out again
in the middle of the first's `Hook`. -/
theorem registries_interleave_sample :
    let s := (recordings id).exec .initial
      [.hook 110 ⟨210, 211, 65536, 0, true⟩ false, .hook 120 ⟨220, 221, 65560, 0, true⟩ true,
        .next 120, .next 110, .next 120, .next 120, .next 110, .next 120, .unHook 120, .next 110,
        .next 120]
    s.isHooked 110 = some 211 ∧ s.isBackup 211 = some 110 ∧ 110 ∈ s.calls ∧ 120 ∈ s.calls ∧
      ∀ m, ¬ (m ∈ s.hookedMethods ∧ m ∈ s.backupedMethods) :=
  ⟨by decide, by decide, by decide, by decide, (registries_interleave (by decide)).1⟩

end LSPlant
