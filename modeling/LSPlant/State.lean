import LSPlant.Common
import LSPlant.Trampoline.Pool
/-!
# The state

Everything a call into LSPlant or an intercepted ART function can read or
change: the registries, the method records, the trampoline pool, the
snapshots of classes under initialisation, the method ids LSPlant calls
the runtime through, and ART's own table of which method owns which
compiled code.
-/

namespace LSPlant

/-- `mirror::Class::BackupMethods`: entry points by method. -/
abbrev BackupMethods := Table ArtMethodPtr EntryPoint

/-- **The state of the process**, as far as LSPlant is concerned. -/
structure State extends Registry where
  heap : ArtMethodPtr → ArtMethod
  trampolines : Trampolines
  backupMethods : Table ThreadPtr (Table ClassDefPtr BackupMethods)
  internalMethods : List ℕ
  codeOwner : ℕ → ArtMethodPtr

namespace State

/-- A process LSPlant has just been loaded into. -/
def initial (heap : ArtMethodPtr → ArtMethod) (mem : Memory) (internalMethods : List ℕ)
    (codeOwner : ℕ → ArtMethodPtr) : State where
  toRegistry := .empty
  heap := heap
  trampolines := { pool := 0, pages := ∅, mem := mem }
  backupMethods := ∅
  internalMethods := internalMethods
  codeOwner := codeOwner

variable (art : Art) (s : State) (m : ArtMethodPtr)

/-- `method->GetDeclaringClass()->GetClassDef()`. -/
def classDef : ClassDefPtr := art.getClassDef (s.heap m).declaringClass

/-- One method record rewritten. -/
def modify (f : ArtMethod → ArtMethod) : State :=
  { s with heap := Function.update s.heap m (f (s.heap m)) }

/-- `method->GetEntryPoint()`. -/
def getEntryPoint : EntryPoint := (s.heap m).entryPoint

/-- `method->GetData()`. -/
def getData : ℕ := (s.heap m).data

def setEntryPoint (entryPoint : EntryPoint) : State :=
  s.modify m (·.setEntryPoint art entryPoint)

def setData (data : ℕ) : State := s.modify m (·.setData data)

/-- ART itself installs code on a method. -/
def artSetEntryPoint (code : ℕ) : State := s.modify m ({ · with entryPoint := .code code })

/-- The view of a method's record. -/
def view : ArtMethod.View := (s.heap m).view

/-! ## Reading after a write -/

variable {art} {s} {m} {n : ArtMethodPtr} {f : ArtMethod → ArtMethod} {e : EntryPoint} {c d : ℕ}

theorem view_entryPoint : (s.view m).entryPoint = s.getEntryPoint m := rfl

theorem view_data : (s.view m).data = s.getData m := rfl

@[simp] theorem modify_toRegistry : (s.modify m f).toRegistry = s.toRegistry := rfl
@[simp] theorem modify_trampolines : (s.modify m f).trampolines = s.trampolines := rfl
@[simp] theorem modify_backupMethods : (s.modify m f).backupMethods = s.backupMethods := rfl
@[simp] theorem modify_codeOwner : (s.modify m f).codeOwner = s.codeOwner := rfl

theorem heap_modify : (s.modify m f).heap n = if n = m then f (s.heap m) else s.heap n := by
  simp [modify, Function.update_apply]

theorem view_modify : (s.modify m f).view n = if n = m then (f (s.heap m)).view else s.view n := by
  rw [view, heap_modify]
  split <;> rfl

/-- A setter that leaves views alone leaves the view of the state alone. -/
theorem view_modify_of_view (h : ∀ r, (f r).view = r.view) : (s.modify m f).view n = s.view n := by
  rw [view_modify]
  split
  · subst n; exact h _
  · rfl

theorem view_setEntryPoint : (s.setEntryPoint art m e).view n =
    if n = m then { s.view m with entryPoint := e } else s.view n := view_modify

theorem view_setData : (s.setData m d).view n =
    if n = m then { s.view m with data := d } else s.view n := view_modify

theorem view_artSetEntryPoint : (s.artSetEntryPoint m c).view n =
    if n = m then { s.view m with entryPoint := .code c } else s.view n := view_modify

@[simp] theorem setEntryPoint_toRegistry :
    (s.setEntryPoint art m e).toRegistry = s.toRegistry := rfl

@[simp] theorem setData_toRegistry : (s.setData m d).toRegistry = s.toRegistry := rfl

@[simp] theorem artSetEntryPoint_toRegistry :
    (s.artSetEntryPoint m c).toRegistry = s.toRegistry := rfl

theorem getEntryPoint_setEntryPoint :
    (s.setEntryPoint art m e).getEntryPoint n = if n = m then e else s.getEntryPoint n := by
  rw [← view_entryPoint, view_setEntryPoint]
  split <;> rfl

theorem getEntryPoint_setEntryPoint_of_ne (h : n ≠ m) :
    (s.setEntryPoint art m e).getEntryPoint n = s.getEntryPoint n := by
  rw [getEntryPoint_setEntryPoint, if_neg h]

@[simp] theorem getEntryPoint_setData : (s.setData m d).getEntryPoint n = s.getEntryPoint n := by
  rw [← view_entryPoint, view_setData]
  split
  · subst n; rfl
  · rfl

theorem getEntryPoint_artSetEntryPoint :
    (s.artSetEntryPoint m c).getEntryPoint n = if n = m then .code c else s.getEntryPoint n := by
  rw [← view_entryPoint, view_artSetEntryPoint]
  split <;> rfl

theorem getData_setData : (s.setData m d).getData n = if n = m then d else s.getData n := by
  rw [← view_data, view_setData]
  split <;> rfl

@[simp] theorem getData_setEntryPoint : (s.setEntryPoint art m e).getData n = s.getData n := by
  rw [← view_data, view_setEntryPoint]
  split
  · subst n; rfl
  · rfl

@[simp] theorem getData_artSetEntryPoint : (s.artSetEntryPoint m c).getData n = s.getData n := by
  rw [← view_data, view_artSetEntryPoint]
  split
  · subst n; rfl
  · rfl

/-! ## What setters leave alone -/

/-- Nothing but method records differs. -/
def OnlyHeap (s t : State) : Prop := t = { s with heap := t.heap }

theorem OnlyHeap.refl (s : State) : s.OnlyHeap s := rfl

theorem OnlyHeap.trans {s t u : State} (h : s.OnlyHeap t) (h' : t.OnlyHeap u) : s.OnlyHeap u := by
  unfold OnlyHeap at h h' ⊢
  rw [h', h]

theorem onlyHeap_modify : s.OnlyHeap (s.modify m f) := rfl

section OnlyHeap

variable {t : State} (h : s.OnlyHeap t)
include h

theorem OnlyHeap.toRegistry : t.toRegistry = s.toRegistry := by rw [h]

theorem OnlyHeap.trampolines : t.trampolines = s.trampolines := by rw [h]

theorem OnlyHeap.backupMethods : t.backupMethods = s.backupMethods := by rw [h]

theorem OnlyHeap.codeOwner : t.codeOwner = s.codeOwner := by rw [h]

end OnlyHeap

/-! ## What methods they are -/

/-- What no setter of entry points or data pointers touches: which kind of
method each is and which class declares it. -/
def SameMethods (s t : State) : Prop :=
  ∀ n, (s.view n).kind = (t.view n).kind ∧ (s.view n).declaringClass = (t.view n).declaringClass

theorem SameMethods.refl (s : State) : s.SameMethods s := fun _ => ⟨rfl, rfl⟩

theorem SameMethods.trans {s t u : State} (h : s.SameMethods t) (h' : t.SameMethods u) :
    s.SameMethods u :=
  fun n => ⟨(h n).1.trans (h' n).1, (h n).2.trans (h' n).2⟩

theorem sameMethods_setEntryPoint : (s.setEntryPoint art m e).SameMethods s := fun n => by
  rw [view_setEntryPoint]
  split
  · subst n; exact ⟨rfl, rfl⟩
  · exact ⟨rfl, rfl⟩

theorem sameMethods_setData : (s.setData m d).SameMethods s := fun n => by
  rw [view_setData]
  split
  · subst n; exact ⟨rfl, rfl⟩
  · exact ⟨rfl, rfl⟩

theorem sameMethods_artSetEntryPoint : (s.artSetEntryPoint m c).SameMethods s := fun n => by
  rw [view_artSetEntryPoint]
  split
  · subst n; exact ⟨rfl, rfl⟩
  · exact ⟨rfl, rfl⟩

theorem classDef_congr {s t : State}
    (h : (s.view n).declaringClass = (t.view n).declaringClass) :
    s.classDef art n = t.classDef art n := congrArg art.getClassDef h

theorem isStatic_congr {s t : State} (h : (s.view n).kind = (t.view n).kind) :
    (s.heap n).isStatic = (t.heap n).isStatic := ArtMethod.isStatic_congr h

theorem isNative_congr {s t : State} (h : (s.view n).kind = (t.view n).kind) :
    (s.heap n).isNative = (t.heap n).isNative := ArtMethod.isNative_congr h

end State

end LSPlant
