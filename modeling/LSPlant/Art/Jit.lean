import LSPlant.State
/-!
# Jit

The interceptor of `Jit::MapBootImageMethods` in `jit.cxx`: the methods
LSPlant has changed are dressed up as what they were, ART remaps the boot
image's methods, and what it changed is sent where it belongs. A local
map keeps what each method looked like; a method that is deoptimized and
hooked is entered in it twice, and the second entry stays.
-/

namespace LSPlant

/-- An entry of the local map: the backup of a hooked method or none,
data pointer and entry point. -/
structure SavedMethod where
  backup : Option ArtMethodPtr
  data : ℕ
  entryPoint : EntryPoint

/-- The orders of the three loops. -/
structure MapOrder where
  deoptimized : List ArtMethodPtr
  hooked : List ArtMethodPtr
  saved : List ArtMethodPtr

variable (art : Art) (s : State)

/-- One pass of the first loop. -/
def saveDeoptimized (acc : State × Table ArtMethodPtr SavedMethod) (m : ArtMethodPtr)
    (originalEntryPoint : EntryPoint) : State × Table ArtMethodPtr SavedMethod :=
  (acc.1.setEntryPoint art m originalEntryPoint,
    acc.2.insert m
      { backup := none, data := acc.1.getData m, entryPoint := acc.1.getEntryPoint m })

/-- One pass of the second. -/
def saveHooked (acc : State × Table ArtMethodPtr SavedMethod) (m : ArtMethodPtr)
    (record : HookRecord) : State × Table ArtMethodPtr SavedMethod :=
  let s := acc.1.setData m (acc.1.getData record.backup)
  (s.setEntryPoint art m (s.getEntryPoint record.backup),
    acc.2.insert m
      { backup := some record.backup, data := acc.1.getData m,
        entryPoint := acc.1.getEntryPoint m })

/-- The first two loops: the state ART sees and the local map. -/
def dressUp (order : MapOrder) : State × Table ArtMethodPtr SavedMethod :=
  Table.forEach order.hooked s.hookedMethods (saveHooked art)
    (Table.forEach order.deoptimized s.deoptimizedMethods (saveDeoptimized art) (s, ∅))

/-- ART's own function: boot image methods replaced by their copies, with
data pointers and code of their own. -/
def artMapMethods (remapped : List (ArtMethodPtr × ℕ × ℕ)) : State :=
  remapped.foldl (fun s w => (s.setData w.1 w.2.1).artSetEntryPoint w.1 w.2.2) s

/-- One pass of the third loop. -/
def dressDown (s : State) (m : ArtMethodPtr) (saved : SavedMethod) : State :=
  match saved.backup with
  | none =>
    if s.getEntryPoint m ≠ saved.entryPoint then
      { s with
        deoptimizedMethods := s.deoptimizedMethods.insert m (s.getEntryPoint m) }.setEntryPoint
          art m saved.entryPoint
    else s
  | some backup =>
    if s.getData m = s.getData backup ∧ s.getEntryPoint m = s.getEntryPoint backup then
      (s.setData m saved.data).setEntryPoint art m saved.entryPoint
    else
      -- ART has changed the method, which keeps the data pointer it is left with
      let s := s.setData backup (s.getData m)
      let s := s.setEntryPoint art backup (s.getEntryPoint m)
      s.setEntryPoint art m saved.entryPoint

/-- **`MapBootImageMethods`.** -/
def mapBootImageMethods (remapped : List (ArtMethodPtr × ℕ × ℕ)) (order : MapOrder) : State :=
  let dressed := dressUp art s order
  Table.forEach order.saved dressed.2 (dressDown art) (artMapMethods dressed.1 remapped)

end LSPlant
