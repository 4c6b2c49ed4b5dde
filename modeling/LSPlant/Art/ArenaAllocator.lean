import LSPlant.Art.SizeT
import LSPlant.Library.Allotment
import LSPlant.Library.Bytes
import LSPlant.Library.Machine
/-!
# The arena allocator

`arena_allocator.cxx`: memory is mapped an arena at a time and handed out
from the front of the current one. What does not fit goes to a new arena,
which becomes the current one unless the old has more room left, and to
`malloc` where none can be mapped. Nothing is taken back. The pool the
allocator has of its own gets arenas when the allocator is destroyed, so
it has none before.
-/

namespace LSPlant

/-! ## The code -/

/-- **An arena**, a `MemMapArena`. -/
structure Arena where
  memory : ℕ
  size : ℕ
  bytesAllocated : ℕ
deriving DecidableEq

/-- `kArenaDefaultSize`. -/
def kArenaDefaultSize : ℕ := 64 * 1024

/-- `ArenaAllocator::kAlignment`. -/
def kArenaAlignment : ℕ := 8

/-- **The allocator**: `arenas` is `arena_head_` and what follows it,
`freeArenas` the chain of its pool. -/
structure ArenaAllocator where
  freeArenas : List Arena
  begin_ : ℕ
  end_ : ℕ
  ptr_ : ℕ
  arenas : List Arena

/-- **The process it is in**: the memory, what `malloc` has given, and the
blocks its callers have, by address and by the size they asked for. -/
structure ArenaProcess extends ArenaAllocator where
  mem : Memory
  mallocs : List (ℕ × ℕ)
  blocks : List (ℕ × ℕ)

/-- An allocator just made. -/
def ArenaProcess.initial (mem : Memory) : ArenaProcess where
  freeArenas := []
  begin_ := nullptr
  end_ := nullptr
  ptr_ := nullptr
  arenas := []
  mem := mem
  mallocs := []
  blocks := []

/-- `Arena::Reset`. -/
def Arena.reset (mem : Memory) (arena : Arena) : Memory × Arena :=
  if 0 < arena.bytesAllocated then
    (mem.write arena.memory (List.replicate arena.bytesAllocated 0),
      { arena with bytesAllocated := 0 })
  else (mem, arena)

section Allocator

variable (art : Art) (s : ArenaProcess)

/-- **`MemMapArenaPool::AllocArena`**: `mmap` is what mapping the pages would
return, which come zeroed. -/
def allocArena (size : ℕ) (mmap : Option ℕ) : ArenaProcess × Option Arena :=
  match s.freeArenas.head?.filter (size ≤ ·.size) with
  | some ret =>
    let (mem, ret) := ret.reset s.mem
    ({ s with freeArenas := s.freeArenas.tail, mem }, some ret)
  | none => match mmap with
    | none => (s, none)
    | some memory =>
      let mapped := art.alignUp size art.pageSize
      ({ s with mem := s.mem.write memory (List.replicate mapped 0) }, some ⟨memory, size, 0⟩)

/-- `UpdateBytesAllocated`. -/
def updateBytesAllocated : ArenaProcess :=
  match s.arenas with
  | [] => s
  | head :: arenas =>
    { s with arenas := { head with bytesAllocated := art.wrapSub s.ptr_ s.begin_ } :: arenas }

/-- **`AllocFromNewArena`.** -/
def allocFromNewArena (bytes : ℕ) (mmap : Option ℕ) : ArenaProcess × Option ℕ :=
  match allocArena art s (max kArenaDefaultSize bytes) mmap with
  | (s, none) => (s, none)
  | (s, some newArena) =>
    if art.wrapSub newArena.size bytes < art.wrapSub s.end_ s.ptr_ then
      -- the old arena has room left, and so is there
      ({ s with arenas :=
          s.arenas.take 1 ++ { newArena with bytesAllocated := bytes } :: s.arenas.drop 1 },
        some newArena.memory)
    else
      let s := updateBytesAllocated art s
      ({ s with
          arenas := newArena :: s.arenas
          begin_ := newArena.memory
          ptr_ := art.wrapAdd newArena.memory bytes
          end_ := art.wrapAdd newArena.memory newArena.size },
        some newArena.memory)

/-- What is left where no arena can be mapped: `malloc` or `memalign`. -/
def mallocInstead (bytes : ℕ) (malloc : Option ℕ) : ArenaProcess × ℕ :=
  match malloc with
  | none => (s, nullptr)
  | some memory => ({ s with mallocs := (memory, bytes) :: s.mallocs }, memory)

/-- What `Alloc` and `AllocAlign16` do where the current arena has no room. -/
def allocElsewhere (bytes : ℕ) (mmap malloc : Option ℕ) : ArenaProcess × ℕ :=
  match allocFromNewArena art s bytes mmap with
  | (s, some memory) => (s, memory)
  | (s, none) => mallocInstead s bytes malloc

/-- **`Alloc`.** -/
def alloc (bytes : ℕ) (mmap malloc : Option ℕ) : ArenaProcess × ℕ :=
  let bytes := art.alignUp bytes kArenaAlignment
  if art.wrapSub s.end_ s.ptr_ < bytes then allocElsewhere art s bytes mmap malloc
  else ({ s with ptr_ := art.wrapAdd s.ptr_ bytes }, s.ptr_)

/-- **`AllocAlign16`.** -/
def allocAlign16 (bytes : ℕ) (mmap memalign : Option ℕ) : ArenaProcess × ℕ :=
  let padding := art.wrapSub (art.alignUp s.ptr_ 16) s.ptr_
  if art.wrapSub s.end_ s.ptr_ < art.wrapAdd padding bytes then
    allocElsewhere art s bytes mmap memalign
  else
    let ret := art.wrapAdd s.ptr_ padding
    ({ s with ptr_ := art.wrapAdd ret bytes }, ret)

/-- By how much a block grows. -/
def sizeDelta (ptrSize newSize : ℕ) : ℕ :=
  art.wrapSub (art.alignUp newSize kArenaAlignment) (art.alignUp ptrSize kArenaAlignment)

/-- Nothing else has been allocated since the block, and there is room to extend
it. -/
def ArenaProcess.Extensible (ptr ptrSize newSize : ℕ) : Prop :=
  art.wrapAdd ptr (art.alignUp ptrSize kArenaAlignment) = s.ptr_ ∧
    sizeDelta art ptrSize newSize ≤ art.wrapSub s.end_ s.ptr_

instance decidableExtensible (ptr ptrSize newSize : ℕ) :
    Decidable (s.Extensible art ptr ptrSize newSize) :=
  inferInstanceAs (Decidable (_ ∧ _))

/-- **`Realloc`.** -/
def realloc (ptr ptrSize newSize : ℕ) (mmap malloc : Option ℕ) : ArenaProcess × ℕ :=
  if s.Extensible art ptr ptrSize newSize then
    ({ s with ptr_ := art.wrapAdd s.ptr_ (sizeDelta art ptrSize newSize) }, ptr)
  else
    let (s, newPtr) := alloc art s newSize mmap malloc
    ({ s with mem := s.mem.write newPtr (s.mem.read ptr ptrSize) }, newPtr)

/-- **`ResetCurrentArena`.** -/
def resetCurrentArena : ArenaProcess :=
  { updateBytesAllocated art s with begin_ := nullptr, ptr_ := nullptr, end_ := nullptr }

end Allocator

/-! ## The machine -/

/-- **A call of the allocator**, or a write of a caller's. What `mmap` and
`malloc` would return comes with it. -/
inductive ArenaEvent where
  | alloc (bytes : ℕ) (mmap malloc : Option ℕ)
  | allocAlign16 (bytes : ℕ) (mmap memalign : Option ℕ)
  | realloc (ptr ptrSize newSize : ℕ) (mmap malloc : Option ℕ)
  | resetCurrentArena
  | store (address : ℕ) (bytes : List Byte)

/-- The caller is given a block, or none. -/
def ArenaProcess.give (s : ArenaProcess) (ptr size : ℕ) : ArenaProcess :=
  if ptr = nullptr then s else { s with blocks := (ptr, size) :: s.blocks }

/-- **The state after an event.** A block that has been extended is one
block still; one that has been copied is not given back. -/
def arenaStep (art : Art) (s : ArenaProcess) : ArenaEvent → ArenaProcess
  | .alloc bytes mmap malloc =>
    let (s, ptr) := alloc art s bytes mmap malloc
    s.give ptr bytes
  | .allocAlign16 bytes mmap memalign =>
    let (s, ptr) := allocAlign16 art s bytes mmap memalign
    s.give ptr bytes
  | .realloc ptr ptrSize newSize mmap malloc =>
    let (s, newPtr) := realloc art s ptr ptrSize newSize mmap malloc
    if newPtr = ptr then { s with blocks := s.blocks.erase (ptr, ptrSize) }.give ptr newSize
    else s.give newPtr newSize
  | .resetCurrentArena => resetCurrentArena art s
  | .store address bytes => { s with mem := s.mem.write address bytes }

/-- Two ranges, by address and length, that do not overlap. -/
def RangesApart (r r' : ℕ × ℕ) : Prop := r.1 + r.2 ≤ r'.1 ∨ r'.1 + r'.2 ≤ r.1

instance decidableRangesApart (r r' : ℕ × ℕ) : Decidable (RangesApart r r') :=
  inferInstanceAs (Decidable (_ ∨ _))

/-- **What the allocator has**: the pages of its arenas and what `malloc` has
given. -/
def ArenaProcess.ranges (art : Art) (s : ArenaProcess) : List (ℕ × ℕ) :=
  (s.arenas ++ s.freeArenas).map (fun a => (a.memory, art.alignUp a.size art.pageSize)) ++ s.mallocs

/-- What `mmap` may return: pages not mapped yet. It fails for a size of
zero. -/
def ArenaProcess.Mappable (art : Art) (s : ArenaProcess) (bytes page : ℕ) : Prop :=
  let mapped := art.alignUp (max kArenaDefaultSize bytes) art.pageSize
  page ≠ nullptr ∧ art.pageSize ∣ page ∧ mapped ≠ 0 ∧ page + mapped < art.addressSpace ∧
    ∀ r ∈ s.ranges art, RangesApart r (page, mapped)

instance decidableArenaMappable (art : Art) (s : ArenaProcess) (bytes page : ℕ) :
    Decidable (s.Mappable art bytes page) :=
  inferInstanceAs (Decidable (_ ∧ _ ∧ _ ∧ _ ∧ _))

/-- And what `malloc` and `memalign` may. -/
def ArenaProcess.Mallocable (art : Art) (s : ArenaProcess) (alignment bytes memory : ℕ) : Prop :=
  memory ≠ nullptr ∧ alignment ∣ memory ∧ memory + bytes < art.addressSpace ∧
    ∀ r ∈ s.ranges art, RangesApart r (memory, bytes)

instance decidableArenaMallocable (art : Art) (s : ArenaProcess) (alignment bytes memory : ℕ) :
    Decidable (s.Mallocable art alignment bytes memory) :=
  inferInstanceAs (Decidable (_ ∧ _ ∧ _ ∧ _))

/-- A size that aligning does not carry past the largest `size_t`. -/
def Art.Alignable (art : Art) (bytes : ℕ) : Prop := bytes + 15 < art.addressSpace

instance decidableAlignable (art : Art) (bytes : ℕ) : Decidable (art.Alignable bytes) :=
  inferInstanceAs (Decidable (_ < _))

/-- **What callers and the system promise.** Sizes are no larger than memory
could be, those of aligned blocks are aligned, a block that is reallocated
is a caller's and does not shrink, and if it has to be copied there is memory
for it; and callers write to their blocks. -/
def arenaAdmissible (art : Art) (s : ArenaProcess) : ArenaEvent → Prop
  | .alloc bytes mmap malloc =>
    art.Alignable bytes ∧
      (∀ page ∈ mmap, s.Mappable art (art.alignUp bytes kArenaAlignment) page) ∧
      ∀ memory ∈ malloc, s.Mallocable art kArenaAlignment (art.alignUp bytes kArenaAlignment) memory
  | .allocAlign16 bytes mmap memalign =>
    art.Alignable bytes ∧ 16 ∣ bytes ∧ (∀ page ∈ mmap, s.Mappable art bytes page) ∧
      ∀ memory ∈ memalign, s.Mallocable art 16 bytes memory
  | .realloc ptr ptrSize newSize mmap malloc =>
    ((ptr = nullptr ∧ ptrSize = 0) ∨ (ptr, ptrSize) ∈ s.blocks) ∧ ptrSize ≤ newSize ∧
      art.Alignable newSize ∧
      (s.Extensible art ptr ptrSize newSize ∨ (alloc art s newSize mmap malloc).2 ≠ nullptr) ∧
      (∀ page ∈ mmap, s.Mappable art (art.alignUp newSize kArenaAlignment) page) ∧
      ∀ memory ∈ malloc,
        s.Mallocable art kArenaAlignment (art.alignUp newSize kArenaAlignment) memory
  | .resetCurrentArena => True
  | .store address bytes => ∃ b ∈ s.blocks, b.1 ≤ address ∧ address + bytes.length ≤ b.1 + b.2

instance decidableArenaAdmissible (art : Art) (s : ArenaProcess) :
    ∀ e, Decidable (arenaAdmissible art s e)
  | .alloc _ _ _ => inferInstanceAs (Decidable (_ ∧ _ ∧ _))
  | .allocAlign16 _ _ _ => inferInstanceAs (Decidable (_ ∧ _ ∧ _ ∧ _))
  | .realloc _ _ _ _ _ => inferInstanceAs (Decidable (_ ∧ _ ∧ _ ∧ _ ∧ _ ∧ _))
  | .resetCurrentArena => isTrue trivial
  | .store _ _ => inferInstanceAs (Decidable (∃ b ∈ _, _ ∧ _))

/-- **The allocator and its callers**, as a machine. -/
def arenaMachine (art : Art) : Machine ArenaProcess ArenaEvent where
  step := arenaStep art
  admissible := arenaAdmissible art

instance decidableArenaMachine (art : Art) (s : ArenaProcess) (e : ArenaEvent) :
    Decidable ((arenaMachine art).admissible s e) :=
  inferInstanceAs (Decidable (arenaAdmissible art s e))

end LSPlant
