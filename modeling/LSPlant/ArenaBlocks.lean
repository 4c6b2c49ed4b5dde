import LSPlant.Art.ArenaAllocator
/-!
# What the arena allocator hands out

Blocks never overlap, start at a multiple of 8 and lie in what the
allocator has, whatever is allocated, reallocated and reset. A block out of
an arena is zeroed when it is handed out, and no call writes to a block but
`Realloc`, which copies into the one it hands out.
-/

namespace LSPlant

/-- The addresses of a range. -/
abbrev addresses (r : ℕ × ℕ) : Set ℕ := Set.Ico r.1 (r.1 + r.2)

/-- What is kept for a block. -/
def reserved (art : Art) (b : ℕ × ℕ) : ℕ × ℕ := (b.1, art.alignUp b.2 kArenaAlignment)

namespace ArenaProcess

variable (art : Art) (s : ArenaProcess)

/-- **The account of the allocator**: what is left of the current arena is
free. -/
def account : Allotment ℕ where
  owned := {x | ∃ r ∈ s.ranges art, x ∈ addresses r}
  free := Set.Ico s.ptr_ s.end_
  blocks := s.blocks.map fun b => addresses (reserved art b)

/-- **An allocator in order.** -/
structure InOrder : Prop where
  noFree : s.freeArenas = []
  begin_le : s.begin_ ≤ s.ptr_
  ptr_le : s.ptr_ ≤ s.end_
  end_lt : art.Alignable s.end_
  aligned : kArenaAlignment ∣ s.ptr_
  /-- A new arena that is not to be the current one finds one to follow. -/
  hasHead : s.ptr_ < s.end_ → s.arenas ≠ []
  zero : ∀ x ∈ Set.Ico s.ptr_ s.end_, s.mem x = 0

/-- **And so are the blocks it has handed out.** -/
structure Sound : Prop extends InOrder art s where
  account : (s.account art).Sound
  block : ∀ b ∈ s.blocks, kArenaAlignment ∣ b.1 ∧ art.Alignable b.2 ∧
    b.1 + art.alignUp b.2 kArenaAlignment < art.addressSpace ∧ b.1 ≠ nullptr

end ArenaProcess

variable {art : Art} {s s' : ArenaProcess} {bytes size n memory ptr : ℕ} {mmap malloc : Option ℕ}

/-! ## Arithmetic -/

theorem Art.Alignable.eight (h : art.Alignable bytes) :
    bytes ≤ art.alignUp bytes kArenaAlignment ∧ art.alignUp bytes kArenaAlignment ≤ bytes + 7 := by
  have hlt : bytes + (kArenaAlignment - 1) < art.addressSpace := by
    unfold Art.Alignable at h
    unfold kArenaAlignment
    omega
  exact alignUp_bounds (by decide) hlt

/-- Aligning up is monotone. -/
theorem alignUp_mono (hsize : art.Alignable size) (h : bytes ≤ size) :
    art.alignUp bytes kArenaAlignment ≤ art.alignUp size kArenaAlignment := by
  unfold Art.Alignable at hsize
  unfold Art.alignUp kArenaAlignment
  rw [Nat.mod_eq_of_lt (by omega), Nat.mod_eq_of_lt (by omega)]
  omega

theorem disjoint_addresses {r r' : ℕ × ℕ} (h : RangesApart r r') :
    Disjoint (addresses r) (addresses r') := by
  refine Set.disjoint_left.2 fun x hx hx' => ?_
  obtain ⟨hx1, hx2⟩ := hx
  obtain ⟨hx1', hx2'⟩ := hx'
  unfold RangesApart at h
  omega

/-! ## What is acquired -/

/-- What is off every range the allocator has is not owned. -/
theorem disjoint_owned {r : ℕ × ℕ} (h : ∀ r' ∈ s.ranges art, RangesApart r' r) :
    Disjoint (s.account art).owned (addresses r) := by
  refine Set.disjoint_left.2 ?_
  rintro x ⟨r', hr', hx⟩ hx'
  exact Set.disjoint_left.1 (disjoint_addresses (h r' hr')) hx hx'

/-- One more range is owned. -/
theorem owned_of_ranges {r : ℕ × ℕ} (h : ∀ r', r' ∈ s'.ranges art ↔ r' = r ∨ r' ∈ s.ranges art) :
    (s'.account art).owned = (s.account art).owned ∪ addresses r := by
  ext x
  constructor
  · rintro ⟨r', hr', hx⟩
    rcases (h r').1 hr' with rfl | hr'
    · exact Or.inr hx
    · exact Or.inl ⟨r', hr', hx⟩
  · rintro (⟨r', hr', hx⟩ | hx)
    · exact ⟨r', (h r').2 (Or.inr hr'), hx⟩
    · exact ⟨r, (h r).2 (Or.inl rfl), hx⟩

/-! ## Handing out -/

/-- **A call hands out** the `n` bytes at `ptr`: what the allocator owns then,
what is free, and the blocks with the new one are in order, and no other
block is written to. -/
structure HandsOut (art : Art) (s s' : ArenaProcess) (ptr n : ℕ) : Prop where
  blocks_eq : s'.blocks = s.blocks
  inOrder : s'.InOrder art
  account : (⟨(s'.account art).owned, (s'.account art).free,
    addresses (ptr, n) :: (s.account art).blocks⟩ : Allotment ℕ).Sound
  kept : ∀ b ∈ s.blocks, ∀ x ∈ addresses (reserved art b), s'.mem x = s.mem x
  dvd : kArenaAlignment ∣ ptr
  lt : ptr + n < art.addressSpace

/-- And out of an arena the bytes are zero. -/
structure HandsOutZeroed (art : Art) (s s' : ArenaProcess) (ptr n : ℕ) : Prop
    extends HandsOut art s s' ptr n where
  zeroed : s'.mallocs = s.mallocs → ∀ x ∈ addresses (ptr, n), s'.mem x = 0

/-- **From the front of the current arena.** -/
theorem handsOut_current (h : s.Sound art) {padding : ℕ} (hp : kArenaAlignment ∣ padding)
    (hn : kArenaAlignment ∣ n) (hfit : s.ptr_ + padding + n ≤ s.end_) :
    HandsOutZeroed art s { s with ptr_ := s.ptr_ + padding + n } (s.ptr_ + padding) n where
  blocks_eq := rfl
  inOrder :=
    { h.toInOrder with
      begin_le := by
        have := h.begin_le
        show s.begin_ ≤ s.ptr_ + padding + n
        omega
      ptr_le := hfit
      aligned := Nat.dvd_add (Nat.dvd_add h.aligned hp) hn
      hasHead := by
        intro hlt
        have : s.ptr_ + padding + n < s.end_ := hlt
        exact h.hasHead (by omega)
      zero := by
        rintro x ⟨hx1, hx2⟩
        have : s.ptr_ + padding + n ≤ x := hx1
        exact h.zero x ⟨by omega, hx2⟩ }
  account := by
    refine h.account.handOut_free ?_ ?_ ?_
    · rintro x ⟨hx1, hx2⟩
      show s.ptr_ ≤ x ∧ x < s.end_
      omega
    · rintro x ⟨hx1, hx2⟩
      have hlow : s.ptr_ + padding + n ≤ x := hx1
      exact ⟨by omega, hx2⟩
    · refine Set.disjoint_left.2 ?_
      rintro x ⟨hx1, hx2⟩ ⟨hx3, hx4⟩
      have : s.ptr_ + padding + n ≤ x := hx3
      omega
  kept b hb x hx := rfl
  zeroed := by
    rintro - x ⟨hx1, hx2⟩
    exact h.zero x ⟨by omega, by omega⟩
  dvd := Nat.dvd_add h.aligned hp
  lt := by
    have := h.end_lt
    unfold Art.Alignable at this
    omega

/-- What `malloc` gives is owned and handed out whole. -/
theorem handsOut_malloc (h : s.Sound art) {alignment : ℕ} (ha : kArenaAlignment ∣ alignment)
    (hmalloc : s.Mallocable art alignment n memory) :
    HandsOutZeroed art s { s with mallocs := (memory, n) :: s.mallocs } memory n := by
  obtain ⟨-, halign, hlt, hranges⟩ := hmalloc
  have howned : (({ s with mallocs := (memory, n) :: s.mallocs } :
      ArenaProcess).account art).owned = (s.account art).owned ∪ addresses (memory, n) := by
    refine owned_of_ranges fun r => ?_
    simp only [ArenaProcess.ranges, List.mem_append, List.mem_cons]
    tauto
  have hfresh := disjoint_owned hranges
  refine ⟨⟨rfl, { h.toInOrder with }, ?_, fun b hb x hx => rfl, ha.trans halign, hlt⟩, ?_⟩
  · rw [howned]
    exact h.account.handOut_fresh hfresh Set.Subset.rfl (Or.inl Set.Subset.rfl)
      (hfresh.symm.mono_right h.account.free_subset)
  · intro hsame
    exact absurd (congrArg List.length hsame) (by simp)

/-! ## A new arena -/

/-- The pages of an arena. -/
def Arena.pages (art : Art) (arena : Arena) : ℕ × ℕ :=
  (arena.memory, art.alignUp arena.size art.pageSize)

theorem ranges_eq (art : Art) (s : ArenaProcess) : s.ranges art =
    s.arenas.map (Arena.pages art) ++ s.freeArenas.map (Arena.pages art) ++ s.mallocs := by
  rw [ArenaProcess.ranges, List.map_append]
  rfl

theorem mem_ranges_insert {a : Arena} {arenas : List Arena} (h : s'.arenas.Perm (a :: arenas))
    (harenas : arenas.map (Arena.pages art) = s.arenas.map (Arena.pages art))
    (hfree : s'.freeArenas = s.freeArenas) (hmallocs : s'.mallocs = s.mallocs) (r : ℕ × ℕ) :
    r ∈ s'.ranges art ↔ r = a.pages art ∨ r ∈ s.ranges art := by
  have hperm : (s'.arenas.map (Arena.pages art)).Perm
      (a.pages art :: s.arenas.map (Arena.pages art)) := by
    rw [← harenas]
    exact h.map _
  rw [ranges_eq, ranges_eq, hfree, hmallocs, List.mem_append, List.mem_append, List.mem_append,
    List.mem_append, hperm.mem_iff, List.mem_cons]
  tauto

theorem owned_insert {a : Arena} {arenas : List Arena} (h : s'.arenas.Perm (a :: arenas))
    (harenas : arenas.map (Arena.pages art) = s.arenas.map (Arena.pages art))
    (hfree : s'.freeArenas = s.freeArenas) (hmallocs : s'.mallocs = s.mallocs) :
    (s'.account art).owned = (s.account art).owned ∪ addresses (a.pages art) :=
  owned_of_ranges (mem_ranges_insert h harenas hfree hmallocs)

theorem pages_updateBytesAllocated : (updateBytesAllocated art s).arenas.map (Arena.pages art) =
    s.arenas.map (Arena.pages art) := by
  unfold updateBytesAllocated
  rcases harenas : s.arenas with _ | ⟨head, arenas⟩
  · simp [harenas]
  · rfl

/-- All else stays as it is. -/
theorem updateBytesAllocated_eq :
    updateBytesAllocated art s = { s with arenas := (updateBytesAllocated art s).arenas } := by
  unfold updateBytesAllocated
  rcases harenas : s.arenas with _ | ⟨head, arenas⟩
  · simp
  · rfl

/-- The size of an arena for a block fits in its pages. -/
theorem size_le_mapped (hn : n < art.addressSpace) {page : ℕ} (hpage : s.Mappable art n page) :
    max kArenaDefaultSize n ≤ art.alignUp (max kArenaDefaultSize n) art.pageSize := by
  refine le_alignUp_of_ne_zero ?_ hpage.2.2.1
  have hspace := addressSpace_pos art
  have hdefault : kArenaDefaultSize = 65536 := rfl
  omega

theorem dvd_page (hpage : art.pageSize ∣ n) : 4096 ∣ n := by
  refine Dvd.dvd.trans ?_ hpage
  rcases art.pageSize_eq with h | h
  · rw [h]
  · rw [h]
    decide

/-- Pages leave the last page of the address space free. -/
theorem alignable_of_pages {page : ℕ} (hpage : s.Mappable art n page) (hsize : size ≤
    art.alignUp (max kArenaDefaultSize n) art.pageSize) : art.Alignable (page + size) := by
  obtain ⟨-, halign, -, hend, -⟩ := hpage
  have hdvd := dvd_page (Nat.dvd_add halign
    (dvd_alignUp art (max kArenaDefaultSize n) art.pageSize))
  have hspace : 4096 ∣ art.addressSpace := by
    unfold Art.addressSpace
    cases art.arch <;> decide
  unfold Art.Alignable
  omega

/-- Without arenas to reuse, one is mapped. -/
theorem allocArena_of_noFree (h : s.freeArenas = []) (size page : ℕ) :
    allocArena art s size (some page) =
      ({ s with mem := s.mem.write page (List.replicate (art.alignUp size art.pageSize) 0) },
        some ⟨page, size, 0⟩) := by
  simp only [allocArena, h]
  rfl

/-- **From a new arena**, which becomes the current one or not. -/
theorem handsOut_newArena (h : s.Sound art) (hn : kArenaAlignment ∣ n) (hlt : n < art.addressSpace)
    {page : ℕ} (hpage : s.Mappable art n page) :
    ∃ s', allocFromNewArena art s n (some page) = (s', some page) ∧
      HandsOutZeroed art s s' page n := by
  have hmapped := size_le_mapped hlt hpage
  have hfits := alignable_of_pages hpage hmapped
  obtain ⟨hnull, halign, -, -, hranges⟩ := hpage
  set size := max kArenaDefaultSize n with hsize
  set mapped := art.alignUp size art.pageSize with hmappedEq
  set mem' := s.mem.write page (List.replicate mapped 0) with hmem
  have hnsize : n ≤ size := Nat.le_max_right _ _
  have hpageLt : page + size < art.addressSpace := by
    unfold Art.Alignable at hfits
    omega
  have hfresh : Disjoint (s.account art).owned (addresses (page, mapped)) :=
    disjoint_owned hranges
  have hblock : addresses (page, n) ⊆ addresses (page, mapped) :=
    Set.Ico_subset_Ico_right (Nat.add_le_add_left (hnsize.trans hmapped) _)
  have howns : ∀ x ∈ (s.account art).owned, mem' x = s.mem x := by
    intro x hx
    rw [hmem, Memory.write_replicate]
    exact if_neg (Set.disjoint_left.1 hfresh hx)
  have hkept : ∀ b ∈ s.blocks, ∀ x ∈ addresses (reserved art b), mem' x = s.mem x :=
    fun b hb x hx => howns x (h.account.blocks_subset _ (List.mem_map_of_mem hb) hx)
  have hzeroed : ∀ x ∈ addresses (page, mapped), mem' x = 0 := by
    intro x hx
    rw [hmem, Memory.write_replicate]
    exact if_pos hx
  have hleft : Set.Ico (page + n) (page + size) ⊆ addresses (page, mapped) :=
    Set.Ico_subset_Ico (Nat.le_add_right _ _) (Nat.add_le_add_left hmapped _)
  have hapart : Disjoint (addresses (page, n)) (Set.Ico (page + n) (page + size)) :=
    Set.Ico_disjoint_Ico_same
  have hdvd : kArenaAlignment ∣ page := Dvd.dvd.trans (by decide) (dvd_page halign)
  simp only [allocFromNewArena, ← hsize, allocArena_of_noFree h.noFree, ← hmappedEq, ← hmem]
  split_ifs with hkeep
  · -- the old arena stays the current one
    refine ⟨_, rfl, ⟨rfl, { h.toInOrder with hasHead := ?_, zero := ?_ }, ?_, hkept, hdvd,
      by omega⟩, fun _ x hx => hzeroed x (hblock hx)⟩
    · intro _
      simp
    · intro x hx
      rw [← h.zero x hx]
      exact howns x (h.account.free_subset hx)
    · have hperm : (s.arenas.take 1 ++ ⟨page, size, n⟩ :: s.arenas.drop 1).Perm
          (⟨page, size, n⟩ :: s.arenas) := by
        refine List.perm_middle.trans ?_
        rw [List.take_append_drop]
      have howned : (({ s with
          mem := mem'
          arenas := s.arenas.take 1 ++ ⟨page, size, n⟩ :: s.arenas.drop 1 } :
            ArenaProcess).account art).owned = (s.account art).owned ∪ addresses (page, mapped) :=
        owned_insert (a := ⟨page, size, n⟩) hperm rfl rfl rfl
      rw [howned]
      exact h.account.handOut_fresh hfresh hblock (Or.inl Set.Subset.rfl)
        ((hfresh.mono_left h.account.free_subset).symm.mono_left hblock)
  · rw [updateBytesAllocated_eq]
    have hptr : art.wrapAdd page n = page + n := wrapAdd_of_lt (by omega)
    have hend : art.wrapAdd page size = page + size := wrapAdd_of_lt hpageLt
    rw [hptr, hend]
    refine ⟨_, rfl, ⟨rfl, ⟨h.noFree, Nat.le_add_right _ _, ?_, hfits, Nat.dvd_add hdvd hn, ?_, ?_⟩,
      ?_, hkept, hdvd, by omega⟩, fun _ x hx => hzeroed x (hblock hx)⟩
    · show page + n ≤ page + size
      omega
    · intro _
      simp
    · exact fun x hx => hzeroed x (hleft hx)
    · have howned : (({ s with
          mem := mem'
          arenas := ⟨page, size, 0⟩ :: (updateBytesAllocated art { s with mem := mem' }).arenas
          begin_ := page
          ptr_ := page + n
          end_ := page + size } : ArenaProcess).account art).owned =
            (s.account art).owned ∪ addresses (page, mapped) :=
        owned_insert (a := ⟨page, size, 0⟩) (List.Perm.refl _) pages_updateBytesAllocated rfl rfl
      rw [howned]
      exact h.account.handOut_fresh hfresh hblock (Or.inr hleft) hapart

/-! ## The calls -/

/-- What `malloc` is asked for instead comes from nowhere in the allocator. -/
theorem allocFromNewArena_none (h : s.Sound art) : allocFromNewArena art s n none = (s, none) := by
  simp only [allocFromNewArena, allocArena, h.noFree]
  rfl

/-- A call hands out memory, or has none and changes nothing. -/
def HandsOutOr (art : Art) (s : ArenaProcess) (malloc : Option ℕ) (r : ArenaProcess × ℕ) (n : ℕ) :
    Prop :=
  HandsOutZeroed art s r.1 r.2 n ∨ malloc = none ∧ r = (s, nullptr)

theorem handsOut_elsewhere (h : s.Sound art) {alignment : ℕ} (hn : kArenaAlignment ∣ n)
    (hlt : n < art.addressSpace) (hmmap : ∀ page ∈ mmap, s.Mappable art n page)
    (ha : kArenaAlignment ∣ alignment)
    (hmalloc : ∀ memory ∈ malloc, s.Mallocable art alignment n memory) :
    HandsOutOr art s malloc (allocElsewhere art s n mmap malloc) n := by
  rcases mmap with _ | page
  · rw [allocElsewhere, allocFromNewArena_none h]
    rcases malloc with _ | memory
    · exact Or.inr ⟨rfl, rfl⟩
    · exact Or.inl (handsOut_malloc h ha (hmalloc memory rfl))
  · obtain ⟨s', hnew, hout⟩ := handsOut_newArena h hn hlt (hmmap page rfl)
    rw [allocElsewhere, hnew]
    exact Or.inl hout

/-- **`Alloc`** hands out what it is asked for, aligned up. -/
theorem handsOut_alloc (h : s.Sound art) (hbytes : art.Alignable bytes)
    (hmmap : ∀ page ∈ mmap, s.Mappable art (art.alignUp bytes kArenaAlignment) page)
    (hmalloc : ∀ memory ∈ malloc,
      s.Mallocable art kArenaAlignment (art.alignUp bytes kArenaAlignment) memory) :
    HandsOutOr art s malloc (alloc art s bytes mmap malloc)
      (art.alignUp bytes kArenaAlignment) := by
  have hend := h.end_lt
  have hup := hbytes.eight.2
  unfold Art.Alignable at hbytes hend
  have hremaining : art.wrapSub s.end_ s.ptr_ = s.end_ - s.ptr_ :=
    wrapSub_of_le h.ptr_le (by omega)
  have hdvd := dvd_alignUp art bytes kArenaAlignment
  simp only [alloc, hremaining]
  split_ifs with hfull
  · exact handsOut_elsewhere h hdvd (by omega) hmmap (dvd_refl _) hmalloc
  · have hle := h.ptr_le
    have hptr : art.wrapAdd s.ptr_ (art.alignUp bytes kArenaAlignment) =
        s.ptr_ + 0 + art.alignUp bytes kArenaAlignment := wrapAdd_of_lt (by omega)
    rw [hptr]
    exact Or.inl (handsOut_current h (Nat.dvd_zero _) hdvd (by omega))

/-- **`AllocAlign16`** hands out what it is asked for, at a multiple of 16. -/
theorem handsOut_allocAlign16 (h : s.Sound art) (hbytes : art.Alignable bytes) (h16 : 16 ∣ bytes)
    (hmmap : ∀ page ∈ mmap, s.Mappable art bytes page)
    (hmemalign : ∀ memory ∈ malloc, s.Mallocable art 16 bytes memory) :
    HandsOutOr art s malloc (allocAlign16 art s bytes mmap malloc) bytes := by
  have hend := h.end_lt
  have hle := h.ptr_le
  have hdvd : kArenaAlignment ∣ bytes := Dvd.dvd.trans (by decide) h16
  unfold Art.Alignable at hbytes hend
  obtain ⟨hlow, hhigh⟩ : s.ptr_ ≤ art.alignUp s.ptr_ 16 ∧ art.alignUp s.ptr_ 16 ≤ s.ptr_ + 15 :=
    alignUp_bounds (by decide) (by omega)
  have hremaining : art.wrapSub s.end_ s.ptr_ = s.end_ - s.ptr_ := wrapSub_of_le hle (by omega)
  have hpadding : art.wrapSub (art.alignUp s.ptr_ 16) s.ptr_ = art.alignUp s.ptr_ 16 - s.ptr_ :=
    wrapSub_of_le hlow (by omega)
  set padding := art.alignUp s.ptr_ 16 - s.ptr_ with hpad
  have hdvdPadding : kArenaAlignment ∣ padding :=
    Nat.dvd_sub (Dvd.dvd.trans (by decide) (dvd_alignUp art s.ptr_ 16)) h.aligned
  have hsum : art.wrapAdd padding bytes = padding + bytes := wrapAdd_of_lt (by omega)
  simp only [allocAlign16, hpadding, hremaining, hsum]
  split_ifs with hfull
  · exact handsOut_elsewhere h hdvd (by omega) hmmap (by decide) hmemalign
  · have hret : art.wrapAdd s.ptr_ padding = s.ptr_ + padding := wrapAdd_of_lt (by omega)
    have hptr : art.wrapAdd (s.ptr_ + padding) bytes = s.ptr_ + padding + bytes :=
      wrapAdd_of_lt (by omega)
    rw [hret, hptr]
    exact Or.inl (handsOut_current h hdvdPadding hdvd (by omega))

/-! ## What keeps the allocator sound -/

/-- **What is handed out is given to the caller**, which no longer is free. -/
theorem HandsOut.sound_give (h : HandsOut art s s' ptr n) (hs : s.Sound art)
    (hsize : art.Alignable size) (hn : art.alignUp size kArenaAlignment = n) :
    (s'.give ptr size).Sound art := by
  subst hn
  have hblocks : s'.blocks = s.blocks := h.blocks_eq
  have hblock := hs.block
  rw [← hblocks] at hblock
  have haccount : (s.account art).blocks = (s'.account art).blocks := by
    simp only [ArenaProcess.account, hblocks]
  have hall := h.account
  rw [haccount] at hall
  unfold ArenaProcess.give
  split_ifs with hptr
  · exact ⟨h.inOrder, hall.sublist (List.sublist_cons_self _ _), hblock⟩
  · exact ⟨{ h.inOrder with }, hall, List.forall_mem_cons.2 ⟨⟨h.dvd, hsize, h.lt, hptr⟩, hblock⟩⟩

/-- A write to what the caller has been given leaves the rest in order. -/
theorem sound_store (h : s.Sound art) {address : ℕ} {bs : List Byte} {b : ℕ × ℕ}
    (hb : b ∈ s.blocks) (hlow : b.1 ≤ address)
    (hhigh : address + bs.length ≤ b.1 + art.alignUp b.2 kArenaAlignment) :
    ({ s with mem := s.mem.write address bs } : ArenaProcess).Sound art := by
  refine ⟨{ h.toInOrder with zero := ?_ }, h.account, h.block⟩
  intro x hx
  rw [← h.zero x hx]
  have hnot : x ∉ addresses (reserved art b) :=
    Set.disjoint_right.1 (h.account.free_apart _ (List.mem_map_of_mem hb)) hx
  rcases Nat.lt_or_ge x address with hxlow | hxlow
  · exact Memory.write_of_lt hxlow
  · refine Memory.write_of_ge (Nat.le_of_not_lt fun hxhigh => hnot ⟨?_, ?_⟩)
    · exact hlow.trans hxlow
    · exact lt_of_lt_of_le hxhigh hhigh

/-- The arenas are there still, none of them the current one. -/
theorem resetCurrentArena_eq : resetCurrentArena art s =
    { s with
      arenas := (updateBytesAllocated art s).arenas
      begin_ := nullptr
      ptr_ := nullptr
      end_ := nullptr } := by
  rw [resetCurrentArena, updateBytesAllocated_eq]

theorem sound_resetCurrentArena (h : s.Sound art) : (resetCurrentArena art s).Sound art := by
  have hpages : (resetCurrentArena art s).ranges art = s.ranges art := by
    rw [resetCurrentArena_eq, ranges_eq, ranges_eq, pages_updateBytesAllocated]
  have howned : ((resetCurrentArena art s).account art).owned = (s.account art).owned := by
    simp only [ArenaProcess.account, hpages]
  have hspace := addressSpace_pos art
  have hnull : art.Alignable nullptr := by
    show 0 + 15 < art.addressSpace
    omega
  rw [resetCurrentArena_eq] at howned ⊢
  refine ⟨⟨h.noFree, le_rfl, le_rfl, hnull, Nat.dvd_zero _, ?_, ?_⟩, ?_, h.block⟩
  · exact fun hlt => absurd hlt (lt_irrefl _)
  · rintro x ⟨hlow, hhigh⟩
    exact absurd (lt_of_le_of_lt hlow hhigh) (lt_irrefl _)
  · have hshrunk := h.account.shrink (Set.empty_subset (s.account art).free)
    rw [← Set.Ico_self nullptr] at hshrunk
    unfold Allotment.turnTo at hshrunk
    rw [← howned] at hshrunk
    exact hshrunk

/-! ## `Realloc` -/

/-- The caller has nothing yet, or the block it names. -/
def ArenaProcess.Has (s : ArenaProcess) (ptr ptrSize : ℕ) : Prop :=
  (ptr = nullptr ∧ ptrSize = 0) ∨ (ptr, ptrSize) ∈ s.blocks

/-- `Realloc` moves the end of the last block of the current arena, or it
copies to what `Alloc` hands out. -/
theorem realloc_eq (h : s.Sound art) {ptrSize newSize : ℕ} (hhas : s.Has ptr ptrSize)
    (hle : ptrSize ≤ newSize) (hnew : art.Alignable newSize) (mmap malloc : Option ℕ) :
    (ptr + art.alignUp ptrSize kArenaAlignment = s.ptr_ ∧
      ptr + art.alignUp newSize kArenaAlignment ≤ s.end_ ∧
      realloc art s ptr ptrSize newSize mmap malloc =
        ({ s with ptr_ := ptr + art.alignUp newSize kArenaAlignment }, ptr)) ∨
    ¬ s.Extensible art ptr ptrSize newSize ∧
      realloc art s ptr ptrSize newSize mmap malloc =
      ({ (alloc art s newSize mmap malloc).1 with
          mem := (alloc art s newSize mmap malloc).1.mem.write (alloc art s newSize mmap malloc).2
            ((alloc art s newSize mmap malloc).1.mem.read ptr ptrSize) },
        (alloc art s newSize mmap malloc).2) := by
  have hend := h.end_lt
  have hptr := h.ptr_le
  have hold : art.Alignable ptrSize := by
    unfold Art.Alignable at hnew ⊢
    omega
  have hlt : ptr + art.alignUp ptrSize kArenaAlignment < art.addressSpace := by
    rcases hhas with ⟨rfl, rfl⟩ | hblock
    · have hup := hold.eight.2
      have hspace := addressSpace_pos art
      show 0 + art.alignUp 0 kArenaAlignment < art.addressSpace
      omega
    · exact (h.block _ hblock).2.2.1
  have hgrow : art.alignUp ptrSize kArenaAlignment ≤ art.alignUp newSize kArenaAlignment :=
    alignUp_mono hnew hle
  have hup := hnew.eight.2
  unfold Art.Alignable at hnew hend
  have hdelta : sizeDelta art ptrSize newSize =
      art.alignUp newSize kArenaAlignment - art.alignUp ptrSize kArenaAlignment :=
    wrapSub_of_le hgrow (by omega)
  have hremaining : art.wrapSub s.end_ s.ptr_ = s.end_ - s.ptr_ := wrapSub_of_le hptr (by omega)
  unfold realloc
  split_ifs with hext
  · obtain ⟨hlast, hroom⟩ := hext
    rw [wrapAdd_of_lt hlt] at hlast
    rw [hdelta, hremaining] at hroom
    left
    have hmoved : art.wrapAdd s.ptr_ (sizeDelta art ptrSize newSize) =
        ptr + art.alignUp newSize kArenaAlignment := by
      rw [hdelta, wrapAdd_of_lt (by omega)]
      omega
    exact ⟨hlast, by omega, by rw [hmoved]⟩
  · exact Or.inr ⟨hext, rfl⟩

/-- The block grows with it, or there is none still. -/
theorem sound_extended (h : s.Sound art) {ptrSize newSize : ℕ} (hhas : s.Has ptr ptrSize)
    (hle : ptrSize ≤ newSize) (hnew : art.Alignable newSize)
    (hlast : ptr + art.alignUp ptrSize kArenaAlignment = s.ptr_)
    (hroom : ptr + art.alignUp newSize kArenaAlignment ≤ s.end_) :
    (({ s with
        ptr_ := ptr + art.alignUp newSize kArenaAlignment
        blocks := s.blocks.erase (ptr, ptrSize) } : ArenaProcess).give ptr newSize).Sound art := by
  have hgrow := alignUp_mono hnew hle
  have hinOrder : ({ s with ptr_ := ptr + art.alignUp newSize kArenaAlignment } :
      ArenaProcess).InOrder art := by
    have hbegin := h.begin_le
    have hdvd : kArenaAlignment ∣ ptr := by
      rw [← Nat.dvd_add_left (dvd_alignUp art ptrSize kArenaAlignment), hlast]
      exact h.aligned
    refine { h.toInOrder with
      begin_le := ?_, ptr_le := hroom, aligned := Nat.dvd_add hdvd (dvd_alignUp _ _ _),
      hasHead := ?_, zero := ?_ }
    · show s.begin_ ≤ ptr + art.alignUp newSize kArenaAlignment
      omega
    · intro hlt
      have : ptr + art.alignUp newSize kArenaAlignment < s.end_ := hlt
      exact h.hasHead (by omega)
    · rintro x ⟨hx1, hx2⟩
      have : ptr + art.alignUp newSize kArenaAlignment ≤ x := hx1
      exact h.zero x ⟨by omega, hx2⟩
  have hsub : (s.blocks.erase (ptr, ptrSize)).Sublist s.blocks := List.erase_sublist
  have hblock : ∀ b ∈ s.blocks.erase (ptr, ptrSize), kArenaAlignment ∣ b.1 ∧ art.Alignable b.2 ∧
      b.1 + art.alignUp b.2 kArenaAlignment < art.addressSpace ∧ b.1 ≠ nullptr :=
    fun b hb => h.block b (hsub.subset hb)
  have hfree : Set.Ico (ptr + art.alignUp newSize kArenaAlignment) s.end_ ⊆ Set.Ico s.ptr_ s.end_ :=
    Set.Ico_subset_Ico_left (by omega)
  unfold ArenaProcess.give
  split_ifs with hnull
  · exact ⟨{ hinOrder with }, (h.account.shrink hfree).sublist (hsub.map _), hblock⟩
  · have hmem : (ptr, ptrSize) ∈ s.blocks := hhas.resolve_left fun h0 => hnull h0.1
    have hend := h.end_lt
    obtain ⟨hdvd, -, -⟩ := h.block _ hmem
    refine ⟨{ hinOrder with }, ?_, List.forall_mem_cons.2 ⟨⟨hdvd, hnew, ?_, hnull⟩, hblock⟩⟩
    · have hperm := (List.perm_cons_erase hmem).map fun b => addresses (reserved art b)
      refine (h.account.perm hperm).enlarge ?_ hfree Set.Ico_disjoint_Ico_same
      rintro x ⟨hx1, hx2⟩
      rcases Nat.lt_or_ge x s.ptr_ with hx | hx
      · exact Or.inl ⟨hx1, by
          show x < ptr + art.alignUp ptrSize kArenaAlignment
          omega⟩
      · exact Or.inr ⟨hx, lt_of_lt_of_le hx2 hroom⟩
    · unfold Art.Alignable at hend
      show ptr + art.alignUp newSize kArenaAlignment < art.addressSpace
      omega

/-- **What is handed out may be written to** before the caller sees it. -/
theorem HandsOut.write (h : HandsOut art s s' ptr n) {bs : List Byte} (hbs : bs.length ≤ n) :
    HandsOut art s { s' with mem := s'.mem.write ptr bs } ptr n := by
  have hoff : ∀ x, x ∉ addresses (ptr, n) → s'.mem.write ptr bs x = s'.mem x := by
    intro x hx
    rcases Nat.lt_or_ge x ptr with hlow | hlow
    · exact Memory.write_of_lt hlow
    · refine Memory.write_of_ge (Nat.le_of_not_lt fun hhigh => hx ⟨hlow, ?_⟩)
      show x < ptr + n
      omega
  obtain ⟨hapart, -⟩ := List.pairwise_cons.1 h.account.apart
  refine ⟨h.blocks_eq, { h.inOrder with zero := ?_ }, h.account, ?_, h.dvd, h.lt⟩
  · intro x hx
    rw [← h.inOrder.zero x hx]
    exact hoff x (Set.disjoint_right.1 (h.account.free_apart _ List.mem_cons_self) hx)
  · intro b hb x hx
    rw [← h.kept b hb x hx]
    exact hoff x (Set.disjoint_right.1 (hapart _ (List.mem_map_of_mem hb)) hx)

/-- And blocks read as they did. -/
theorem HandsOut.read_block (h : HandsOut art s s' ptr n) (hs : s.Sound art)
    (hmem : (memory, size) ∈ s.blocks) (hle : bytes ≤ size) :
    s'.mem.read memory bytes = s.mem.read memory bytes := by
  refine Memory.read_congr fun i hi => h.kept _ hmem _ ⟨Nat.le_add_right _ _, ?_⟩
  have hup : size ≤ art.alignUp size kArenaAlignment := (hs.block _ hmem).2.1.eight.1
  show memory + i < memory + art.alignUp size kArenaAlignment
  omega

theorem ArenaProcess.Sound.forget (h : s.Sound art) {blocks : List (ℕ × ℕ)}
    (hsub : blocks.Sublist s.blocks) : ({ s with blocks } : ArenaProcess).Sound art where
  toInOrder := { h.toInOrder with }
  account := h.account.sublist (hsub.map _)
  block b hb := h.block b (hsub.subset hb)

theorem ArenaProcess.Sound.give_erase (h : (s.give ptr size).Sound art) (b : ℕ × ℕ) :
    (({ s with blocks := s.blocks.erase b } : ArenaProcess).give ptr size).Sound art := by
  unfold ArenaProcess.give at h ⊢
  split_ifs at h ⊢ with hptr
  · exact h.forget List.erase_sublist
  · exact h.forget (List.erase_sublist.cons_cons _)

/-- **`Realloc`** lets the block grow where it is the last of the current
arena, or hands out one that begins with what was in it. -/
theorem realloc_cases (h : s.Sound art) {ptrSize newSize : ℕ} (hhas : s.Has ptr ptrSize)
    (hle : ptrSize ≤ newSize) (hnew : art.Alignable newSize)
    (hmemory : s.Extensible art ptr ptrSize newSize ∨ (alloc art s newSize mmap malloc).2 ≠ nullptr)
    (hmmap : ∀ page ∈ mmap, s.Mappable art (art.alignUp newSize kArenaAlignment) page)
    (hmalloc : ∀ memory ∈ malloc,
      s.Mallocable art kArenaAlignment (art.alignUp newSize kArenaAlignment) memory) :
    let r := realloc art s ptr ptrSize newSize mmap malloc
    (ptr + art.alignUp ptrSize kArenaAlignment = s.ptr_ ∧
      ptr + art.alignUp newSize kArenaAlignment ≤ s.end_ ∧
      r = ({ s with ptr_ := ptr + art.alignUp newSize kArenaAlignment }, ptr)) ∨
    HandsOut art s r.1 r.2 (art.alignUp newSize kArenaAlignment) ∧
      r.1.mem.read r.2 ptrSize = s.mem.read ptr ptrSize := by
  intro r
  rcases realloc_eq h hhas hle hnew mmap malloc with hext | ⟨hnot, heq⟩
  · exact Or.inl hext
  right
  rcases handsOut_alloc h hnew hmmap hmalloc with hout | ⟨-, hnone⟩
  · have hup := hnew.eight.1
    set old := (alloc art s newSize mmap malloc).1.mem.read ptr ptrSize with hread
    have hlength : old.length = ptrSize := Memory.length_read
    have hsame : old = s.mem.read ptr ptrSize := by
      rcases hhas with ⟨-, rfl⟩ | hmem
      · rfl
      · exact hout.read_block h hmem le_rfl
    have hfits : old.length ≤ art.alignUp newSize kArenaAlignment := by omega
    have hr : r = _ := heq
    rw [hr]
    refine ⟨hout.write hfits, ?_⟩
    rw [← hsame, ← hlength]
    exact Memory.read_write_self
  · exact absurd (congrArg Prod.snd hnone) (hmemory.resolve_left hnot)

/-! ## A step -/

/-- **Every event keeps the allocator sound.** -/
theorem sound_arenaStep (s : ArenaProcess) (e : ArenaEvent) (h : s.Sound art)
    (he : arenaAdmissible art s e) : (arenaStep art s e).Sound art := by
  have hnull : ∀ size, s.give nullptr size = s := fun size => if_pos rfl
  rcases e with ⟨bytes, mmap, malloc⟩ | ⟨bytes, mmap, memalign⟩ |
    ⟨ptr, ptrSize, newSize, mmap, malloc⟩ | _ | ⟨address, bytes⟩
  · -- `Alloc`
    obtain ⟨hbytes, hmmap, hmalloc⟩ := he
    rcases handsOut_alloc h hbytes hmmap hmalloc with hout | ⟨-, hnone⟩
    · exact hout.sound_give h hbytes rfl
    · simp only [arenaStep, hnone, hnull]
      exact h
  · -- `AllocAlign16`
    obtain ⟨hbytes, h16, hmmap, hmemalign⟩ := he
    rcases handsOut_allocAlign16 h hbytes h16 hmmap hmemalign with hout | ⟨-, hnone⟩
    · have hup : art.alignUp bytes kArenaAlignment = bytes := by
        refine alignUp_of_dvd (by decide) (Dvd.dvd.trans (by decide) h16) ?_
        unfold Art.Alignable at hbytes
        unfold kArenaAlignment
        omega
      exact hout.sound_give h hbytes hup
    · simp only [arenaStep, hnone, hnull]
      exact h
  · -- `Realloc`
    obtain ⟨hhas, hle, hnew, hmemory, hmmap, hmalloc⟩ := he
    rcases realloc_cases h hhas hle hnew hmemory hmmap hmalloc with
      ⟨hlast, hroom, heq⟩ | ⟨hout, -⟩
    · simp only [arenaStep, heq, if_true]
      exact sound_extended h hhas hle hnew hlast hroom
    · have hgiven := hout.sound_give h hnew rfl
      simp only [arenaStep]
      split_ifs with hsame
      · have herased := hgiven.give_erase (ptr, ptrSize)
        rw [hsame] at herased
        exact herased
      · exact hgiven
  · exact sound_resetCurrentArena h
  · -- a store
    obtain ⟨b, hb, hlow, hhigh⟩ := he
    have hup := (h.block b hb).2.1.eight.1
    exact sound_store h hb hlow (by omega)

theorem sound_initial (art : Art) (mem : Memory) : (ArenaProcess.initial mem).Sound art := by
  have hspace := addressSpace_pos art
  refine ⟨⟨rfl, le_rfl, le_rfl, ?_, Nat.dvd_zero _, fun hlt => absurd hlt (lt_irrefl _), ?_⟩, ?_,
    nofun⟩
  · show 0 + 15 < art.addressSpace
    omega
  · rintro x ⟨hlow, hhigh⟩
    exact absurd (lt_of_le_of_lt hlow hhigh) (lt_irrefl _)
  · have hempty : (ArenaProcess.initial mem).account art = ⟨∅, ∅, []⟩ := by
      simp [ArenaProcess.account, ArenaProcess.initial, ArenaProcess.ranges]
    rw [hempty]
    exact Allotment.sound_empty

theorem sound_exec {mem : Memory} {es : List ArenaEvent}
    (h : (arenaMachine art).Legal (ArenaProcess.initial mem) es) :
    ((arenaMachine art).exec (ArenaProcess.initial mem) es).Sound art :=
  Machine.exec_of_eachStep sound_arenaStep (sound_initial art mem) h

/-! ## Over runs -/

theorem ArenaProcess.Sound.subset_reserved (h : s.Sound art) {b : ℕ × ℕ} (hb : b ∈ s.blocks) :
    addresses b ⊆ addresses (reserved art b) :=
  Set.Ico_subset_Ico_right (Nat.add_le_add_left (h.block b hb).2.1.eight.1 _)

theorem ArenaProcess.Sound.pairwise (h : s.Sound art) :
    s.blocks.Pairwise fun b b' => Disjoint (addresses b) (addresses b') := by
  refine (List.pairwise_map.1 h.account.apart).imp_of_mem fun hb hb' hd => ?_
  exact (hd.mono_left (h.subset_reserved hb)).mono_right (h.subset_reserved hb')

/-- **Blocks never overlap.** Whatever has been allocated, reallocated and
reset, every block starts at a multiple of 8, lies in what the allocator
has, and overlaps no other. -/
theorem blocks_apart (mem : Memory) (es : List ArenaEvent)
    (h : (arenaMachine art).Legal (ArenaProcess.initial mem) es) :
    let s := (arenaMachine art).exec (ArenaProcess.initial mem) es
    s.blocks.Pairwise (fun b b' => Disjoint (addresses b) (addresses b')) ∧
      ∀ b ∈ s.blocks, kArenaAlignment ∣ b.1 ∧
        ∀ x ∈ addresses b, ∃ r ∈ s.ranges art, x ∈ addresses r := by
  intro s
  have hs : s.Sound art := sound_exec h
  refine ⟨hs.pairwise, fun b hb => ⟨(hs.block b hb).1, fun x hx => ?_⟩⟩
  exact hs.account.blocks_subset _ (List.mem_map_of_mem hb) (hs.subset_reserved hb hx)

/-- Blocks of the first arena, one of them grown in place. -/
def sampleArenaRun : List ArenaEvent :=
  [.alloc 5 (some 65536) none, .allocAlign16 32 none none, .realloc 65552 32 48 none none,
    .store 65536 [7]]

/-- And one that goes to an arena of its own. -/
def sampleRealloc : ArenaEvent := .realloc 65536 5 100000 (some 262144) (some 1048576)

theorem blocks_apart_sample :
    ((arenaMachine sampleArt).exec (.initial fun _ => 1) (sampleArenaRun ++ [sampleRealloc])).blocks
        = [(262144, 100000), (65552, 48), (65536, 5)] ∧
      let s := (arenaMachine sampleArt).exec (.initial fun _ => 1)
        (sampleArenaRun ++ [sampleRealloc])
      s.blocks.Pairwise (fun b b' => Disjoint (addresses b) (addresses b')) ∧
        ∀ b ∈ s.blocks, kArenaAlignment ∣ b.1 ∧
          ∀ x ∈ addresses b, ∃ r ∈ s.ranges sampleArt, x ∈ addresses r :=
  ⟨by decide +kernel, blocks_apart (fun _ => 1) _ (by decide +kernel)⟩

/-- An event that leaves the bytes at `b` alone is no store that meets them. -/
def Spares (b : ℕ × ℕ) : ArenaEvent → Prop
  | .store address bytes => RangesApart (address, bytes.length) b
  | _ => True

/-- **The bytes at `b`** are a block's, from its start, and are `bs`. -/
structure Holds (b : ℕ × ℕ) (bs : List Byte) (s : ArenaProcess) : Prop where
  inBlock : ∃ size, (b.1, size) ∈ s.blocks ∧ b.2 ≤ size
  read : s.mem.read b.1 b.2 = bs

section Holds

variable {b : ℕ × ℕ} {bs : List Byte}

theorem mem_give {size : ℕ} (h : b ∈ s.blocks) : b ∈ (s.give ptr size).blocks := by
  unfold ArenaProcess.give
  split_ifs
  · exact h
  · exact List.mem_cons_of_mem _ h

@[simp] theorem mem_of_give : (s.give ptr size).mem = s.mem := by
  unfold ArenaProcess.give
  split_ifs <;> rfl

/-- **No call that hands out memory** writes to a block. -/
theorem HandsOut.holds (h : HandsOut art s s' ptr n) (hs : s.Sound art) (hb : Holds b bs s) :
    Holds b bs s' := by
  obtain ⟨⟨size, hmem, hle⟩, hread⟩ := hb
  exact ⟨⟨size, h.blocks_eq ▸ hmem, hle⟩, (h.read_block hs hmem hle).trans hread⟩

/-- Nor is a block gone that has grown. -/
theorem Holds.grow (h : Holds b bs s) {ptrSize newSize : ℕ} (hle : ptrSize ≤ newSize)
    (hnull : ∀ c ∈ s.blocks, c.1 ≠ nullptr) :
    Holds b bs (({ s with blocks := s.blocks.erase (ptr, ptrSize) } : ArenaProcess).give
      ptr newSize) := by
  obtain ⟨⟨size, hmem, hsize⟩, hread⟩ := h
  refine ⟨?_, by rw [mem_of_give]; exact hread⟩
  by_cases hsame : (b.1, size) = (ptr, ptrSize)
  · obtain ⟨rfl, rfl⟩ := Prod.mk.inj hsame
    have hptr : b.1 ≠ nullptr := hnull (b.1, size) hmem
    refine ⟨newSize, ?_, by omega⟩
    rw [ArenaProcess.give, if_neg hptr]
    exact List.mem_cons_self
  · exact ⟨size, mem_give ((List.mem_erase_of_ne hsame).2 hmem), hsize⟩

theorem Holds.give (h : Holds b bs s) : Holds b bs (s.give ptr size) := by
  obtain ⟨⟨size', hmem, hsize⟩, hread⟩ := h
  exact ⟨⟨size', mem_give hmem, hsize⟩, by rw [mem_of_give]; exact hread⟩

theorem HandsOutOr.holds {r : ArenaProcess × ℕ} (h : HandsOutOr art s malloc r n)
    (hs : s.Sound art) (hb : Holds b bs s) : Holds b bs (r.1.give r.2 size) := by
  rcases h with hout | ⟨-, rfl⟩
  · exact (hout.toHandsOut.holds hs hb).give
  · exact hb.give

/-- **No event but a store** changes what a block holds. -/
theorem holds_arenaStep (s : ArenaProcess) (e : ArenaEvent) (hs : s.Sound art)
    (he : arenaAdmissible art s e) (hspares : Spares b e) (h : Holds b bs s) :
    Holds b bs (arenaStep art s e) := by
  rcases e with ⟨bytes, mmap, malloc⟩ | ⟨bytes, mmap, memalign⟩ |
    ⟨ptr, ptrSize, newSize, mmap, malloc⟩ | _ | ⟨address, bytes⟩
  · obtain ⟨hbytes, hmmap, hmalloc⟩ := he
    exact (handsOut_alloc hs hbytes hmmap hmalloc).holds hs h
  · obtain ⟨hbytes, h16, hmmap, hmemalign⟩ := he
    exact (handsOut_allocAlign16 hs hbytes h16 hmmap hmemalign).holds hs h
  · obtain ⟨hhas, hle, hnew, hmemory, hmmap, hmalloc⟩ := he
    have hnull : ∀ c ∈ s.blocks, c.1 ≠ nullptr := fun c hc => (hs.block c hc).2.2.2
    rcases realloc_cases hs hhas hle hnew hmemory hmmap hmalloc with ⟨-, -, heq⟩ | ⟨hout, -⟩
    · simp only [arenaStep, heq, if_true]
      have hmoved : Holds b bs { s with ptr_ := ptr + art.alignUp newSize kArenaAlignment } :=
        ⟨h.inBlock, h.read⟩
      exact hmoved.grow hle hnull
    · have hcopied := hout.holds hs h
      simp only [arenaStep]
      split_ifs with hsame
      · refine hcopied.grow hle ?_
        intro c hc
        exact hnull c (hout.blocks_eq ▸ hc)
      · exact hcopied.give
  · refine ⟨?_, ?_⟩
    · simpa only [arenaStep, resetCurrentArena_eq] using h.inBlock
    · simpa only [arenaStep, resetCurrentArena_eq] using h.read
  · refine ⟨h.inBlock, ?_⟩
    rw [← h.read]
    exact Memory.read_write_of_disjoint hspares

/-- **A block keeps its bytes**: over any run no store meets them, whatever
is allocated, reallocated and reset meanwhile, they read the same. -/
theorem block_kept (mem : Memory) (es es' : List ArenaEvent)
    (h : (arenaMachine art).Legal (ArenaProcess.initial mem) (es ++ es'))
    (hb : b ∈ ((arenaMachine art).exec (ArenaProcess.initial mem) es).blocks)
    (hspares : ∀ e ∈ es', Spares b e) :
    ((arenaMachine art).exec (ArenaProcess.initial mem) (es ++ es')).mem.read b.1 b.2 =
      ((arenaMachine art).exec (ArenaProcess.initial mem) es).mem.read b.1 b.2 := by
  obtain ⟨hlegal, hlegal'⟩ := Machine.legal_append.1 h
  have hguard := Machine.eachStep_and.2 ⟨hlegal', Machine.eachStep_of_forall hspares⟩
  have hrun := Machine.exec_of_eachStep
    (P := fun s => s.Sound art ∧ Holds b
      (((arenaMachine art).exec (ArenaProcess.initial mem) es).mem.read b.1 b.2) s)
    (fun s e hP hG => ⟨sound_arenaStep s e hP.1 hG.1, holds_arenaStep s e hP.1 hG.1 hG.2 hP.2⟩)
    ⟨sound_exec hlegal, ⟨⟨b.2, hb, le_rfl⟩, rfl⟩⟩ hguard
  rw [Machine.exec_append]
  exact hrun.2.read

theorem block_kept_sample :
    ((arenaMachine sampleArt).exec (.initial fun _ => 1)
        (sampleArenaRun ++ [sampleRealloc])).mem.read 65536 5 =
      ((arenaMachine sampleArt).exec (.initial fun _ => 1) sampleArenaRun).mem.read 65536 5 :=
  block_kept (b := (65536, 5)) (fun _ => 1) sampleArenaRun [sampleRealloc] (by decide +kernel)
    (by decide +kernel) (by simp [sampleRealloc, Spares])

end Holds

/-- **Memory comes zeroed** unless `malloc` gave it, whatever the allocator
has been through. -/
theorem alloc_zeroed (mem : Memory) (es : List ArenaEvent) (bytes : ℕ) (mmap malloc : Option ℕ)
    (h : (arenaMachine art).Legal (ArenaProcess.initial mem) (es ++ [.alloc bytes mmap malloc])) :
    let s := (arenaMachine art).exec (ArenaProcess.initial mem) es
    let r := alloc art s bytes mmap malloc
    r.2 ≠ nullptr → r.1.mallocs = s.mallocs → r.1.mem.read r.2 bytes = List.replicate bytes 0 := by
  intro s r hptr hmallocs
  obtain ⟨hlegal, ⟨hbytes, hmmap, hmalloc⟩, -⟩ := Machine.legal_append.1 h
  have hs : s.Sound art := sound_exec hlegal
  rcases handsOut_alloc hs hbytes hmmap hmalloc with hout | ⟨-, hnone⟩
  · refine List.ext_getElem (by simp) fun i hi hi' => ?_
    rw [Memory.length_read] at hi
    have hup := hbytes.eight.1
    have hzero : r.1.mem (r.2 + i) = 0 := by
      refine hout.zeroed hmallocs _ ⟨Nat.le_add_right _ _, ?_⟩
      show r.2 + i < r.2 + art.alignUp bytes kArenaAlignment
      omega
    simpa [Memory.read] using hzero
  · exact absurd (congrArg Prod.snd hnone) hptr

theorem alloc_zeroed_sample :
    let s := (arenaMachine sampleArt).exec (.initial fun _ => 1) sampleArenaRun
    let r := alloc sampleArt s 20 none none
    r.2 = 65600 ∧ r.1.mem.read r.2 20 = List.replicate 20 0 :=
  ⟨by decide +kernel, alloc_zeroed (fun _ => 1) sampleArenaRun 20 none none (by decide +kernel)
    (by decide +kernel) (by decide +kernel)⟩

/-- **What is reallocated keeps its bytes**, in place or in a new block. -/
theorem realloc_read (mem : Memory) (es : List ArenaEvent) (ptr ptrSize newSize : ℕ)
    (mmap malloc : Option ℕ)
    (h : (arenaMachine art).Legal (ArenaProcess.initial mem)
      (es ++ [.realloc ptr ptrSize newSize mmap malloc])) :
    let s := (arenaMachine art).exec (ArenaProcess.initial mem) es
    let r := realloc art s ptr ptrSize newSize mmap malloc
    r.1.mem.read r.2 ptrSize = s.mem.read ptr ptrSize := by
  intro s r
  obtain ⟨hlegal, ⟨hhas, hle, hnew, hmemory, hmmap, hmalloc⟩, -⟩ := Machine.legal_append.1 h
  have hs : s.Sound art := sound_exec hlegal
  rcases realloc_cases hs hhas hle hnew hmemory hmmap hmalloc with ⟨-, -, heq⟩ | ⟨-, hread⟩
  · have hr : r = _ := heq
    rw [hr]
  · exact hread

theorem realloc_read_sample :
    let s := (arenaMachine sampleArt).exec (.initial fun _ => 1) sampleArenaRun
    let r := realloc sampleArt s 65536 5 100000 (some 262144) (some 1048576)
    r.2 = 262144 ∧ r.1.mem.read r.2 5 = s.mem.read 65536 5 :=
  ⟨by decide +kernel, realloc_read (fun _ => 1) sampleArenaRun 65536 5 100000 (some 262144)
    (some 1048576) (by decide +kernel)⟩

end LSPlant
