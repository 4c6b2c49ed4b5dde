import LSPlant.Trampoline.Pool
import LSPlant.Library.Machine
/-!
# Trampolines generated by many threads

`GenerateTrampolineFor` one atomic step at a time. Any number of calls are
in progress, and any of them may take its next step next. What a call has
read of the pool may be stale by the time it maps a page: pages are mapped
and stored one after another, and the slots left in the one before are
lost, which is harmless. What is not is a count that goes on while no page
can be mapped: every attempt increments the pool word, and the count
carries into the page.

`SlotsHeld` is the invariant: every call that has an address has a slot of
a mapped page to itself, below the count where the page is the one in use,
and of a page still to be stored nobody but the call that mapped it has a
slot.
-/

namespace LSPlant

/-! ## Calls -/

/-- **Where a call is**: before its `fetch_add`, before it takes the lock, in
`wait`, before `mmap`, before it clears the lock and gives up, before it
stores the page it has mapped, before it clears the lock with that page
stored, before `mprotect`; or it has returned. -/
inductive CallStage where
  | start
  | full
  | waiting
  | mapping
  | failing
  | storing (page : ℕ)
  | clearing (page : ℕ)
  | protecting (address : ℕ)
  | returned (address : ℕ)
  | failed
deriving DecidableEq

/-- The address a call has. -/
def CallStage.address : CallStage → Option ℕ
  | storing page | clearing page => some page
  | protecting address | returned address => some address
  | _ => none

/-- **The pool and the calls**, by number, and `trampoline_lock`. -/
structure PoolState where
  trampolines : Trampolines
  locked : Bool
  calls : ℕ → CallStage

/-- No call has begun. -/
def PoolState.initial (mem : Memory) : PoolState where
  trampolines := { pool := 0, pages := ∅, mem := mem }
  locked := false
  calls := fun _ => .start

/-- A step of a call: `mmap` with the page it returns, `mprotect` and
whether it succeeds, or any other. -/
inductive PoolEvent where
  | step (call : ℕ)
  | mmap (call : ℕ) (page : Option ℕ)
  | mprotect (call : ℕ) (ok : Bool)
deriving DecidableEq

/-- The call goes to another stage. -/
def PoolState.goes (s : PoolState) (call : ℕ) (stage : CallStage) : PoolState :=
  { s with calls := Function.update s.calls call stage }

/-- **One atomic step** of a call, other than `mmap` and `mprotect`. -/
def callStep (art : Art) (s : PoolState) (call : ℕ) : CallStage → PoolState
  | .start =>
    let count := art.slotCount s.trampolines.pool
    let page := art.pageOf s.trampolines.pool
    -- counted, whether or not there is room
    let s := { s with
      trampolines := { s.trampolines with pool := art.fetchAdd s.trampolines.pool } }
    if page = 0 ∨ art.trampolineNumPerPage ≤ count then s.goes call .full
    else s.goes call (.protecting (page + count * art.arch.trampolineSize))
  | .full =>
    if s.locked then s.goes call .waiting else { s with locked := true }.goes call .mapping
  | .waiting => s.goes call .start
  | .failing => { s with locked := false }.goes call .failed
  | .storing page =>
    { s with trampolines := { s.trampolines with pool := page + 1 } }.goes call (.clearing page)
  | .clearing page => { s with locked := false }.goes call (.protecting page)
  | .mapping | .protecting _ | .returned _ | .failed => s

/-- `mprotect`, and what follows it: the trampoline is written. `hook` is
the argument of each call. -/
def protectStep (art : Art) (hook : ℕ → ArtMethodPtr) (s : PoolState) (call : ℕ) (ok : Bool) :
    CallStage → PoolState
  | .protecting address =>
    if art.pageOf address ≠ 0 ∧ ok = false then s.goes call .failed
    else { s with trampolines := { s.trampolines with
      mem := (writeTrampoline art s.trampolines.mem address (hook call)).1 } }.goes
        call (.returned address)
  | _ => s

/-- **The state after a step.** -/
def poolStep (art : Art) (hook : ℕ → ArtMethodPtr) (s : PoolState) : PoolEvent → PoolState
  | .step call => callStep art s call (s.calls call)
  | .mmap call none => s.goes call .failing
  | .mmap call (some page) =>
    { s with trampolines := { s.trampolines with pages := insert page s.trampolines.pages } }.goes
      call (.storing page)
  | .mprotect call ok => protectStep art hook s call ok (s.calls call)

/-- Whether a call can take a step that is not `mmap` or `mprotect`: it waits
while the lock is taken. -/
def callAdmissible (s : PoolState) : CallStage → Prop
  | .waiting => s.locked = false
  | .start | .full | .failing | .storing _ | .clearing _ => True
  | .mapping | .protecting _ | .returned _ | .failed => False

instance (s : PoolState) : (stage : CallStage) → Decidable (callAdmissible s stage)
  | .waiting => inferInstanceAs (Decidable (s.locked = false))
  | .start | .full | .failing | .storing _ | .clearing _ => .isTrue trivial
  | .mapping | .protecting _ | .returned _ | .failed => .isFalse id

/-- `mprotect` succeeds on mapped pages only, be they the pool's or
another's. -/
def protectAdmissible (art : Art) (others : Finset ℕ) (s : PoolState) (ok : Bool) :
    CallStage → Prop
  | .protecting address => ok = true →
      art.pageOf address ∈ s.trampolines.pages ∨ art.pageOf address ∈ others
  | _ => False

instance (art : Art) (others : Finset ℕ) (s : PoolState) (ok : Bool) :
    (stage : CallStage) → Decidable (protectAdmissible art others s ok stage)
  | .protecting address => inferInstanceAs (Decidable (ok = true →
      art.pageOf address ∈ s.trampolines.pages ∨ art.pageOf address ∈ others))
  | .start | .full | .waiting | .mapping | .failing | .storing _ | .clearing _ | .returned _
  | .failed => .isFalse id

/-- **What the system promises** the calls. `mmap` returns a page nobody
has. -/
def poolAdmissible (art : Art) (others : Finset ℕ) (s : PoolState) : PoolEvent → Prop
  | .step call => callAdmissible s (s.calls call)
  | .mmap call page => s.calls call = .mapping ∧
      ∀ p ∈ page, s.trampolines.Mappable art p ∧ p ∉ others
  | .mprotect call ok => protectAdmissible art others s ok (s.calls call)

instance (art : Art) (others : Finset ℕ) (s : PoolState) :
    (e : PoolEvent) → Decidable (poolAdmissible art others s e)
  | .step call => inferInstanceAs (Decidable (callAdmissible s (s.calls call)))
  | .mmap call page => inferInstanceAs (Decidable (s.calls call = .mapping ∧
      ∀ p ∈ page, s.trampolines.Mappable art p ∧ p ∉ others))
  | .mprotect _ ok => inferInstanceAs (Decidable (protectAdmissible art others s ok _))

/-- **The machine of all calls.** -/
def poolMachine (art : Art) (hook : ℕ → ArtMethodPtr) (others : Finset ℕ) :
    Machine PoolState PoolEvent where
  step := poolStep art hook
  admissible := poolAdmissible art others

/-- **Trampolines are not shared**: what successful calls have returned does
not overlap, and each lies in a page of the pool. -/
def Exclusive (art : Art) (s : PoolState) : Prop :=
  (∀ c c' a a', c ≠ c' → s.calls c = .returned a → s.calls c' = .returned a' →
      a + art.arch.trampolineSize ≤ a' ∨ a' + art.arch.trampolineSize ≤ a) ∧
    ∀ c a, s.calls c = .returned a → ∃ q ∈ s.trampolines.pages,
      q ≤ a ∧ a + art.arch.trampolineSize ≤ q + art.pageSize

/-- **The count does not carry**: no `fetch_add` is made at the last count. -/
def KeepsPage (art : Art) (s : PoolState) : PoolEvent → Prop
  | .step call => s.calls call = .start → s.trampolines.NoCarry art
  | _ => True

instance (art : Art) (s : PoolState) : (e : PoolEvent) → Decidable (KeepsPage art s e)
  | .step call => inferInstanceAs (Decidable (s.calls call = .start → s.trampolines.NoCarry art))
  | .mmap _ _ | .mprotect _ _ => .isTrue trivial

/-! ## Slots -/

variable {art : Art} {hook : ℕ → ArtMethodPtr} {others : Finset ℕ} {s : PoolState} {c c' : ℕ}
  {stage : CallStage} {a q q' i i' : ℕ}

/-- **A call has this slot**, with nobody else in a page still to be
stored. -/
structure Slot (art : Art) (s : PoolState) (c a q i : ℕ) : Prop where
  mem : q ∈ s.trampolines.pages
  lt : i < art.trampolineNumPerPage
  eq : a = q + i * art.arch.trampolineSize
  used : q = art.pageOf s.trampolines.pool → i < s.trampolines.pool % art.pageSize
  only : ∀ c', s.calls c' = .storing q → c' = c

/-- **Every call with an address has a slot to itself.** -/
structure SlotsHeld (art : Art) (s : PoolState) : Prop where
  ok : s.trampolines.Ok art
  storing : ∀ c q, s.calls c = .storing q →
    q ∈ s.trampolines.pages ∧ q ≠ art.pageOf s.trampolines.pool
  held : ∀ c a, (s.calls c).address = some a → ∃ q i, Slot art s c a q i
  distinct : ∀ c c' a, (s.calls c).address = some a → (s.calls c').address = some a → c = c'

/-- A slot is in one page, at one place. -/
theorem slot_unique (hq : q % art.pageSize = 0) (hq' : q' % art.pageSize = 0)
    (hi : i < art.trampolineNumPerPage) (hi' : i' < art.trampolineNumPerPage)
    (h : q + i * art.arch.trampolineSize = q' + i' * art.arch.trampolineSize) :
    q = q' ∧ i = i' := by
  have hle := art.slot_le_page hi
  have hle' := art.slot_le_page hi'
  have hsize := art.trampolineSize_pos
  have hpage : q = q' := by
    rcases art.pageSize_eq with hp | hp <;> rw [hp] at hq hq' hle hle' <;> omega
  subst hpage
  exact ⟨rfl, Nat.eq_of_mul_eq_mul_right hsize (Nat.add_left_cancel h)⟩

/-- A page is its own first slot. -/
theorem slot_first (hq : q % art.pageSize = 0) (hq' : q' % art.pageSize = 0)
    (hi : i < art.trampolineNumPerPage) (h : q' = q + i * art.arch.trampolineSize) :
    q = q' ∧ i = 0 := by
  have hfirst : q + i * art.arch.trampolineSize = q' + 0 * art.arch.trampolineSize := by
    rw [← h, Nat.zero_mul, Nat.add_zero]
  exact slot_unique hq hq' hi art.trampolineNumPerPage_pos hfirst

/-- A call that is not to store a page leaves who is. -/
theorem storing_of_others {s' : PoolState} (hothers : ∀ c' ≠ c, s'.calls c' = s.calls c')
    (hnot : ∀ q, s'.calls c ≠ .storing q) (h : s'.calls c' = .storing q) :
    s.calls c' = .storing q := by
  have hne : c' ≠ c := by
    rintro rfl
    exact hnot q h
  rw [← hothers c' hne]
  exact h

/-- A slot is still one where its page is, and the count is not behind it. -/
theorem Slot.kept (h : Slot art s c a q i) {s' : PoolState} (hmem : q ∈ s'.trampolines.pages)
    (hused : q = art.pageOf s'.trampolines.pool → i < s'.trampolines.pool % art.pageSize)
    (hstill : ∀ c', s'.calls c' = .storing q → s.calls c' = .storing q) : Slot art s' c a q i :=
  ⟨hmem, h.lt, h.eq, hused, fun c' hq => h.only c' (hstill c' hq)⟩

namespace SlotsHeld

theorem initial (mem : Memory) : SlotsHeld art (.initial mem) where
  ok := {
    pool_lt := Nat.pow_pos (by omega)
    page_mem := Or.inl (by simp [Art.pageOf, PoolState.initial])
    aligned := fun q hq => absurd hq (Finset.notMem_empty q)
    pages_le := fun q hq => absurd hq (Finset.notMem_empty q) }
  storing _ _ h := by cases h
  held _ _ h := by cases h
  distinct _ _ _ h := by cases h

/-- **What is held is not shared.** -/
theorem exclusive (h : SlotsHeld art s) : Exclusive art s := by
  constructor
  · intro c c' a a' hne hc hc'
    obtain ⟨q, i, hs⟩ := h.held c a (by rw [hc]; rfl)
    obtain ⟨q', i', hs'⟩ := h.held c' a' (by rw [hc']; rfl)
    have haa : a ≠ a' := fun he =>
      hne (h.distinct c c' a (by rw [hc]; rfl) (by rw [hc', he]; rfl))
    rw [hs.eq, hs'.eq] at haa ⊢
    exact slots_disjoint (h.ok.aligned q hs.mem) (h.ok.aligned q' hs'.mem)
      (art.slot_le_page hs.lt) (art.slot_le_page hs'.lt) haa
  · intro c a hc
    obtain ⟨q, i, hs⟩ := h.held c a (by rw [hc]; rfl)
    refine ⟨q, hs.mem, ?_, ?_⟩
    · rw [hs.eq]
      omega
    · have hle := art.slot_le_page hs.lt
      rw [hs.eq]
      omega

/-- **One call goes on.** It has the slot of its address to itself, and the
others keep theirs. -/
theorem goes (h : SlotsHeld art s) {s' : PoolState}
    (hcalls : ∀ c' ≠ c, s'.calls c' = s.calls c') (hok : s'.trampolines.Ok art)
    (hstoring : ∀ c' q, s'.calls c' = .storing q →
      q ∈ s'.trampolines.pages ∧ q ≠ art.pageOf s'.trampolines.pool)
    (hslot : ∀ a, (s'.calls c).address = some a → ∃ q i, Slot art s' c a q i)
    (hfree : ∀ a, (s'.calls c).address = some a → ∀ c' ≠ c, (s.calls c').address ≠ some a)
    (hkept : ∀ c' a q i, c' ≠ c → Slot art s c' a q i → Slot art s' c' a q i) :
    SlotsHeld art s' := by
  refine ⟨hok, hstoring, ?_, ?_⟩
  · intro c' a ha
    by_cases hc : c' = c
    · subst hc
      exact hslot a ha
    · rw [hcalls c' hc] at ha
      obtain ⟨q, i, hs⟩ := h.held c' a ha
      exact ⟨q, i, hkept c' a q i hc hs⟩
  · intro c₁ c₂ a h₁ h₂
    by_cases hc₁ : c₁ = c <;> by_cases hc₂ : c₂ = c
    · exact hc₁.trans hc₂.symm
    · subst hc₁
      rw [hcalls c₂ hc₂] at h₂
      exact absurd h₂ (hfree a h₁ c₂ hc₂)
    · subst hc₂
      rw [hcalls c₁ hc₁] at h₁
      exact absurd h₁ (hfree a h₂ c₁ hc₁)
    · rw [hcalls c₁ hc₁] at h₁
      rw [hcalls c₂ hc₂] at h₂
      exact h.distinct c₁ c₂ a h₁ h₂

/-- A call keeps its own slot from the others. -/
theorem address_ne (h : SlotsHeld art s) (ha : (s.calls c).address = some a) :
    ∀ c' ≠ c, (s.calls c').address ≠ some a :=
  fun c' hne ha' => hne (h.distinct c' c a ha' ha)

/-- **A step that touches neither pool nor pages** and gives the call no new
address. -/
theorem quiet (h : SlotsHeld art s) {s' : PoolState}
    (hpool : s'.trampolines.pool = s.trampolines.pool)
    (hpages : s'.trampolines.pages = s.trampolines.pages)
    (hcalls : s'.calls = Function.update s.calls c stage)
    (haddress : ∀ a, stage.address = some a → (s.calls c).address = some a)
    (hnot : ∀ q, stage ≠ .storing q) : SlotsHeld art s' := by
  obtain ⟨hself, hothers⟩ : s'.calls c = stage ∧ ∀ c' ≠ c, s'.calls c' = s.calls c' := by
    rw [hcalls]
    exact ⟨Function.update_self .., fun c' hne => Function.update_of_ne hne ..⟩
  have hstill : ∀ c' q, s'.calls c' = .storing q → s.calls c' = .storing q :=
    fun c' q => storing_of_others hothers (hself ▸ hnot)
  have hkept : ∀ c' a q i, Slot art s c' a q i → Slot art s' c' a q i := fun c' a q i hs =>
    hs.kept (hpages ▸ hs.mem) (by rw [hpool]; exact hs.used) fun c'' => hstill c'' q
  refine h.goes hothers ?_ ?_ ?_ ?_ fun c' a q i _ => hkept c' a q i
  · exact ⟨hpool ▸ h.ok.pool_lt, by rw [hpool, hpages]; exact h.ok.page_mem,
      hpages ▸ h.ok.aligned, hpages ▸ h.ok.pages_le⟩
  · intro c' q hq
    rw [hpages, hpool]
    exact h.storing c' q (hstill c' q hq)
  · intro a ha
    rw [hself] at ha
    obtain ⟨q, i, hs⟩ := h.held c a (haddress a ha)
    exact ⟨q, i, hkept c a q i hs⟩
  · intro a ha
    rw [hself] at ha
    exact h.address_ne (haddress a ha)

/-- **A `fetch_add` off the carry** leaves every call its slot. -/
theorem counted (h : SlotsHeld art s) (hc : s.trampolines.NoCarry art) :
    SlotsHeld art { s with
      trampolines := { s.trampolines with pool := art.fetchAdd s.trampolines.pool } } := by
  obtain ⟨hadd, hpage, hmod⟩ := fetchAdd_of_noCarry h.ok.pool_lt hc
  have hpage' : art.pageOf (art.fetchAdd s.trampolines.pool) = art.pageOf s.trampolines.pool := by
    rw [hadd, hpage]
  have hmod' : art.fetchAdd s.trampolines.pool % art.pageSize =
      s.trampolines.pool % art.pageSize + 1 := by
    rw [hadd, hmod]
  constructor
  · refine ⟨Nat.mod_lt _ (Nat.pow_pos (by omega)), ?_, h.ok.aligned, h.ok.pages_le⟩
    show art.pageOf (art.fetchAdd s.trampolines.pool) = 0 ∨
      art.pageOf (art.fetchAdd s.trampolines.pool) ∈ s.trampolines.pages
    rw [hpage']
    exact h.ok.page_mem
  · intro c q hq
    refine ⟨(h.storing c q hq).1, ?_⟩
    show q ≠ art.pageOf (art.fetchAdd s.trampolines.pool)
    rw [hpage']
    exact (h.storing c q hq).2
  · intro c a ha
    obtain ⟨q, i, hs⟩ := h.held c a ha
    refine ⟨q, i, hs.mem, hs.lt, hs.eq, fun hq => ?_, hs.only⟩
    show i < art.fetchAdd s.trampolines.pool % art.pageSize
    rw [hmod']
    exact Nat.lt_succ_of_lt (hs.used (hq.trans hpage'))
  · exact h.distinct

/-- **A call gets a slot** nobody has. -/
theorem gives (h : SlotsHeld art s) (hs : Slot art s c a q i)
    (hfree : ∀ c', (s.calls c').address ≠ some a) :
    SlotsHeld art (s.goes c (.protecting a)) := by
  have hself : (s.goes c (.protecting a)).calls c = .protecting a := Function.update_self ..
  have hothers : ∀ c' ≠ c, (s.goes c (.protecting a)).calls c' = s.calls c' :=
    fun c' hne => Function.update_of_ne hne ..
  have hstill : ∀ c' q, (s.goes c (.protecting a)).calls c' = .storing q →
      s.calls c' = .storing q :=
    fun c' q => storing_of_others hothers fun q hq => nomatch hself.symm.trans hq
  refine h.goes hothers h.ok ?_ ?_ ?_ ?_
  · intro c' q hq
    exact h.storing c' q (hstill c' q hq)
  · intro a' ha
    rw [hself] at ha
    obtain rfl : a = a' := Option.some.inj ha
    exact ⟨q, i, hs.kept hs.mem hs.used fun c' => hstill c' q⟩
  · intro a' ha c' _
    rw [hself] at ha
    obtain rfl : a = a' := Option.some.inj ha
    exact hfree c'
  · intro c' a' q' i' _ hs'
    exact hs'.kept hs'.mem hs'.used fun c'' => hstill c'' q'

/-- The slot counted is one nobody has. -/
theorem free_of_count (h : SlotsHeld art s) (hpage : art.pageOf s.trampolines.pool ≠ 0)
    (hlt : s.trampolines.pool % art.pageSize < art.trampolineNumPerPage) (c' : ℕ) :
    (s.calls c').address ≠ some (art.pageOf s.trampolines.pool +
      s.trampolines.pool % art.pageSize * art.arch.trampolineSize) := by
  intro ha
  have hmem := h.ok.page_mem.resolve_left hpage
  obtain ⟨q, i, hs⟩ := h.held c' _ ha
  obtain ⟨hq, hi⟩ := slot_unique (h.ok.aligned _ hmem) (h.ok.aligned q hs.mem) hlt hs.lt hs.eq
  have hused := hs.used hq.symm
  omega

/-- **The first step of a call.** -/
theorem fetches (h : SlotsHeld art s) (hstart : s.calls c = .start)
    (hc : s.trampolines.NoCarry art) : SlotsHeld art (poolStep art hook s (.step c)) := by
  have hcounted := h.counted hc
  obtain ⟨hadd, hpage, hmod⟩ := fetchAdd_of_noCarry h.ok.pool_lt hc
  show SlotsHeld art (callStep art s c (s.calls c))
  rw [hstart]
  unfold callStep
  dsimp only
  rw [art.slotCount_eq]
  split
  · exact hcounted.quiet rfl rfl rfl (fun a ha => nomatch ha) (fun q hq => nomatch hq)
  · rename_i hroom
    rw [not_or, Nat.not_le] at hroom
    refine hcounted.gives (q := art.pageOf s.trampolines.pool)
      (i := s.trampolines.pool % art.pageSize) ?_ (h.free_of_count hroom.1 hroom.2)
    refine ⟨h.ok.page_mem.resolve_left hroom.1, hroom.2, rfl, fun _ => ?_, fun c' hq => ?_⟩
    · show s.trampolines.pool % art.pageSize < art.fetchAdd s.trampolines.pool % art.pageSize
      rw [hadd, hmod]
      exact Nat.lt_succ_self _
    · exact absurd rfl (h.storing c' _ hq).2

/-- **A page is mapped.** It has no slot anybody has. -/
theorem maps (h : SlotsHeld art s) {page : ℕ} (hmap : s.trampolines.Mappable art page) :
    SlotsHeld art (poolStep art hook s (.mmap c (some page))) := by
  have hself : (poolStep art hook s (.mmap c (some page))).calls c = .storing page :=
    Function.update_self ..
  have hothers : ∀ c' ≠ c, (poolStep art hook s (.mmap c (some page))).calls c' = s.calls c' :=
    fun c' hne => Function.update_of_ne hne ..
  have hnew : page ∉ s.trampolines.pages := hmap.2.2.1
  have hcurrent : page ≠ art.pageOf s.trampolines.pool := by
    rintro he
    rcases h.ok.page_mem with h0 | hmem
    · exact hmap.2.1 (he.trans h0)
    · exact hnew (he ▸ hmem)
  refine h.goes hothers (h.ok.mapped hmap) ?_ ?_ ?_ ?_
  · intro c' q hq
    by_cases hc : c' = c
    · subst hc
      cases hself.symm.trans hq
      exact ⟨Finset.mem_insert_self _ _, hcurrent⟩
    · obtain ⟨hmem, hne⟩ := h.storing c' q ((hothers c' hc).symm.trans hq)
      exact ⟨Finset.mem_insert_of_mem hmem, hne⟩
  · intro a ha
    rw [hself] at ha
    obtain rfl : page = a := Option.some.inj ha
    refine ⟨page, 0, Finset.mem_insert_self _ _, art.trampolineNumPerPage_pos, by omega,
      fun he => absurd he hcurrent, fun c' hq => ?_⟩
    by_contra hc
    exact hnew (h.storing c' page ((hothers c' hc).symm.trans hq)).1
  · -- no call has the page's first slot: it would be in a page mapped before
    intro a ha c' _ ha'
    rw [hself] at ha
    obtain rfl : page = a := Option.some.inj ha
    obtain ⟨q, i, hs⟩ := h.held c' page ha'
    obtain ⟨rfl, -⟩ := slot_first (h.ok.aligned q hs.mem) hmap.1 hs.lt hs.eq
    exact hnew hs.mem
  · intro c' a q i _ hs
    refine hs.kept (Finset.mem_insert_of_mem hs.mem) hs.used fun c'' hq => ?_
    have hc : c'' ≠ c := by
      rintro rfl
      cases hself.symm.trans hq
      exact hnew hs.mem
    exact (hothers c'' hc).symm.trans hq

/-- **A page is stored.** Only the call that has mapped it has a slot of it,
the first. -/
theorem stores (h : SlotsHeld art s) (hc : s.calls c = .storing q) :
    SlotsHeld art (poolStep art hook s (.step c)) := by
  obtain ⟨hmem, hcurrent⟩ := h.storing c q hc
  have hpage := pageOf_succ (h.ok.aligned q hmem)
  have hstep : poolStep art hook s (.step c) =
      { s with trampolines := { s.trampolines with pool := q + 1 } }.goes c (.clearing q) := by
    show callStep art s c (s.calls c) = _
    rw [hc]
    rfl
  rw [hstep]
  have hself : (PoolState.goes { s with trampolines := { s.trampolines with pool := q + 1 } }
      c (.clearing q)).calls c = .clearing q := Function.update_self ..
  have hothers : ∀ c' ≠ c, (PoolState.goes { s with
      trampolines := { s.trampolines with pool := q + 1 } } c (.clearing q)).calls c' =
        s.calls c' := fun c' hne => Function.update_of_ne hne ..
  have haddress : (s.calls c).address = some q := by
    rw [hc]
    rfl
  have hstill : ∀ c' q', (PoolState.goes { s with
      trampolines := { s.trampolines with pool := q + 1 } } c (.clearing q)).calls c' =
        .storing q' → s.calls c' = .storing q' :=
    fun c' q' => storing_of_others hothers fun q' hq => nomatch hself.symm.trans hq
  refine h.goes hothers (h.ok.stored hmem) ?_ ?_ ?_ ?_
  · intro c' q' hq
    have hne : c' ≠ c := by
      rintro rfl
      cases hself.symm.trans hq
    have hold := hstill c' q' hq
    refine ⟨(h.storing c' q' hold).1, ?_⟩
    show q' ≠ art.pageOf (q + 1)
    rw [hpage.1]
    -- the pages still to be stored are different pages
    rintro rfl
    exact h.address_ne haddress c' hne (by rw [hold]; rfl)
  · intro a ha
    rw [hself] at ha
    obtain rfl : q = a := Option.some.inj ha
    obtain ⟨q', i, hs⟩ := h.held c q haddress
    obtain ⟨rfl, rfl⟩ := slot_first (h.ok.aligned q' hs.mem) (h.ok.aligned q hmem) hs.lt hs.eq
    refine ⟨q', 0, hs.kept hs.mem (fun _ => ?_) fun c' => hstill c' q'⟩
    show 0 < (q' + 1) % art.pageSize
    rw [hpage.2]
    exact Nat.one_pos
  · intro a ha
    rw [hself] at ha
    obtain rfl : q = a := Option.some.inj ha
    exact h.address_ne haddress
  · intro c' a q' i hne hs
    refine hs.kept hs.mem (fun he => ?_) fun c'' => hstill c'' q'
    have hq : q' = q := he.trans hpage.1
    subst hq
    exact absurd (hs.only c hc).symm hne

/-- **Every step off the carry** leaves calls their slots. -/
theorem step {e : PoolEvent} (h : SlotsHeld art s) (hA : poolAdmissible art others s e)
    (hk : KeepsPage art s e) : SlotsHeld art (poolStep art hook s e) := by
  cases e with
  | step c =>
    cases hc : s.calls c with
    | start => exact h.fetches hc (hk hc)
    | storing q => exact h.stores hc
    | full =>
      show SlotsHeld art (callStep art s c (s.calls c))
      rw [hc]
      unfold callStep
      dsimp only
      split
      · exact h.quiet rfl rfl rfl (fun a ha => nomatch ha) (fun q hq => nomatch hq)
      · exact h.quiet rfl rfl rfl (fun a ha => nomatch ha) (fun q hq => nomatch hq)
    | waiting =>
      show SlotsHeld art (callStep art s c (s.calls c))
      rw [hc]
      exact h.quiet rfl rfl rfl (fun a ha => nomatch ha) (fun q hq => nomatch hq)
    | failing =>
      show SlotsHeld art (callStep art s c (s.calls c))
      rw [hc]
      exact h.quiet rfl rfl rfl (fun a ha => nomatch ha) (fun q hq => nomatch hq)
    | clearing page =>
      show SlotsHeld art (callStep art s c (s.calls c))
      rw [hc]
      exact h.quiet rfl rfl rfl (fun a ha => hc ▸ ha) (fun q hq => nomatch hq)
    | _ =>
      show SlotsHeld art (callStep art s c (s.calls c))
      rw [hc]
      exact h
  | mmap c page =>
    obtain ⟨-, hmap⟩ := hA
    cases page with
    | none => exact h.quiet rfl rfl rfl (fun a ha => nomatch ha) (fun q hq => nomatch hq)
    | some page => exact h.maps (hmap page rfl).1
  | mprotect c ok =>
    show SlotsHeld art (protectStep art hook s c ok (s.calls c))
    cases hc : s.calls c with
    | protecting address =>
      unfold protectStep
      dsimp only
      split
      · exact h.quiet rfl rfl rfl (fun a ha => nomatch ha) (fun q hq => nomatch hq)
      · exact h.quiet rfl rfl rfl (fun a ha => hc ▸ ha) (fun q hq => nomatch hq)
    | _ => exact h

end SlotsHeld

/-- **Trampolines of concurrent calls.** Along every run whose `fetch_add`s
are all made off the carry, what calls have returned does not overlap and
lies in pages of the pool. -/
theorem trampolines_exclusive {mem : Memory} {es : List PoolEvent}
    (hL : (poolMachine art hook others).Legal (.initial mem) es)
    (hk : (poolMachine art hook others).EachStep (KeepsPage art) (.initial mem) es) :
    (poolMachine art hook others).Everywhere (Exclusive art) (.initial mem) es := by
  have hheld : (poolMachine art hook others).Everywhere (SlotsHeld art) (.initial mem) es :=
    Machine.everywhere_of_eachStep (fun s e h hG => h.step hG.1 hG.2) (SlotsHeld.initial mem)
      (Machine.eachStep_and.2 ⟨hL, hk⟩)
  exact hheld.mono fun s h => h.exclusive

/-- Call 1 finds the lock taken and waits for the page call 0 maps. -/
def waitedRun : List PoolEvent :=
  [.step 0, .step 0, .step 1, .mmap 0 (some 65536), .step 1, .step 0, .step 0, .step 1, .step 1,
    .mprotect 1 true, .mprotect 0 true]

theorem trampolines_exclusive_sample :
    (poolMachine sampleArt id ∅).Everywhere (Exclusive sampleArt) (.initial fun _ => 0)
      waitedRun := by
  refine trampolines_exclusive ?_ ?_
  · show (poolMachine sampleArt id ∅).EachStep (poolAdmissible sampleArt ∅) _ _
    decide
  · decide

/-! ## A call alone -/

/-- The steps of a call nobody interrupts. -/
def aloneRun (art : Art) (s : PoolState) (call : ℕ) (mmap : Option ℕ) (ok : Bool) :
    List PoolEvent :=
  if art.pageOf s.trampolines.pool = 0 ∨
      art.trampolineNumPerPage ≤ art.slotCount s.trampolines.pool then
    match mmap with
    | none => [.step call, .step call, .mmap call none, .step call]
    | some page => [.step call, .step call, .mmap call (some page), .step call, .step call,
        .mprotect call ok]
  else [.step call, .mprotect call ok]

/-- **A call alone is `generateTrampolineFor`**, in one step for whoever
looks at the pool before and after. -/
theorem exec_aloneRun (s : PoolState) (hstart : s.calls c = .start) (hlock : s.locked = false)
    (mmap : Option ℕ) (ok : Bool) :
    let generated := generateTrampolineFor art s.trampolines (hook c) mmap ok
    (poolMachine art hook others).exec s (aloneRun art s c mmap ok) =
      { trampolines := generated.1
        locked := false
        calls := Function.update s.calls c
          (generated.2.elim .failed fun address => .returned address.1) } := by
  obtain ⟨trampolines, locked, calls⟩ := s
  subst hlock
  have hstart : calls c = .start := hstart
  intro generated
  unfold aloneRun
  -- no room and no page, a page just mapped, or a slot of the page in use
  by_cases hfull : art.pageOf trampolines.pool = 0 ∨
      art.trampolineNumPerPage ≤ art.slotCount trampolines.pool
  · cases mmap with
    | none =>
      simp [generated, generateTrampolineFor, takeSlot, hfull, hstart, poolMachine, poolStep,
        callStep, PoolState.goes]
    | some page =>
      by_cases hok : art.pageOf page ≠ 0 ∧ ok = false
      · simp [generated, generateTrampolineFor, takeSlot, hfull, hstart, poolMachine, poolStep,
          callStep, protectStep, PoolState.goes, hok]
      · simp [generated, generateTrampolineFor, takeSlot, hfull, hstart, poolMachine, poolStep,
          callStep, protectStep, PoolState.goes, hok]
  · by_cases hok : art.pageOf (art.pageOf trampolines.pool +
        art.slotCount trampolines.pool * art.arch.trampolineSize) ≠ 0 ∧ ok = false
    · simp [generated, generateTrampolineFor, takeSlot, hfull, hstart, poolMachine, poolStep,
        callStep, protectStep, PoolState.goes, hok]
    · simp [generated, generateTrampolineFor, takeSlot, hfull, hstart, poolMachine, poolStep,
        callStep, protectStep, PoolState.goes, hok]

/-- And one the system may bring, if its page is mapped. -/
theorem legal_aloneRun (s : PoolState) (hstart : s.calls c = .start) (hlock : s.locked = false)
    (mmap : Option ℕ) (ok : Bool) (hmap : ∀ p ∈ mmap, s.trampolines.Mappable art p ∧ p ∉ others)
    (hok : ok = true → ∀ a ∈ (takeSlot art s.trampolines mmap).2,
      art.pageOf a ∈ (takeSlot art s.trampolines mmap).1.pages ∨ art.pageOf a ∈ others) :
    (poolMachine art hook others).Legal s (aloneRun art s c mmap ok) := by
  obtain ⟨trampolines, locked, calls⟩ := s
  subst hlock
  have hstart : calls c = .start := hstart
  unfold aloneRun
  by_cases hfull : art.pageOf trampolines.pool = 0 ∨
      art.trampolineNumPerPage ≤ art.slotCount trampolines.pool
  · cases mmap with
    | none =>
      simp [hfull, hstart, poolMachine, poolStep, poolAdmissible, callAdmissible, callStep,
        PoolState.goes]
    | some page =>
      have hpage : ok = true → art.pageOf page ∈ insert page trampolines.pages ∨
          art.pageOf page ∈ others := by
        intro h
        have htake : takeSlot art trampolines (some page) =
            ({ trampolines with pool := page + 1, pages := insert page trampolines.pages },
              some page) := by
          simp [takeSlot, hfull]
        have hone := hok h page
        rw [htake] at hone
        exact hone rfl
      have hmappable : trampolines.Mappable art page ∧ page ∉ others := hmap page rfl
      have hcounted : Trampolines.Mappable art
          { trampolines with pool := art.fetchAdd trampolines.pool } page := hmappable.1
      simp only [Finset.mem_insert] at hpage
      simp [hfull, hstart, poolMachine, poolStep, poolAdmissible, callAdmissible,
        protectAdmissible, callStep, PoolState.goes, hcounted, hmappable.2]
      exact hpage
  · have hpage : ok = true → art.pageOf (art.pageOf trampolines.pool +
        art.slotCount trampolines.pool * art.arch.trampolineSize) ∈ trampolines.pages ∨
        art.pageOf (art.pageOf trampolines.pool +
          art.slotCount trampolines.pool * art.arch.trampolineSize) ∈ others := by
      intro h
      have htake : takeSlot art trampolines mmap =
          ({ trampolines with pool := art.fetchAdd trampolines.pool },
            some (art.pageOf trampolines.pool +
              art.slotCount trampolines.pool * art.arch.trampolineSize)) := by
        simp [takeSlot, hfull]
      have hone := hok h
      rw [htake] at hone
      exact hone _ rfl
    simp [hfull, hstart, poolMachine, poolStep, poolAdmissible, callAdmissible,
      protectAdmissible, callStep, PoolState.goes]
    exact hpage

/-! ## A count that goes on -/

/-- Page 69632 is somebody else's. -/
def sampleOthers : Finset ℕ := {69632}

/-- A process with no trampolines. -/
def samplePool : PoolState := .initial fun _ => 0

/-- The machine of its calls, each for the hook of its number. -/
def samplePoolMachine : Machine PoolState PoolEvent := poolMachine sampleArt id sampleOthers

/-- **Page 65536 is mapped for the first call, and none after it**: one call
after another, each alone. -/
def starvedRun : ℕ → List PoolEvent
  | 0 => aloneRun sampleArt samplePool 0 (some 65536) true
  | n + 1 => starvedRun n ++
      aloneRun sampleArt (samplePoolMachine.exec samplePool (starvedRun n)) (n + 1) none true

/-- **What the calls leave**: a count of them. -/
structure Starved (n : ℕ) (s : PoolState) : Prop where
  pool : s.trampolines.pool = 65537 + n
  pages : s.trampolines.pages = {65536}
  locked : s.locked = false
  calls : ∀ c, n < c → s.calls c = .start

/-- A call for which no page can be mapped counts. -/
theorem generateTrampolineFor_none (art : Art) (t : Trampolines) (m : ArtMethodPtr) (ok : Bool) :
    (generateTrampolineFor art t m none ok).1.pool = art.fetchAdd t.pool ∧
      (generateTrampolineFor art t m none ok).1.pages = t.pages := by
  have htake : (takeSlot art t none).1 = { t with pool := art.fetchAdd t.pool } := by
    rcases takeSlot_cases art t none with ⟨page, hp, -⟩ | h | ⟨-, -, h⟩
    · cases hp
    · rw [h]
    · rw [h]
  rcases generateTrampolineFor_cases art t m none ok with h | ⟨a, -, h⟩ <;> rw [h, htake] <;>
    exact ⟨rfl, rfl⟩

theorem starved_zero :
    samplePoolMachine.Legal samplePool (starvedRun 0) ∧
      Starved 0 (samplePoolMachine.exec samplePool (starvedRun 0)) := by
  have hmappable : samplePool.trampolines.Mappable sampleArt 65536 ∧ 65536 ∉ sampleOthers := by
    decide
  refine ⟨legal_aloneRun samplePool rfl rfl _ _ ?_ ?_, ?_⟩
  · rintro p ⟨⟩
    exact hmappable
  · intro _ a ha
    left
    revert a
    decide
  · unfold starvedRun samplePoolMachine
    rw [exec_aloneRun samplePool rfl rfl (some 65536) true]
    refine ⟨rfl, rfl, rfl, fun c hc => ?_⟩
    exact Function.update_of_ne (Nat.pos_iff_ne_zero.1 hc) _ _

/-- **One more call** counts one more. -/
theorem starved_succ {n : ℕ} (hn : n < 4095) (s : PoolState) (h : Starved n s) :
    samplePoolMachine.Legal s (aloneRun sampleArt s (n + 1) none true) ∧
      Starved (n + 1) (samplePoolMachine.exec s (aloneRun sampleArt s (n + 1) none true)) := by
  have hstart := h.calls (n + 1) (Nat.lt_succ_self n)
  refine ⟨legal_aloneRun s hstart h.locked none true (fun p hp => nomatch hp) ?_, ?_⟩
  · intro _ a ha
    -- what is counted is a slot of the page
    left
    rcases takeSlot_cases sampleArt s.trampolines none with ⟨page, hp, -⟩ | he | ⟨-, hlt, he⟩
    · cases hp
    · rw [he] at ha
      cases ha
    · rw [he] at ha ⊢
      obtain rfl := Option.some.inj ha
      have hle := sampleArt.slot_le_page hlt
      have hpage : sampleArt.pageOf s.trampolines.pool = 65536 := by
        rw [h.pool]
        show (65537 + n) / 4096 * 4096 = 65536
        omega
      show sampleArt.pageOf _ ∈ s.trampolines.pages
      rw [h.pages, Finset.mem_singleton, hpage]
      generalize s.trampolines.pool % sampleArt.pageSize * sampleArt.arch.trampolineSize = slot
        at hle
      have hle : slot + 20 ≤ 4096 := hle
      show (65536 + slot) / 4096 * 4096 = 65536
      omega
  · unfold samplePoolMachine
    rw [exec_aloneRun s hstart h.locked none true]
    obtain ⟨hpool, hpages⟩ := generateTrampolineFor_none sampleArt s.trampolines (n + 1) true
    refine ⟨?_, hpages.trans h.pages, rfl, fun c hc => ?_⟩
    · refine hpool.trans ?_
      rw [h.pool]
      show (65537 + n + 1) % 256 ^ 8 = 65537 + (n + 1)
      omega
    · refine (Function.update_of_ne (by omega) _ _).trans (h.calls c (by omega))

theorem starved (n : ℕ) (hn : n ≤ 4095) :
    samplePoolMachine.Legal samplePool (starvedRun n) ∧
      Starved n (samplePoolMachine.exec samplePool (starvedRun n)) := by
  induction n with
  | zero => exact starved_zero
  | succ n ih =>
    obtain ⟨hlegal, hstarved⟩ := ih (by omega)
    obtain ⟨hmore, hnext⟩ := starved_succ (by omega) _ hstarved
    refine ⟨Machine.legal_append.2 ⟨hlegal, hmore⟩, ?_⟩
    rw [starvedRun, Machine.exec_append]
    exact hnext

/-- **The count has carried**: the next call has an address in a page that is
not the pool's. -/
theorem starved_last {n : ℕ} (hn : n = 4095) (s : PoolState) (h : Starved n s) :
    samplePoolMachine.Legal s (aloneRun sampleArt s (n + 1) none true) ∧
      ¬ Exclusive sampleArt
        (samplePoolMachine.exec s (aloneRun sampleArt s (n + 1) none true)) := by
  have hstart := h.calls (n + 1) (Nat.lt_succ_self n)
  have hpool : s.trampolines.pool = 69632 := by
    rw [h.pool, hn]
  -- the word reads as page 69632 at count 0
  have htake : takeSlot sampleArt s.trampolines none =
      ({ s.trampolines with pool := 69633 }, some 69632) := by
    unfold takeSlot
    rw [hpool]
    rfl
  constructor
  · refine legal_aloneRun s hstart h.locked none true (fun p hp => nomatch hp) ?_
    intro _ a ha
    rw [htake] at ha
    obtain rfl := Option.some.inj ha
    right
    decide
  · rintro ⟨-, hpage⟩
    unfold samplePoolMachine at hpage
    rw [exec_aloneRun s hstart h.locked none true] at hpage
    have hreturned : (generateTrampolineFor sampleArt s.trampolines (n + 1) none true).2.elim
        CallStage.failed (fun address => .returned address.1) = .returned 69632 := by
      unfold generateTrampolineFor
      rw [htake]
      rfl
    obtain ⟨q, hq, -, hin⟩ := hpage (n + 1) 69632 (by
      rw [← hreturned]
      exact Function.update_self ..)
    have hpages := (generateTrampolineFor_none sampleArt s.trampolines (n + 1) true).2
    have hmem : q ∈ s.trampolines.pages := hpages ▸ hq
    rw [h.pages, Finset.mem_singleton] at hmem
    have hin : 69632 + 20 ≤ q + 4096 := hin
    omega

/-- **A page nobody mapped for trampolines**: 4096 calls after the first, a
call has another's page. -/
theorem foreign_page_returned :
    samplePoolMachine.Legal samplePool (starvedRun 4096) ∧
      ¬ samplePoolMachine.Everywhere (Exclusive sampleArt) samplePool (starvedRun 4096) := by
  obtain ⟨n, hn⟩ : ∃ n, n = 4095 := ⟨_, rfl⟩
  have hnext : 4096 = n + 1 := by omega
  obtain ⟨hlegal, hstarved⟩ := starved n hn.le
  obtain ⟨hlast, hforeign⟩ := starved_last hn _ hstarved
  rw [hnext]
  refine ⟨Machine.legal_append.2 ⟨hlegal, hlast⟩, fun heverywhere => hforeign ?_⟩
  have hend := heverywhere.exec
  rw [starvedRun, Machine.exec_append] at hend
  exact hend

end LSPlant
