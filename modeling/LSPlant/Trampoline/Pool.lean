import LSPlant.Trampoline.Write
import Mathlib.Data.Finset.Insert
/-!
# The trampoline pool

`GenerateTrampolineFor`. One word counts the slots of the page in use: the
page in its high bits, the next slot in its low 12 or 14 bits. Every call
takes a slot by incrementing the word, whether or not it succeeds, and a
page that is full is replaced by a page just mapped. As long as the slot
count never carries into the page bits, the addresses handed out are
slots of mapped pages and no two of them overlap.
-/

namespace LSPlant

/-- **The pool**: `trampoline_pool`, the pages mapped for it so far, and
the memory. -/
structure Trampolines where
  pool : ℕ
  pages : Finset ℕ
  mem : Memory

/-- `kTrampolineNumPerPage`. -/
def Art.trampolineNumPerPage (art : Art) : ℕ := art.pageSize / art.arch.trampolineSize

/-- The bit-field `count16k` or `count4k` of the pool word. -/
def Art.slotCount (art : Art) (word : ℕ) : ℕ :=
  if art.pageSize = 16384 then word % 2 ^ 14 else word % 2 ^ 12

/-- `word & ~(kPageSize - 1)`. -/
def Art.pageOf (art : Art) (word : ℕ) : ℕ := word / art.pageSize * art.pageSize

/-- The pool word incremented, as `fetch_add` does it. -/
def Art.fetchAdd (art : Art) (word : ℕ) : ℕ := (word + 1) % 256 ^ art.arch.pointerSize

/-- The address the loop of `GenerateTrampolineFor` settles on. `mmap` is
what mapping a page would return. -/
def takeSlot (art : Art) (s : Trampolines) (mmap : Option ℕ) : Trampolines × Option ℕ :=
  let count := art.slotCount s.pool
  let page := art.pageOf s.pool
  let s := { s with pool := art.fetchAdd s.pool }
  if page = 0 ∨ art.trampolineNumPerPage ≤ count then
    match mmap with
    | none => (s, none)
    | some page => ({ s with pool := page + 1, pages := insert page s.pages }, some page)
  else (s, some (page + count * art.arch.trampolineSize))

/-- **`GenerateTrampolineFor`**: the trampoline's address and its slot.
`mprotectOk` is whether the page can be made writable. -/
def generateTrampolineFor (art : Art) (s : Trampolines) (hook : ArtMethodPtr)
    (mmap : Option ℕ) (mprotectOk : Bool) : Trampolines × Option (ℕ × ℕ) :=
  match takeSlot art s mmap with
  | (s, none) => (s, none)
  | (s, some address) =>
    if art.pageOf address ≠ 0 ∧ mprotectOk = false then (s, none)
    else
      let written := writeTrampoline art s.mem address hook
      ({ s with mem := written.1 }, some (address, written.2))

/-- What `mmap` may return: a page of the address space not mapped yet. -/
def Trampolines.Mappable (art : Art) (s : Trampolines) (page : ℕ) : Prop :=
  page % art.pageSize = 0 ∧ page ≠ 0 ∧ page ∉ s.pages ∧
    page + art.pageSize ≤ 256 ^ art.arch.pointerSize

instance (art : Art) (s : Trampolines) (page : ℕ) : Decidable (s.Mappable art page) :=
  instDecidableAnd

/-- The next slot count is still a slot count: taking it does not move the
page. -/
def Trampolines.NoCarry (art : Art) (s : Trampolines) : Prop :=
  s.pool % art.pageSize ≠ art.pageSize - 1

instance (art : Art) (s : Trampolines) : Decidable (s.NoCarry art) := instDecidableNot

/-! ## What has been handed out -/

/-- **The pool is in order**: it counts in a mapped page, if any, and
mapped pages are pages. -/
structure Trampolines.Ok (art : Art) (s : Trampolines) : Prop where
  pool_lt : s.pool < 256 ^ art.arch.pointerSize
  page_mem : art.pageOf s.pool = 0 ∨ art.pageOf s.pool ∈ s.pages
  aligned : ∀ q ∈ s.pages, q % art.pageSize = 0
  pages_le : ∀ q ∈ s.pages, q + art.pageSize ≤ 256 ^ art.arch.pointerSize

/-- **Handed out**: a slot of a mapped page, below the count where the
page is the one in use. -/
def Trampolines.Handed (art : Art) (s : Trampolines) (address : ℕ) : Prop :=
  ∃ q ∈ s.pages, ∃ i < art.trampolineNumPerPage, address = q + i * art.arch.trampolineSize ∧
    (q = art.pageOf s.pool → i < s.pool % art.pageSize)

variable {art : Art} {s : Trampolines} {mmap : Option ℕ}

theorem Art.slotCount_eq (art : Art) (word : ℕ) : art.slotCount word = word % art.pageSize := by
  rcases art.pageSize_eq with h | h <;> simp [slotCount, h]

theorem Art.trampolineSize_pos (art : Art) : 0 < art.arch.trampolineSize := by
  cases art.arch <;> decide

theorem Art.trampolineNumPerPage_pos (art : Art) : 0 < art.trampolineNumPerPage := by
  unfold Art.trampolineNumPerPage
  rcases art.pageSize_eq with h | h <;> cases harch : art.arch <;> rw [h] <;> decide

theorem Art.trampolineSize_even (art : Art) : art.arch.trampolineSize % 2 = 0 := by
  unfold Arch.trampolineSize; omega

theorem Art.slot_le_page (art : Art) {i : ℕ} (h : i < art.trampolineNumPerPage) :
    i * art.arch.trampolineSize + art.arch.trampolineSize ≤ art.pageSize := by
  have hmul : (i + 1) * art.arch.trampolineSize ≤
      art.trampolineNumPerPage * art.arch.trampolineSize := Nat.mul_le_mul_right _ h
  have hdiv := Nat.div_mul_le_self art.pageSize art.arch.trampolineSize
  rw [Nat.add_mul, Nat.one_mul] at hmul
  exact hmul.trans hdiv

theorem Art.pointerSpace (art : Art) : 256 ^ art.arch.pointerSize % art.pageSize = 0 := by
  rcases art.pageSize_eq with h | h <;> cases harch : art.arch <;> rw [h] <;>
    simp [Arch.pointerSize]

/-- Slots of two pages do not overlap, nor do two slots of one page. -/
theorem slots_disjoint {k S q q' i i' : ℕ} (hq : q % S = 0) (hq' : q' % S = 0)
    (hi : i * k + k ≤ S) (hi' : i' * k + k ≤ S) (hne : q + i * k ≠ q' + i' * k) :
    q + i * k + k ≤ q' + i' * k ∨ q' + i' * k + k ≤ q + i * k := by
  rcases Nat.lt_trichotomy q q' with hlt | rfl | hlt
  · have hS : q + S ≤ q' := by
      obtain ⟨x, rfl⟩ := Nat.dvd_of_mod_eq_zero hq
      obtain ⟨y, rfl⟩ := Nat.dvd_of_mod_eq_zero hq'
      have hxy : x + 1 ≤ y := Nat.lt_of_mul_lt_mul_left hlt
      calc S * x + S = S * (x + 1) := by ring
        _ ≤ S * y := Nat.mul_le_mul_left S hxy
    omega
  · rcases Nat.lt_trichotomy i i' with hii | rfl | hii
    · have hmul : (i + 1) * k ≤ i' * k := Nat.mul_le_mul_right k hii
      rw [Nat.add_mul, Nat.one_mul] at hmul
      omega
    · exact absurd rfl hne
    · have hmul : (i' + 1) * k ≤ i * k := Nat.mul_le_mul_right k hii
      rw [Nat.add_mul, Nat.one_mul] at hmul
      omega
  · have hS : q' + S ≤ q := by
      obtain ⟨x, rfl⟩ := Nat.dvd_of_mod_eq_zero hq
      obtain ⟨y, rfl⟩ := Nat.dvd_of_mod_eq_zero hq'
      have hxy : y + 1 ≤ x := Nat.lt_of_mul_lt_mul_left hlt
      calc S * y + S = S * (y + 1) := by ring
        _ ≤ S * x := Nat.mul_le_mul_left S hxy
    omega

/-- **Trampolines handed out do not overlap.** -/
theorem Trampolines.Handed.disjoint (hok : s.Ok art) {a a' : ℕ} (h : s.Handed art a)
    (h' : s.Handed art a') (hne : a ≠ a') :
    a + art.arch.trampolineSize ≤ a' ∨ a' + art.arch.trampolineSize ≤ a := by
  obtain ⟨q, hq, i, hi, rfl, -⟩ := h
  obtain ⟨q', hq', i', hi', rfl, -⟩ := h'
  exact slots_disjoint (hok.aligned q hq) (hok.aligned q' hq') (art.slot_le_page hi)
    (art.slot_le_page hi') hne

/-- Every slot of a page is at an even address. -/
theorem Art.slot_even (art : Art) {page : ℕ} (hpage : page % art.pageSize = 0) (i : ℕ) :
    (page + i * art.arch.trampolineSize) % 2 = 0 := by
  have hsize : i * art.arch.trampolineSize % 2 = 0 := by
    rw [Nat.mul_mod, art.trampolineSize_even, Nat.mul_zero, Nat.zero_mod]
  have hpage2 : page % 2 = 0 := by
    rcases art.pageSize_eq with h | h <;> rw [h] at hpage <;> omega
  omega

/-- A trampoline is at an even address. -/
theorem Trampolines.Handed.even (hok : s.Ok art) {a : ℕ} (h : s.Handed art a) : a % 2 = 0 := by
  obtain ⟨q, hq, i, -, rfl, -⟩ := h
  exact art.slot_even (hok.aligned q hq) i

/-! ## Taking a slot -/

/-- Off the carry, `fetch_add` moves the count and not the page. -/
theorem fetchAdd_of_noCarry (hlt : s.pool < 256 ^ art.arch.pointerSize) (hc : s.NoCarry art) :
    art.fetchAdd s.pool = s.pool + 1 ∧ art.pageOf (s.pool + 1) = art.pageOf s.pool ∧
      (s.pool + 1) % art.pageSize = s.pool % art.pageSize + 1 := by
  have hspace := art.pointerSpace
  have hc' : s.pool % art.pageSize ≠ art.pageSize - 1 := hc
  have hne : s.pool + 1 ≠ 256 ^ art.arch.pointerSize := fun he => by
    rw [← he] at hspace
    rcases art.pageSize_eq with h | h <;> rw [h] at hspace hc' <;> omega
  refine ⟨Nat.mod_eq_of_lt (by omega), ?_, ?_⟩
  · unfold Art.pageOf
    rcases art.pageSize_eq with h | h <;> rw [h] at hc' ⊢ <;> omega
  · rcases art.pageSize_eq with h | h <;> rw [h] at hc' ⊢ <;> omega

/-- **What taking a slot does**, the two ways it can go. -/
theorem takeSlot_cases (art : Art) (s : Trampolines) (mmap : Option ℕ) :
    (∃ page, mmap = some page ∧ takeSlot art s mmap =
        ({ s with pool := page + 1, pages := insert page s.pages }, some page)) ∨
      takeSlot art s mmap = ({ s with pool := art.fetchAdd s.pool }, none) ∨
      (art.pageOf s.pool ≠ 0 ∧ s.pool % art.pageSize < art.trampolineNumPerPage ∧
        takeSlot art s mmap = ({ s with pool := art.fetchAdd s.pool },
          some (art.pageOf s.pool + s.pool % art.pageSize * art.arch.trampolineSize))) := by
  unfold takeSlot
  rw [art.slotCount_eq]
  by_cases h : art.pageOf s.pool = 0 ∨ art.trampolineNumPerPage ≤ s.pool % art.pageSize
  · cases mmap with
    | none => exact Or.inr (Or.inl (by simp [h]))
    | some page => exact Or.inl ⟨page, rfl, by simp [h]⟩
  · refine Or.inr (Or.inr ?_)
    rw [not_or, Nat.not_le] at h
    exact ⟨h.1, h.2, by simp [h.1, Nat.not_le.2 h.2]⟩

variable (art s mmap) in
/-- Taking a slot writes no memory. -/
@[simp] theorem takeSlot_mem : (takeSlot art s mmap).1.mem = s.mem := by
  rcases takeSlot_cases art s mmap with ⟨page, -, h⟩ | h | ⟨-, -, h⟩ <;> rw [h]

section Mapped

variable {page : ℕ}

/-- The word stored for a page counts from 1 in it. -/
theorem pageOf_succ (h : page % art.pageSize = 0) :
    art.pageOf (page + 1) = page ∧ (page + 1) % art.pageSize = 1 := by
  unfold Art.pageOf
  rcases art.pageSize_eq with hp | hp <;> rw [hp] at h ⊢ <;> omega

/-- A page more. -/
theorem Trampolines.Ok.mapped (hok : s.Ok art) (h : s.Mappable art page) :
    Trampolines.Ok art { s with pages := insert page s.pages } where
  pool_lt := hok.pool_lt
  page_mem := hok.page_mem.imp_right Finset.mem_insert_of_mem
  aligned q hq := by
    rcases Finset.mem_insert.1 hq with rfl | hq
    · exact h.1
    · exact hok.aligned q hq
  pages_le q hq := by
    rcases Finset.mem_insert.1 hq with rfl | hq
    · exact h.2.2.2
    · exact hok.pages_le q hq

/-- A page of the pool is the one in use. -/
theorem Trampolines.Ok.stored (hok : s.Ok art) (h : page ∈ s.pages) :
    Trampolines.Ok art { s with pool := page + 1 } where
  pool_lt := by
    have hle := hok.pages_le page h
    have hpos : 1 < art.pageSize := by rcases art.pageSize_eq with hp | hp <;> omega
    show page + 1 < _
    omega
  page_mem := Or.inr (by rw [(pageOf_succ (hok.aligned page h)).1]; exact h)
  aligned := hok.aligned
  pages_le := hok.pages_le

theorem mapped_ok (hok : s.Ok art) (h : s.Mappable art page) :
    Trampolines.Ok art { s with pool := page + 1, pages := insert page s.pages } :=
  (hok.mapped h).stored (Finset.mem_insert_self page _)

end Mapped

/-- **Taking a slot keeps the pool in order.** -/
theorem takeSlot_ok (hok : s.Ok art) (hc : s.NoCarry art)
    (hmap : ∀ page ∈ mmap, s.Mappable art page) : (takeSlot art s mmap).1.Ok art := by
  have hcounted : Trampolines.Ok art { s with pool := art.fetchAdd s.pool } := by
    obtain ⟨hadd, hpage, -⟩ := fetchAdd_of_noCarry hok.pool_lt hc
    refine ⟨Nat.mod_lt _ (by positivity), ?_, hok.aligned, hok.pages_le⟩
    show art.pageOf (art.fetchAdd s.pool) = 0 ∨ art.pageOf (art.fetchAdd s.pool) ∈ s.pages
    rw [hadd, hpage]
    exact hok.page_mem
  rcases takeSlot_cases art s mmap with ⟨page, hp, h⟩ | h | ⟨-, -, h⟩ <;> rw [h]
  · exact mapped_ok hok (hmap page hp)
  · exact hcounted
  · exact hcounted

/-- **What was handed out stays handed out.** -/
theorem takeSlot_handed (hok : s.Ok art) (hc : s.NoCarry art)
    (hmap : ∀ page ∈ mmap, s.Mappable art page) {a : ℕ} (ha : s.Handed art a) :
    (takeSlot art s mmap).1.Handed art a := by
  obtain ⟨q, hq, i, hi, rfl, hcount⟩ := ha
  obtain ⟨hadd, hpage, hmod⟩ := fetchAdd_of_noCarry hok.pool_lt hc
  have hcounted : Trampolines.Handed art { s with pool := art.fetchAdd s.pool }
      (q + i * art.arch.trampolineSize) := by
    refine ⟨q, hq, i, hi, rfl, fun he => ?_⟩
    have he' : q = art.pageOf s.pool := by rw [← hpage, ← hadd]; exact he
    show i < art.fetchAdd s.pool % art.pageSize
    rw [hadd, hmod]
    exact Nat.lt_succ_of_lt (hcount he')
  rcases takeSlot_cases art s mmap with ⟨page, hp, h⟩ | h | ⟨-, -, h⟩ <;> rw [h]
  · refine ⟨q, Finset.mem_insert_of_mem hq, i, hi, rfl, fun he => ?_⟩
    rw [(pageOf_succ (hmap page hp).1).1] at he
    exact absurd (he ▸ hq) (hmap page hp).2.2.1
  · exact hcounted
  · exact hcounted

/-- **A slot taken is a new one**, and handed out from then on. -/
theorem takeSlot_fresh (hok : s.Ok art) (hc : s.NoCarry art)
    (hmap : ∀ page ∈ mmap, s.Mappable art page) {a : ℕ}
    (ha : (takeSlot art s mmap).2 = some a) :
    (takeSlot art s mmap).1.Handed art a ∧ ¬ s.Handed art a := by
  rcases takeSlot_cases art s mmap with ⟨page, hp, h⟩ | h | ⟨hpage, hlt, h⟩ <;> rw [h] at ha ⊢
  · obtain rfl : page = a := by simpa using ha
    have hpm := hmap page hp
    refine ⟨⟨page, Finset.mem_insert_self page _, 0, art.trampolineNumPerPage_pos, by simp,
      fun _ => ?_⟩, ?_⟩
    · show 0 < (page + 1) % art.pageSize
      rw [(pageOf_succ hpm.1).2]
      exact Nat.one_pos
    · -- a slot of another page lies inside that page
      rintro ⟨q, hq, i, hi, he, -⟩
      have hle := art.slot_le_page hi
      have hqa := hok.aligned q hq
      have hqp : q ≠ page := fun hqp => hpm.2.2.1 (hqp ▸ hq)
      have hpa := hpm.1
      have hsize := art.trampolineSize_pos
      rcases art.pageSize_eq with h | h <;> rw [h] at hle hqa hpa <;> omega
  · simp at ha
  · obtain ⟨hadd, hpageEq, hmod⟩ := fetchAdd_of_noCarry hok.pool_lt hc
    obtain rfl : art.pageOf s.pool + s.pool % art.pageSize * art.arch.trampolineSize = a := by
      simpa using ha
    have hmem : art.pageOf s.pool ∈ s.pages := hok.page_mem.resolve_left hpage
    have hsize := art.trampolineSize_pos
    refine ⟨⟨_, hmem, _, hlt, rfl, fun _ => ?_⟩, ?_⟩
    · show s.pool % art.pageSize < art.fetchAdd s.pool % art.pageSize
      rw [hadd, hmod]
      exact Nat.lt_succ_self _
    · rintro ⟨q, hq, i, hi, he, hcount⟩
      have hle := art.slot_le_page hi
      have hle' := art.slot_le_page hlt
      have hqa := hok.aligned q hq
      have hpa := hok.aligned _ hmem
      by_cases hqp : q = art.pageOf s.pool
      · have hi' := hcount hqp
        have hmul : (i + 1) * art.arch.trampolineSize ≤
            s.pool % art.pageSize * art.arch.trampolineSize := Nat.mul_le_mul_right _ hi'
        rw [Nat.add_mul, Nat.one_mul] at hmul
        rw [hqp] at he
        omega
      · rcases art.pageSize_eq with h | h <;> rw [h] at hle hle' hqa hpa he <;> omega

/-! ## A trampoline generated -/

section Generated

variable (hook : ArtMethodPtr) (ok : Bool)

/-- **What `GenerateTrampolineFor` does**: a slot taken and nothing more,
or the trampoline written there. -/
theorem generateTrampolineFor_cases (art : Art) (s : Trampolines) (hook : ArtMethodPtr)
    (mmap : Option ℕ) (ok : Bool) :
    generateTrampolineFor art s hook mmap ok = ((takeSlot art s mmap).1, none) ∨
      ∃ a, (takeSlot art s mmap).2 = some a ∧ generateTrampolineFor art s hook mmap ok =
        ({ (takeSlot art s mmap).1 with mem := (writeTrampoline art s.mem a hook).1 },
          some (a, (writeTrampoline art s.mem a hook).2)) := by
  have hmem := takeSlot_mem art s mmap
  unfold generateTrampolineFor
  rcases htake : takeSlot art s mmap with ⟨s', _ | a⟩
  · exact Or.inl rfl
  · rw [htake] at hmem
    simp only at hmem ⊢
    split
    · exact Or.inl rfl
    · exact Or.inr ⟨a, rfl, by rw [hmem]⟩

variable (hok : s.Ok art) (hc : s.NoCarry art) (hmap : ∀ page ∈ mmap, s.Mappable art page)
include hok hc hmap

theorem generateTrampolineFor_ok : (generateTrampolineFor art s hook mmap ok).1.Ok art := by
  have h := takeSlot_ok hok hc hmap
  rcases generateTrampolineFor_cases art s hook mmap ok with he | ⟨a, -, he⟩ <;> rw [he]
  · exact h
  · exact ⟨h.pool_lt, h.page_mem, h.aligned, h.pages_le⟩

theorem generateTrampolineFor_handed {a : ℕ} (ha : s.Handed art a) :
    (generateTrampolineFor art s hook mmap ok).1.Handed art a := by
  have h := takeSlot_handed hok hc hmap ha
  rcases generateTrampolineFor_cases art s hook mmap ok with he | ⟨b, -, he⟩ <;> rw [he] <;>
    exact h

/-- **A generated trampoline is a new one, armed with its hook**, and no
trampoline handed out before is touched. -/
theorem generateTrampolineFor_fresh {a slot : ℕ}
    (ha : (generateTrampolineFor art s hook mmap ok).2 = some (a, slot))
    (hfits : art.arch.Fits hook) :
    (generateTrampolineFor art s hook mmap ok).1.Handed art a ∧ ¬ s.Handed art a ∧
      Armed art (generateTrampolineFor art s hook mmap ok).1.mem a slot hook := by
  rcases generateTrampolineFor_cases art s hook mmap ok with he | ⟨b, hb, he⟩ <;>
    rw [he] at ha ⊢
  · simp at ha
  · obtain ⟨rfl, rfl⟩ : b = a ∧ (writeTrampoline art s.mem b hook).2 = slot := by simpa using ha
    obtain ⟨hnew, hold⟩ := takeSlot_fresh hok hc hmap hb
    exact ⟨hnew, hold, armed_writeTrampoline _ _ hfits⟩

/-- The bytes of a trampoline handed out before stay what they were. -/
theorem generateTrampolineFor_read {a : ℕ} (ha : s.Handed art a) :
    (generateTrampolineFor art s hook mmap ok).1.mem.read a art.arch.template.length =
      s.mem.read a art.arch.template.length := by
  have hlen := template_length_le art.arch
  rcases generateTrampolineFor_cases art s hook mmap ok with he | ⟨b, hb, he⟩ <;> rw [he]
  · rw [takeSlot_mem]
  · obtain ⟨hnew, hold⟩ := takeSlot_fresh hok hc hmap hb
    have hd := hnew.disjoint (takeSlot_ok hok hc hmap) (takeSlot_handed hok hc hmap ha)
      (fun hba => hold (hba ▸ ha))
    exact read_writeTrampoline_of_disjoint (by omega)

end Generated

end LSPlant
