import LSPlant.Art.Config
import LSPlant.Library.Machine
import LSPlant.Library.Table
/-!
# The shared guard of the debug state

`Runtime::SetJavaDebuggable` and `JavaDebuggableGuard`. Guards share one
counter, which is one more than the number of live guards, zero if there
is none, and one while the first guard is setting the debug state or the
last one is setting it back; everybody else waits for that to be over.
A thread is told by the guard it is constructing or destroying, and any
guard may take its next step next. What a thread knows of the counter
between two steps it has read before, so `Shared` says of each stage what
still holds when the step is taken.
-/

namespace LSPlant

/-! ## The runtime -/

/-- `RuntimeDebugState`. -/
inductive RuntimeDebugState where
  | kNonJavaDebuggable
  | kJavaDebuggable
  | kJavaDebuggableAtInit
deriving DecidableEq

/-- **How the debug state is written**: by ART's function, where there is
one, which knows on and off only, or at an offset. From Android O on
`Runtime::Init` fails without either, so that one is `found`. Before, it looks
for neither, and there is no debug state for a guard to keep. -/
structure DebugAccess where
  setJavaDebuggable_ : Option (Bool → RuntimeDebugState → RuntimeDebugState)
  debugStateOffset : ℕ
  found : setJavaDebuggable_.isSome ∨ 0 < debugStateOffset
  setJavaDebuggable_on : ∀ f ∈ setJavaDebuggable_, ∀ state, f true state = .kJavaDebuggableAtInit
  setJavaDebuggable_off : ∀ f ∈ setJavaDebuggable_, ∀ state, f false state = .kNonJavaDebuggable

/-- `SetJavaDebuggable`. -/
def DebugAccess.setJavaDebuggable (access : DebugAccess) (value state : RuntimeDebugState) :
    RuntimeDebugState :=
  match access.setJavaDebuggable_ with
  | some f => f (value != .kNonJavaDebuggable) state
  | none => if 0 < access.debugStateOffset then value else state

/-! ## The guard -/

/-- The constructor and the destructor, which are each other's mirror
image. -/
inductive GuardCall where
  | construct
  | destroy
deriving DecidableEq

/-- The value of the counter at which a call has the debug state to set:
no guard for a constructor, none but this one for a destructor. -/
def GuardCall.expected : GuardCall → ℕ
  | construct => 0
  | destroy => 2

/-- The debug state it sets. -/
def GuardCall.state : GuardCall → RuntimeDebugState
  | construct => .kJavaDebuggableAtInit
  | destroy => .kNonJavaDebuggable

/-- What it makes of the counter, a `size_t`. -/
def GuardCall.next (art : Art) (call : GuardCall) (count : ℕ) : ℕ :=
  match call with
  | construct => (count + 1) % 256 ^ art.arch.pointerSize
  | destroy => (count + 256 ^ art.arch.pointerSize - 1) % 256 ^ art.arch.pointerSize

/-- **Where a call is**: before its first compare-exchange, in `wait`,
before its second with the value the first has read, before it sets the
debug state, before its `fetch_add` or `fetch_sub`, before `notify_all`. -/
inductive GuardStage where
  | attempting
  | waiting
  | retrying (expected : ℕ)
  | setting
  | counting
  | notifying
deriving DecidableEq

/-- **What is happening to a guard.** -/
inductive GuardPhase where
  | calling (call : GuardCall) (stage : GuardStage)
  | constructed
deriving DecidableEq

/-- Guards by address, the counter, and the debug state. -/
structure GuardState where
  count : ℕ
  guards : Table ℕ GuardPhase
  debugState : RuntimeDebugState

/-- A call returns: there is a guard, or there is none any more. -/
def GuardState.returns (s : GuardState) (g : ℕ) : GuardCall → GuardState
  | .construct => { s with guards := s.guards.insert g .constructed }
  | .destroy => { s with guards := s.guards.erase g }

/-- **One step of a call.** -/
def guardStep (art : Art) (access : DebugAccess) (s : GuardState) (g : ℕ) (call : GuardCall)
    (stage : GuardStage) : GuardState :=
  let goes (s : GuardState) (stage : GuardStage) : GuardState :=
    { s with guards := s.guards.insert g (.calling call stage) }
  match stage with
  | .attempting =>
    if s.count = call.expected then goes { s with count := 1 } .setting
    -- 1 is a call that has still to count
    else if s.count = 1 then goes s .waiting
    else goes s (.retrying s.count)
  | .waiting => goes s .attempting
  | .retrying expected =>
    if s.count = expected then { s with count := call.next art expected }.returns g call
    else goes s .attempting
  | .setting =>
    goes { s with debugState := access.setJavaDebuggable call.state s.debugState } .counting
  | .counting => goes { s with count := call.next art s.count } .notifying
  | .notifying => s.returns g call

/-- What may happen: a guard's constructor or destructor is called, or a
call in progress takes its next step. -/
inductive GuardEvent where
  | create (g : ℕ)
  | destroy (g : ℕ)
  | run (g : ℕ)

/-- **Where the counter is**: an object like the guards. -/
structure CounterAddress (art : Art) where
  address : ℕ
  ne_null : address ≠ nullptr
  lt : address < 256 ^ art.arch.pointerSize

/-- **The guards of a process.** A guard is an object, so its address is
its own, not null and not that of the counter. A `wait` is over when the
counter is not what it was. -/
def guardMachine (art : Art) (access : DebugAccess) (counter : CounterAddress art) :
    Machine GuardState GuardEvent where
  step s
    | .create g => { s with guards := s.guards.insert g (.calling .construct .attempting) }
    | .destroy g => { s with guards := s.guards.insert g (.calling .destroy .attempting) }
    | .run g =>
      match s.guards.lookup g with
      | some (.calling call stage) => guardStep art access s g call stage
      | _ => s
  admissible s
    | .create g => g ∉ s.guards ∧ g < 256 ^ art.arch.pointerSize ∧ g ≠ nullptr ∧
      g ≠ counter.address
    | .destroy g => s.guards.lookup g = some .constructed
    | .run g =>
      match s.guards.lookup g with
      | some (.calling _ .waiting) => s.count ≠ 1
      | some (.calling _ _) => True
      | _ => False

/-- **A guard is live** from its increment of the counter to its
decrement. -/
def GuardPhase.isLive : GuardPhase → Bool
  | constructed => true
  | calling .construct stage => stage = .notifying
  | calling .destroy stage => stage ≠ .notifying

/-- **A call is between** its compare-exchange and its `fetch_add` or
`fetch_sub`. -/
def GuardPhase.isBetween : GuardPhase → Bool
  | calling _ stage => stage = .setting ∨ stage = .counting
  | constructed => false

/-- Live guards. -/
def GuardState.live (s : GuardState) : Finset ℕ := Table.keysWith s.guards GuardPhase.isLive

/-- Guards whose call is between. -/
def GuardState.between (s : GuardState) : Finset ℕ := Table.keysWith s.guards GuardPhase.isBetween

/-- **The guards, and whether there has been a live one.** -/
def guardHistory (art : Art) (access : DebugAccess) (counter : CounterAddress art) :
    Machine (GuardState × Bool) GuardEvent :=
  (guardMachine art access counter).withHistory fun s existed e =>
    existed || ((guardMachine art access counter).step s e).live.Nonempty

/-- A process in which no guard has been created. -/
def GuardState.initial (debugState : RuntimeDebugState) : GuardState where
  count := 0
  guards := ∅
  debugState := debugState

instance (art : Art) (access : DebugAccess) (counter : CounterAddress art) (s : GuardState) :
    ∀ e, Decidable ((guardMachine art access counter).admissible s e)
  | .create g => inferInstanceAs (Decidable (g ∉ s.guards ∧ g < 256 ^ art.arch.pointerSize ∧
      g ≠ nullptr ∧ g ≠ counter.address))
  | .destroy g => inferInstanceAs (Decidable (s.guards.lookup g = some .constructed))
  | .run g => by
    unfold guardMachine
    dsimp only
    split <;> infer_instance

instance (art : Art) (access : DebugAccess) (counter : CounterAddress art)
    (p : GuardState × Bool) (e : GuardEvent) :
    Decidable ((guardHistory art access counter).admissible p e) :=
  inferInstanceAs (Decidable ((guardMachine art access counter).admissible p.1 e))

/-! ## What the counter says -/

variable {art : Art} {access : DebugAccess} {counter : CounterAddress art} {s : GuardState}
  {existed : Bool} {g : ℕ} {call : GuardCall} {stage : GuardStage} {phase : GuardPhase}

/-- The live guards while a call is between. -/
def GuardCall.liveWhile (g : ℕ) : GuardCall → Finset ℕ
  | construct => ∅
  | destroy => {g}

/-- **What the counter says** of the guards, the debug state and what
calls have read of it. -/
structure Shared (counter : CounterAddress art) (s : GuardState) (existed : Bool) : Prop where
  address : ∀ g ∈ s.guards, g < 256 ^ art.arch.pointerSize ∧ g ≠ nullptr ∧ g ≠ counter.address
  zero : s.count = 0 → s.live = ∅ ∧ s.between = ∅ ∧
    (existed = true → s.debugState = .kNonJavaDebuggable)
  one : s.count = 1 → ∃ g call stage, s.guards.lookup g = some (.calling call stage) ∧
    s.between = {g} ∧ s.live = call.liveWhile g ∧ (stage = .counting → s.debugState = call.state)
  more : 2 ≤ s.count → s.between = ∅ ∧ s.count = s.live.card + 1 ∧
    s.debugState = .kJavaDebuggableAtInit
  read : ∀ g call expected, s.guards.lookup g = some (.calling call (.retrying expected)) →
    call.expected < expected ∧ 2 ≤ expected

@[simp] theorem DebugAccess.setJavaDebuggable_state {state : RuntimeDebugState} :
    access.setJavaDebuggable call.state state = call.state := by
  unfold setJavaDebuggable
  split
  · rename_i f hf
    cases call with
    | construct => exact access.setJavaDebuggable_on f hf state
    | destroy => exact access.setJavaDebuggable_off f hf state
  · rename_i hf
    have hoffset : 0 < access.debugStateOffset := by
      rcases access.found with h | h
      · rw [hf] at h
        cases h
      · exact h
    rw [if_pos hoffset]

theorem mem_live (h : s.guards.lookup g = some phase) : g ∈ s.live ↔ phase.isLive = true := by
  simp only [GuardState.live, Table.mem_keysWith, h, Option.some.injEq, exists_eq_left']

theorem mem_between (h : s.guards.lookup g = some phase) :
    g ∈ s.between ↔ phase.isBetween = true := by
  simp only [GuardState.between, Table.mem_keysWith, h, Option.some.injEq, exists_eq_left']

namespace Shared

theorem initial (debugState : RuntimeDebugState) :
    Shared counter (.initial debugState) false where
  address g h := absurd h Finmap.notMem_empty
  zero _ := ⟨Table.keysWith_empty, Table.keysWith_empty, fun h => nomatch h⟩
  one h := by cases h
  more h := by cases h
  read g call expected h := by
    rw [show (GuardState.initial debugState).guards = ∅ from rfl, Finmap.lookup_empty] at h
    cases h

/-- Whether there has been a live guard is asked only where there is none
now. -/
theorem record (h : Shared counter s existed) :
    Shared counter s (existed || s.live.Nonempty) where
  address := h.address
  zero h0 := by
    obtain ⟨hlive, hbetween, hstate⟩ := h.zero h0
    refine ⟨hlive, hbetween, fun he => hstate ?_⟩
    simpa [hlive] using he
  one := h.one
  more := h.more
  read := h.read

/-- **The counter does not wrap**: guards and counter are objects. -/
theorem keys_card_le (h : Shared counter s existed) :
    s.guards.keys.card + 2 ≤ 256 ^ art.arch.pointerSize := by
  have hsub : s.guards.keys ⊆
      ((Finset.range (256 ^ art.arch.pointerSize)).erase nullptr).erase counter.address := by
    intro g hg
    obtain ⟨hlt, hnull, hne⟩ := h.address g (Finmap.mem_keys.1 hg)
    exact Finset.mem_erase.2 ⟨hne, Finset.mem_erase.2 ⟨hnull, Finset.mem_range.2 hlt⟩⟩
  have hnull : nullptr ∈ Finset.range (256 ^ art.arch.pointerSize) :=
    Finset.mem_range.2 (Nat.pow_pos (by omega))
  have hcounter : counter.address ∈
      (Finset.range (256 ^ art.arch.pointerSize)).erase nullptr :=
    Finset.mem_erase.2 ⟨counter.ne_null, Finset.mem_range.2 counter.lt⟩
  have hcard := Finset.card_le_card hsub
  have h1 := Finset.card_erase_add_one hcounter
  have h2 := Finset.card_erase_add_one hnull
  rw [Finset.card_range] at h2
  omega

/-- **The call that is between** is the one the counter waits for. -/
theorem of_between (h : Shared counter s existed)
    (hg : s.guards.lookup g = some (.calling call stage))
    (hstage : stage = .setting ∨ stage = .counting) :
    s.count = 1 ∧ s.between = {g} ∧ s.live = call.liveWhile g ∧
      (stage = .counting → s.debugState = call.state) := by
  have hmem : g ∈ s.between := (mem_between hg).2 (decide_eq_true hstage)
  have hcount : s.count = 1 := by
    by_contra hne
    have hempty : s.between = ∅ := by
      rcases Nat.eq_zero_or_pos s.count with h0 | hpos
      · exact (h.zero h0).2.1
      · exact (h.more (by omega)).1
    rw [hempty] at hmem
    exact absurd hmem (Finset.notMem_empty g)
  obtain ⟨g', call', stage', hg', hbetween, hlive, hstate⟩ := h.one hcount
  rw [hbetween, Finset.mem_singleton] at hmem
  subst hmem
  rw [hg] at hg'
  cases hg'
  exact ⟨hcount, hbetween, hlive, hstate⟩

theorem address_insert (h : Shared counter s existed)
    (haddress : g < 256 ^ art.arch.pointerSize ∧ g ≠ nullptr ∧ g ≠ counter.address) :
    ∀ g' ∈ s.guards.insert g phase,
      g' < 256 ^ art.arch.pointerSize ∧ g' ≠ nullptr ∧ g' ≠ counter.address := by
  intro g' hg'
  rcases Finmap.mem_insert.1 hg' with rfl | hg'
  · exact haddress
  · exact h.address g' hg'

theorem address_of_lookup (h : Shared counter s existed) (hg : s.guards.lookup g = some phase) :
    g < 256 ^ art.arch.pointerSize ∧ g ≠ nullptr ∧ g ≠ counter.address :=
  h.address g (Table.mem_iff_lookup.2 ⟨phase, hg⟩)

theorem read_insert (h : Shared counter s existed)
    (hread : ∀ call expected, phase = .calling call (.retrying expected) →
      call.expected < expected ∧ 2 ≤ expected) :
    ∀ g' call expected, (s.guards.insert g phase).lookup g' =
      some (.calling call (.retrying expected)) → call.expected < expected ∧ 2 ≤ expected := by
  intro g' call expected hg'
  rw [Table.lookup_insert_eq] at hg'
  split at hg'
  · exact hread call expected (Option.some.inj hg')
  · exact h.read g' call expected hg'

theorem address_erase (h : Shared counter s existed) :
    ∀ g' ∈ s.guards.erase g,
      g' < 256 ^ art.arch.pointerSize ∧ g' ≠ nullptr ∧ g' ≠ counter.address := by
  intro g' hg'
  exact h.address g' (Finmap.mem_erase.1 hg').2

theorem read_erase (h : Shared counter s existed) :
    ∀ g' call expected, (s.guards.erase g).lookup g' =
      some (.calling call (.retrying expected)) → call.expected < expected ∧ 2 ≤ expected := by
  intro g' call expected hg'
  rw [Table.lookup_erase_eq] at hg'
  split at hg'
  · cases hg'
  · exact h.read g' call expected hg'

/-- **A quiet step**: a guard changes its stage, the counter and the debug
state stay, and no guard becomes live or between or ceases to be. -/
theorem quiet (h : Shared counter s existed)
    (haddress : g < 256 ^ art.arch.pointerSize ∧ g ≠ nullptr ∧ g ≠ counter.address)
    (hold : (s.guards.lookup g).any GuardPhase.isBetween = false)
    (hbetween : phase.isBetween = false)
    (hlive : phase.isLive = (s.guards.lookup g).any GuardPhase.isLive)
    (hread : ∀ call expected, phase = .calling call (.retrying expected) →
      call.expected < expected ∧ 2 ≤ expected) :
    Shared counter { s with guards := s.guards.insert g phase } existed := by
  have hl : ({ s with guards := s.guards.insert g phase } : GuardState).live = s.live :=
    Table.keysWith_insert_of_eq hlive
  have hb : ({ s with guards := s.guards.insert g phase } : GuardState).between = s.between :=
    Table.keysWith_insert_of_eq (hbetween.trans hold.symm)
  constructor
  · exact h.address_insert haddress
  · rw [hl, hb]
    exact h.zero
  · intro h1
    obtain ⟨g', call, stage, hg', hone⟩ := h.one h1
    have hne : g' ≠ g := by
      rintro rfl
      have hmem : g' ∈ s.between := by
        rw [hone.1]
        exact Finset.mem_singleton_self g'
      rw [hg', Option.any_some, ← Bool.not_eq_true] at hold
      exact hold ((mem_between hg').1 hmem)
    refine ⟨g', call, stage, ?_, ?_⟩
    · rw [Table.lookup_insert_eq, if_neg hne]
      exact hg'
    · rw [hl, hb]
      exact hone
  · rw [hl, hb]
    exact h.more
  · exact h.read_insert hread

/-- A call that finds the counter where it has the debug state to set. -/
theorem begins (h : Shared counter s existed)
    (hg : s.guards.lookup g = some (.calling call .attempting)) (hc : s.count = call.expected) :
    Shared counter { s with count := 1, guards := s.guards.insert g (.calling call .setting) }
      existed := by
  have hbetween : s.between = ∅ := by
    cases call with
    | construct => exact (h.zero hc).2.1
    | destroy => exact (h.more (le_of_eq hc.symm)).1
  have hlive : (if (GuardPhase.calling call .setting).isLive then insert g s.live
      else s.live.erase g) = call.liveWhile g := by
    cases call with
    | construct =>
      rw [(h.zero hc).1]
      rfl
    | destroy =>
      -- the last live guard is the one to be destroyed
      have hmem : g ∈ s.live := (mem_live hg).2 rfl
      have hcount : s.count = 2 := hc
      have hcard : s.live.card = 1 := by
        have hmore := (h.more (le_of_eq hcount.symm)).2.1
        omega
      obtain ⟨a, ha⟩ := Finset.card_eq_one.1 hcard
      rw [ha, Finset.mem_singleton] at hmem
      subst hmem
      rw [ha]
      exact Finset.insert_eq_of_mem (Finset.mem_singleton_self g)
  constructor
  · exact h.address_insert (h.address_of_lookup hg)
  · intro h0
    cases h0
  · intro _
    refine ⟨g, call, .setting, Finmap.lookup_insert s.guards, ?_, ?_, fun hs => nomatch hs⟩
    · have hb := Table.keysWith_insert (m := s.guards) (a := g) (v := .calling call .setting)
        (P := GuardPhase.isBetween)
      exact hb.trans (congrArg (insert g) hbetween)
    · exact Table.keysWith_insert.trans hlive
  · intro hm
    exact absurd hm (by simp)
  · exact h.read_insert fun _ _ he => by cases he

/-- The call that is between sets the debug state. -/
theorem sets (h : Shared counter s existed)
    (hg : s.guards.lookup g = some (.calling call .setting)) :
    Shared counter { s with
      debugState := access.setJavaDebuggable call.state s.debugState
      guards := s.guards.insert g (.calling call .counting) } existed := by
  obtain ⟨hcount, hbetween, hlive, -⟩ := h.of_between hg (Or.inl rfl)
  have hl : Table.keysWith (s.guards.insert g (.calling call .counting)) GuardPhase.isLive =
      s.live :=
    Table.keysWith_insert_of_eq (by rw [hg]; cases call <;> rfl)
  have hb : Table.keysWith (s.guards.insert g (.calling call .counting)) GuardPhase.isBetween =
      s.between :=
    Table.keysWith_insert_of_eq (by rw [hg]; rfl)
  constructor
  · exact h.address_insert (h.address_of_lookup hg)
  · intro h0
    exact absurd (hcount.symm.trans h0) (by omega)
  · intro _
    exact ⟨g, call, .counting, Finmap.lookup_insert s.guards, hb.trans hbetween, hl.trans hlive,
      fun _ => access.setJavaDebuggable_state⟩
  · intro (hm : 2 ≤ s.count)
    omega
  · exact h.read_insert fun _ _ he => by cases he

/-- And counts: from then on there is a live guard, or none. -/
theorem counts (h : Shared counter s existed)
    (hg : s.guards.lookup g = some (.calling call .counting)) :
    Shared counter { s with
      count := call.next art s.count
      guards := s.guards.insert g (.calling call .notifying) } existed := by
  obtain ⟨hcount, hbetween, hlive, hstate⟩ := h.of_between hg (Or.inr rfl)
  have hb : Table.keysWith (s.guards.insert g (.calling call .notifying)) GuardPhase.isBetween =
      ∅ := by
    rw [Table.keysWith_insert]
    show s.between.erase g = ∅
    rw [hbetween, Finset.erase_singleton]
  have hroom : 2 < 256 ^ art.arch.pointerSize := by
    cases art.arch <;> decide
  cases call with
  | construct =>
    have hnext : GuardCall.construct.next art s.count = 2 := by
      rw [hcount]
      exact Nat.mod_eq_of_lt hroom
    have hl : Table.keysWith (s.guards.insert g (.calling .construct .notifying))
        GuardPhase.isLive = {g} := by
      rw [Table.keysWith_insert]
      show insert g s.live = {g}
      rw [hlive]
      rfl
    refine ⟨h.address_insert (h.address_of_lookup hg), ?_, ?_, ?_,
      h.read_insert fun _ _ he => by cases he⟩
    · intro h0
      exact absurd (hnext.symm.trans h0) (by omega)
    · intro h1
      exact absurd (hnext.symm.trans h1) (by omega)
    · intro _
      refine ⟨hb, ?_, hstate rfl⟩
      show GuardCall.construct.next art s.count =
        (Table.keysWith (s.guards.insert g (.calling .construct .notifying))
          GuardPhase.isLive).card + 1
      rw [hl, hnext, Finset.card_singleton]
  | destroy =>
    have hnext : GuardCall.destroy.next art s.count = 0 := by
      rw [hcount, GuardCall.next, Nat.add_sub_cancel_left, Nat.mod_self]
    have hl : Table.keysWith (s.guards.insert g (.calling .destroy .notifying))
        GuardPhase.isLive = ∅ := by
      rw [Table.keysWith_insert]
      show s.live.erase g = ∅
      rw [hlive]
      exact Finset.erase_singleton g
    refine ⟨h.address_insert (h.address_of_lookup hg), ?_, ?_, ?_,
      h.read_insert fun _ _ he => by cases he⟩
    · exact fun _ => ⟨hl, hb, fun _ => hstate rfl⟩
    · intro h1
      exact absurd (hnext.symm.trans h1) (by omega)
    · intro (hm : 2 ≤ GuardCall.destroy.next art s.count)
      omega

/-- A guard that is not the first counts itself. -/
theorem joins (h : Shared counter s existed) {expected : ℕ}
    (hg : s.guards.lookup g = some (.calling .construct (.retrying expected)))
    (hc : s.count = expected) :
    Shared counter { s with
      count := GuardCall.construct.next art expected
      guards := s.guards.insert g .constructed } existed := by
  have hmore : 2 ≤ s.count := hc ▸ (h.read g .construct expected hg).2
  obtain ⟨hbetween, hcard, hstate⟩ := h.more hmore
  have hnot : g ∉ s.live := fun hm => nomatch (mem_live hg).1 hm
  have hl : Table.keysWith (s.guards.insert g .constructed) GuardPhase.isLive =
      insert g s.live := Table.keysWith_insert
  have hb : Table.keysWith (s.guards.insert g .constructed) GuardPhase.isBetween = ∅ :=
    (Table.keysWith_insert_of_eq (by rw [hg]; rfl)).trans hbetween
  -- the guard is an object too, so there is room for one more
  have hroom : s.live.card + 3 ≤ 256 ^ art.arch.pointerSize := by
    have hsub : insert g s.live ⊆ s.guards.keys := Finset.insert_subset
      (Finmap.mem_keys.2 (Table.mem_iff_lookup.2 ⟨_, hg⟩)) Table.keysWith_subset
    have hle := Finset.card_le_card hsub
    rw [Finset.card_insert_of_notMem hnot] at hle
    have hkeys := h.keys_card_le
    omega
  have hnext : GuardCall.construct.next art expected = s.count + 1 := by
    rw [← hc]
    exact Nat.mod_eq_of_lt (by omega)
  refine ⟨h.address_insert (h.address_of_lookup hg), ?_, ?_, ?_,
    h.read_insert fun _ _ he => by cases he⟩
  · intro h0
    exact absurd (hnext.symm.trans h0) (by omega)
  · intro h1
    exact absurd (hnext.symm.trans h1) (by omega)
  · intro _
    refine ⟨hb, ?_, hstate⟩
    show GuardCall.construct.next art expected =
      (Table.keysWith (s.guards.insert g .constructed) GuardPhase.isLive).card + 1
    rw [hl, Finset.card_insert_of_notMem hnot, hnext]
    omega

/-- A guard that is not the last takes itself out. -/
theorem parts (h : Shared counter s existed) {expected : ℕ}
    (hg : s.guards.lookup g = some (.calling .destroy (.retrying expected)))
    (hc : s.count = expected) :
    Shared counter { s with
      count := GuardCall.destroy.next art expected
      guards := s.guards.erase g } existed := by
  have hthree : 2 < s.count := hc ▸ (h.read g .destroy expected hg).1
  obtain ⟨hbetween, hcard, hstate⟩ := h.more hthree.le
  have hmem : g ∈ s.live := (mem_live hg).2 rfl
  have hl : Table.keysWith (s.guards.erase g) GuardPhase.isLive = s.live.erase g :=
    Table.keysWith_erase
  have hb : Table.keysWith (s.guards.erase g) GuardPhase.isBetween = ∅ := by
    rw [Table.keysWith_erase]
    show s.between.erase g = ∅
    rw [hbetween, Finset.erase_empty]
  have hle : s.live.card ≤ s.guards.keys.card := Finset.card_le_card Table.keysWith_subset
  have hkeys := h.keys_card_le
  have hnext : GuardCall.destroy.next art expected = s.count - 1 := by
    rw [← hc, GuardCall.next]
    have hsplit : s.count + 256 ^ art.arch.pointerSize - 1 =
        s.count - 1 + 256 ^ art.arch.pointerSize := by omega
    rw [hsplit, Nat.add_mod_right]
    exact Nat.mod_eq_of_lt (by omega)
  refine ⟨?_, ?_, ?_, ?_, ?_⟩
  · exact h.address_erase
  · intro h0
    exact absurd (hnext.symm.trans h0) (by omega)
  · intro h1
    exact absurd (hnext.symm.trans h1) (by omega)
  · intro _
    refine ⟨hb, ?_, hstate⟩
    show GuardCall.destroy.next art expected =
      (Table.keysWith (s.guards.erase g) GuardPhase.isLive).card + 1
    have herase := Finset.card_erase_add_one hmem
    rw [hl, hnext]
    omega
  · exact h.read_erase

/-- The last guard's destructor returns. -/
theorem leaves (h : Shared counter s existed)
    (hg : s.guards.lookup g = some (.calling .destroy .notifying)) :
    Shared counter { s with guards := s.guards.erase g } existed := by
  have hl : Table.keysWith (s.guards.erase g) GuardPhase.isLive = s.live :=
    Table.keysWith_erase.trans
      (Finset.erase_eq_of_notMem fun hm => nomatch (mem_live hg).1 hm)
  have hb : Table.keysWith (s.guards.erase g) GuardPhase.isBetween = s.between :=
    Table.keysWith_erase.trans
      (Finset.erase_eq_of_notMem fun hm => nomatch (mem_between hg).1 hm)
  refine ⟨?_, ?_, ?_, ?_, ?_⟩
  · exact h.address_erase
  · intro h0
    obtain ⟨hlive, hbetween, hstate⟩ := h.zero h0
    exact ⟨hl.trans hlive, hb.trans hbetween, hstate⟩
  · intro h1
    obtain ⟨g', call, stage, hg', hbetween, hlive, hstate⟩ := h.one h1
    have hne : g' ≠ g := by
      rintro rfl
      rw [hg] at hg'
      cases hg'
      have hmem : g' ∈ s.between := by
        rw [hbetween]
        exact Finset.mem_singleton_self g'
      exact nomatch (mem_between hg).1 hmem
    refine ⟨g', call, stage, ?_, hb.trans hbetween, hl.trans hlive, hstate⟩
    exact (Finmap.lookup_erase_ne hne).trans hg'
  · intro hm
    obtain ⟨hbetween, hcard, hstate⟩ := h.more hm
    refine ⟨hb.trans hbetween, ?_, hstate⟩
    show s.count = (Table.keysWith (s.guards.erase g) GuardPhase.isLive).card + 1
    rw [hl]
    exact hcard
  · exact h.read_erase

/-- **One step of a call** keeps what the counter says. -/
theorem run (h : Shared counter s existed) (hg : s.guards.lookup g = some (.calling call stage)) :
    Shared counter (guardStep art access s g call stage) existed := by
  have haddress := h.address_of_lookup hg
  cases stage with
  | attempting =>
    unfold guardStep
    dsimp only
    split_ifs with hc h1
    · exact h.begins hg hc
    · exact h.quiet haddress (by rw [hg]; rfl) rfl (by rw [hg]; cases call <;> rfl)
        fun _ _ he => by cases he
    · refine h.quiet haddress (by rw [hg]; rfl) rfl (by rw [hg]; cases call <;> rfl) ?_
      rintro call' expected ⟨⟩
      cases call with
      | construct =>
        have hc : s.count ≠ 0 := hc
        exact ⟨Nat.pos_of_ne_zero hc, by omega⟩
      | destroy =>
        -- the guard itself is live, so the counter is not zero
        have hc : s.count ≠ 2 := hc
        have h0 : s.count ≠ 0 := by
          intro h0
          have hmem : g ∈ s.live := (mem_live hg).2 rfl
          rw [(h.zero h0).1] at hmem
          exact Finset.notMem_empty g hmem
        show 2 < s.count ∧ 2 ≤ s.count
        omega
  | waiting =>
    exact h.quiet haddress (by rw [hg]; rfl) rfl (by rw [hg]; cases call <;> rfl)
      fun _ _ he => by cases he
  | retrying expected =>
    unfold guardStep
    dsimp only
    split_ifs with hc
    · cases call with
      | construct => exact h.joins hg hc
      | destroy => exact h.parts hg hc
    · exact h.quiet haddress (by rw [hg]; rfl) rfl (by rw [hg]; cases call <;> rfl)
        fun _ _ he => by cases he
  | setting => exact h.sets hg
  | counting => exact h.counts hg
  | notifying =>
    cases call with
    | construct =>
      exact h.quiet haddress (by rw [hg]; rfl) rfl (by rw [hg]; rfl) fun _ _ he => by cases he
    | destroy => exact h.leaves hg

/-- **One event** keeps it. -/
theorem step {e : GuardEvent} (h : Shared counter s existed)
    (hA : (guardMachine art access counter).admissible s e) :
    Shared counter ((guardMachine art access counter).step s e) existed := by
  cases e with
  | create g =>
    obtain ⟨hnew, haddress⟩ := hA
    have hnone : s.guards.lookup g = none := Finmap.lookup_eq_none.2 hnew
    exact h.quiet haddress (by rw [hnone]; rfl) rfl (by rw [hnone]; rfl) fun _ _ he => by cases he
  | destroy g =>
    have hg : s.guards.lookup g = some .constructed := hA
    exact h.quiet (h.address_of_lookup hg) (by rw [hg]; rfl) rfl (by rw [hg]; rfl)
      fun _ _ he => by cases he
  | run g =>
    show Shared counter (match s.guards.lookup g with
      | some (.calling call stage) => guardStep art access s g call stage
      | _ => s) existed
    split
    · exact h.run ‹_›
    · exact h

end Shared

/-- **`JavaDebuggableGuard` is a shared guard.** Wherever the guards of a
process have got to: where one is constructed and not being destroyed, the
runtime is debuggable as at init; where the counter is zero no guard is
live, and if there has been one the runtime is not debuggable; where it is
one, exactly one call is between its compare-exchange and its `fetch_add`
or `fetch_sub`; and from two on it is one more than the live guards. -/
theorem javaDebuggableGuard_shared {debugState : RuntimeDebugState} {es : List GuardEvent}
    (hL : (guardHistory art access counter).Legal (.initial debugState, false) es) :
    let p := (guardHistory art access counter).exec (.initial debugState, false) es
    ((∃ g, p.1.guards.lookup g = some .constructed) →
        p.1.debugState = .kJavaDebuggableAtInit) ∧
      (p.1.count = 0 → p.1.live = ∅ ∧ (p.2 = true → p.1.debugState = .kNonJavaDebuggable)) ∧
      (p.1.count = 1 → ∃! g, g ∈ p.1.between) ∧
      (2 ≤ p.1.count → p.1.count = p.1.live.card + 1) := by
  intro p
  have h : Shared counter p.1 p.2 :=
    Machine.exec_of_eachStep (M := guardHistory art access counter)
      (P := fun p => Shared counter p.1 p.2) (fun _ _ h hA => (h.step hA).record)
      (Shared.initial debugState) hL
  refine ⟨?_, fun h0 => ⟨(h.zero h0).1, (h.zero h0).2.2⟩, ?_, fun hm => (h.more hm).2.1⟩
  · rintro ⟨g, hg⟩
    have hmem : g ∈ p.1.live := (mem_live hg).2 rfl
    rcases Nat.lt_or_ge p.1.count 2 with hlt | hm
    · -- below two no constructed guard is live
      exfalso
      rcases Nat.eq_zero_or_pos p.1.count with h0 | hpos
      · rw [(h.zero h0).1] at hmem
        exact Finset.notMem_empty g hmem
      · obtain ⟨g', call, stage, hg', -, hlive, -⟩ := h.one (by omega)
        rw [hlive] at hmem
        cases call with
        | construct => exact Finset.notMem_empty g hmem
        | destroy =>
          rw [Finset.mem_singleton.1 hmem, hg'] at hg
          cases hg
    · exact (h.more hm).2.2
  · intro h1
    obtain ⟨g, call, stage, -, hbetween, -⟩ := h.one h1
    rw [hbetween]
    exact ⟨g, Finset.mem_singleton_self g, fun g' => Finset.mem_singleton.1⟩

/-- The debug state at an offset. -/
def sampleAccess : DebugAccess := ⟨none, 40, Or.inr (by decide), nofun, nofun⟩

/-- The counter at 16. -/
def sampleCounter : CounterAddress sampleArt := ⟨16, by decide, by decide⟩

/-- Guard 200 waits while guard 100 sets the state; then 100 is destroyed. -/
def sampleGuards : List GuardEvent :=
  [.create 100, .create 200, .run 100, .run 200, .run 100, .run 100, .run 100, .run 200, .run 200,
    .run 200, .destroy 100, .run 100, .run 100]

/-- A run it is about. -/
theorem javaDebuggableGuard_shared_sample :
    let p := (guardHistory sampleArt sampleAccess sampleCounter).exec
      (.initial .kJavaDebuggable, false) sampleGuards
    p.1.debugState = .kJavaDebuggableAtInit ∧ p.1.count = p.1.live.card + 1 := by
  intro p
  have hL : (guardHistory sampleArt sampleAccess sampleCounter).Legal
      (.initial .kJavaDebuggable, false) sampleGuards := by decide
  obtain ⟨hstate, -, -, hmore⟩ := javaDebuggableGuard_shared hL
  exact ⟨hstate ⟨200, by decide⟩, hmore (by decide)⟩

end LSPlant
