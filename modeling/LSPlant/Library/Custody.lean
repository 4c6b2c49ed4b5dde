import Mathlib.Order.BooleanAlgebra.Set
import Mathlib.Logic.Function.Basic
/-!
# Custody

Resources that come and go, some of them held by holders who hold one at a
time. A resource that says where it is itself has one holder and is not
lost; what holders and sets of resources say is sound if it is what the
resources say.
-/

/-- **Where a resource is**: it does not exist, nobody holds it, or a holder
does. -/
inductive Custodian (H : Type*)
  | gone
  | loose
  | held (h : H)

variable {α H : Type*} {k : α → Custodian H} {live loose live' loose' : Set α}
  {holds holds' : H → Option α} {a b : α} {h h' : H} {c : Custodian H}

/-- **The resources that exist, those that nobody holds and what each holder
holds**, as the resources have it. -/
structure Keeps (k : α → Custodian H) (live loose : Set α) (holds : H → Option α) : Prop where
  live : ∀ a, a ∈ live ↔ k a ≠ .gone
  loose : ∀ a, a ∈ loose ↔ k a = .loose
  holds : ∀ h a, holds h = some a ↔ k a = .held h

theorem setOf_some_eq (a : α) : {b | some a = some b} = {a} := by
  ext b
  exact ⟨fun hb => (Option.some.inj hb).symm, fun hb => congrArg some hb.symm⟩

namespace Keeps

theorem empty : Keeps (fun _ : α => Custodian.gone) ∅ ∅ (fun _ : H => none) where
  live _ := iff_of_false id fun hne => hne rfl
  loose _ := iff_of_false id nofun
  holds _ _ := iff_of_false nofun nofun

variable (hk : Keeps k live loose holds)
include hk

/-! ## What is kept is in one place -/

theorem loose_subset : loose ⊆ live := fun a ha =>
  (hk.live a).2 fun hgone => nomatch ((hk.loose a).1 ha).symm.trans hgone

theorem mem_live (hh : holds h = some a) : a ∈ live :=
  (hk.live a).2 fun hgone => nomatch ((hk.holds h a).1 hh).symm.trans hgone

theorem not_mem_loose (hh : holds h = some a) : a ∉ loose := fun ha =>
  nomatch ((hk.holds h a).1 hh).symm.trans ((hk.loose a).1 ha)

theorem holder_unique (hh : holds h = some a) (hh' : holds h' = some a) : h = h' :=
  Custodian.held.inj (((hk.holds h a).1 hh).symm.trans ((hk.holds h' a).1 hh'))

/-- **Nothing is lost.** -/
theorem loose_or_held (ha : a ∈ live) : a ∈ loose ∨ ∃ h, holds h = some a := by
  cases hka : k a with
  | gone => exact absurd hka ((hk.live a).1 ha)
  | loose => exact Or.inl ((hk.loose a).2 hka)
  | held h => exact Or.inr ⟨h, (hk.holds h a).2 hka⟩

/-! ## Moves -/

variable [DecidableEq α]

/-- **One resource moves**, and the others are where they were. -/
theorem move (hlive : a ∈ live' ↔ c ≠ .gone) (hloose : a ∈ loose' ↔ c = .loose)
    (hholds : ∀ h, holds' h = some a ↔ c = .held h)
    (hother : ∀ b, b ≠ a → (b ∈ live' ↔ b ∈ live) ∧ (b ∈ loose' ↔ b ∈ loose) ∧
      ∀ h, holds' h = some b ↔ holds h = some b) :
    Keeps (Function.update k a c) live' loose' holds' := by
  constructor
  · intro b
    rw [Function.update_apply]
    split
    · subst b
      exact hlive
    · rename_i hb
      exact (hother b hb).1.trans (hk.live b)
  · intro b
    rw [Function.update_apply]
    split
    · subst b
      exact hloose
    · rename_i hb
      exact (hother b hb).2.1.trans (hk.loose b)
  · intro h b
    rw [Function.update_apply]
    split
    · subst b
      exact hholds h
    · rename_i hb
      exact ((hother b hb).2.2 h).trans (hk.holds h b)

/-- **A resource comes to be**, loose. -/
theorem acquire (ha : a ∉ live) :
    Keeps (Function.update k a .loose) (insert a live) (insert a loose) holds := by
  refine hk.move (iff_of_true (Set.mem_insert a live) nofun)
    (iff_of_true (Set.mem_insert a loose) rfl)
    (fun h => iff_of_false (fun hh => ha (hk.mem_live hh)) nofun) fun b hb => ?_
  exact ⟨or_iff_right hb, or_iff_right hb, fun _ => Iff.rfl⟩

/-- **What is loose is discarded.** -/
theorem discard (ha : a ∈ loose) :
    Keeps (Function.update k a .gone) (live \ {a}) (loose \ {a}) holds := by
  refine hk.move (iff_of_false (fun hin => hin.2 rfl) fun hne => hne rfl)
    (iff_of_false (fun hin => hin.2 rfl) nofun)
    (fun h => iff_of_false (fun hh => hk.not_mem_loose hh ha) nofun) fun b hb => ?_
  exact ⟨and_iff_left hb, and_iff_left hb, fun _ => Iff.rfl⟩

variable [DecidableEq H]

/-- **A holder with empty hands takes what is loose.** -/
theorem take (ha : a ∈ loose) (hh : holds h = none) :
    Keeps (Function.update k a (.held h)) live (loose \ {a})
      (Function.update holds h (some a)) := by
  refine hk.move (iff_of_true (hk.loose_subset ha) nofun)
    (iff_of_false (fun hin => hin.2 rfl) nofun) (fun h' => ?_) fun b hb => ?_
  · rw [Function.update_apply]
    split
    · rename_i hh'
      exact iff_of_true rfl (congrArg _ hh'.symm)
    · rename_i hh'
      exact iff_of_false (fun hheld => hk.not_mem_loose hheld ha)
        fun heq => hh' (Custodian.held.inj heq).symm
  · refine ⟨Iff.rfl, and_iff_left hb, fun h' => ?_⟩
    rw [Function.update_apply]
    split
    · subst h'
      rw [hh]
      exact iff_of_false (fun heq => hb (Option.some.inj heq).symm) nofun
    · rfl

/-- **A holder lets go of what it holds.** -/
theorem give (hh : holds h = some a) :
    Keeps (Function.update k a .loose) live (insert a loose) (Function.update holds h none) := by
  refine hk.move (iff_of_true (hk.mem_live hh) nofun)
    (iff_of_true (Set.mem_insert a loose) rfl) (fun h' => ?_) fun b hb => ?_
  · rw [Function.update_apply]
    split
    · exact iff_of_false nofun nofun
    · rename_i hh'
      exact iff_of_false (fun hheld => hh' (hk.holder_unique hheld hh)) nofun
  · refine ⟨Iff.rfl, or_iff_right hb, fun h' => ?_⟩
    rw [Function.update_apply]
    split
    · subst h'
      rw [hh]
      exact iff_of_false nofun fun heq => hb (Option.some.inj heq).symm
    · rfl

/-- **A holder discards what it holds.** -/
theorem drop (hh : holds h = some a) :
    Keeps (Function.update k a .gone) (live \ {a}) loose (Function.update holds h none) := by
  have hgiven := (hk.give hh).discard (Set.mem_insert a loose)
  rw [Function.update_idem, Set.insert_sdiff_self_of_notMem (hk.not_mem_loose hh)] at hgiven
  exact hgiven

/-! ## Hands that may be empty -/

theorem dropAny (h : H) :
    ∃ k', Keeps k' (live \ {a | holds h = some a}) loose (Function.update holds h none) := by
  cases hh : holds h with
  | none =>
    have hsame : Function.update holds h none = holds := hh ▸ Function.update_eq_self h holds
    rw [hsame]
    exact ⟨k, by simpa using hk⟩
  | some a =>
    rw [setOf_some_eq]
    exact ⟨_, hk.drop hh⟩

theorem giveAny (h : H) :
    ∃ k', Keeps k' live (loose ∪ {a | holds h = some a}) (Function.update holds h none) := by
  cases hh : holds h with
  | none =>
    have hsame : Function.update holds h none = holds := hh ▸ Function.update_eq_self h holds
    rw [hsame]
    exact ⟨k, by simpa using hk⟩
  | some a =>
    rw [setOf_some_eq, Set.union_singleton]
    exact ⟨_, hk.give hh⟩

theorem takeAny (hh : holds h = none) {o : Option α} (ho : ∀ a ∈ o, a ∈ loose) :
    ∃ k', Keeps k' live (loose \ {a | o = some a}) (Function.update holds h o) := by
  cases o with
  | none =>
    have hsame : Function.update holds h none = holds := hh ▸ Function.update_eq_self h holds
    rw [hsame]
    exact ⟨k, by simpa using hk⟩
  | some a =>
    rw [setOf_some_eq]
    exact ⟨_, hk.take (ho a rfl) hh⟩

end Keeps

/-- **What holders and sets have to say of resources** for there to be resources
that say so. -/
theorem exists_keeps_iff : (∃ k, Keeps k live loose holds) ↔
    loose ⊆ live ∧ (∀ h a, holds h = some a → a ∈ live ∧ a ∉ loose) ∧
      (∀ h h' a, holds h = some a → holds h' = some a → h = h') ∧
      ∀ a ∈ live, a ∈ loose ∨ ∃ h, holds h = some a := by
  classical
  constructor
  · rintro ⟨k, hk⟩
    exact ⟨hk.loose_subset, fun h a hh => ⟨hk.mem_live hh, hk.not_mem_loose hh⟩,
      fun h h' a => hk.holder_unique, fun a => hk.loose_or_held⟩
  · rintro ⟨hsub, hheld, hunique, hcover⟩
    refine ⟨fun a => if a ∈ loose then .loose
      else if hh : ∃ h, holds h = some a then .held hh.choose else .gone, ?_, ?_, ?_⟩
    · intro a
      split_ifs with hl hh
      · exact iff_of_true (hsub hl) nofun
      · exact iff_of_true (hheld _ a hh.choose_spec).1 nofun
      · refine iff_of_false (fun ha => ?_) fun hne => hne rfl
        rcases hcover a ha with hl' | hh'
        · exact hl hl'
        · exact hh hh'
    · intro a
      split_ifs with hl hh
      · exact iff_of_true hl rfl
      · exact iff_of_false hl nofun
      · exact iff_of_false hl nofun
    · intro h a
      split_ifs with hl hh
      · exact iff_of_false (fun heq => (hheld h a heq).2 hl) nofun
      · refine ⟨fun heq => ?_, fun heq => ?_⟩
        · rw [hunique _ _ a hh.choose_spec heq]
        · rw [← Custodian.held.inj heq]
          exact hh.choose_spec
      · exact iff_of_false (fun heq => hh ⟨h, heq⟩) nofun
