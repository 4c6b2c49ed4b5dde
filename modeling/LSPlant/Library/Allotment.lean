import Mathlib
/-!
# Handing out memory

What an allocator owns, what of it is still free, and the blocks it has
handed out, as sets of addresses. Blocks never overlap as long as they are
taken from what is free, and what is acquired was not owned before. An
allocator is sound if its operations come down to those below.
-/

/-- **An account of memory.** -/
structure Allotment (α : Type*) where
  owned : Set α
  free : Set α
  blocks : List (Set α)

namespace Allotment

variable {α : Type*} (A : Allotment α) {A' : Allotment α} {b c fresh : Set α}

/-- **Sound**: what is free and what is handed out is owned, and no two of
these overlap. -/
structure Sound : Prop where
  free_subset : A.free ⊆ A.owned
  blocks_subset : ∀ b ∈ A.blocks, b ⊆ A.owned
  apart : A.blocks.Pairwise Disjoint
  free_apart : ∀ b ∈ A.blocks, Disjoint b A.free

/-- More is owned, none of it free yet. -/
def acquire (fresh : Set α) : Allotment α := { A with owned := A.owned ∪ fresh }

/-- What is free is given up, for something else that is owned. -/
def turnTo (free : Set α) : Allotment α := { A with free }

/-- A block is handed out. -/
def handOut (b : Set α) : Allotment α := { A with blocks := b :: A.blocks }

variable {A}

theorem sound_empty : (⟨∅, ∅, []⟩ : Allotment α).Sound :=
  ⟨Set.Subset.rfl, nofun, List.Pairwise.nil, nofun⟩

namespace Sound

variable (h : A.Sound)
include h

theorem acquire (fresh : Set α) : (A.acquire fresh).Sound where
  free_subset := h.free_subset.trans Set.subset_union_left
  blocks_subset b hb := (h.blocks_subset b hb).trans Set.subset_union_left
  apart := h.apart
  free_apart := h.free_apart

/-- Less may be free. -/
theorem shrink {free : Set α} (hfree : free ⊆ A.free) : (A.turnTo free).Sound where
  free_subset := hfree.trans h.free_subset
  blocks_subset := h.blocks_subset
  apart := h.apart
  free_apart b hb := (h.free_apart b hb).mono_right hfree

/-- **A turn to what has just been acquired**: nothing handed out is in it. -/
theorem turnTo_fresh {free : Set α} (hfresh : Disjoint A.owned fresh) (hfree : free ⊆ fresh) :
    ((A.acquire fresh).turnTo free).Sound where
  free_subset := hfree.trans Set.subset_union_right
  blocks_subset b hb := (h.blocks_subset b hb).trans Set.subset_union_left
  apart := h.apart
  free_apart b hb := (hfresh.mono_left (h.blocks_subset b hb)).mono_right hfree

/-- **A block of what is owned** is handed out if it meets nothing handed
out before and nothing free. -/
theorem handOut (hb : b ⊆ A.owned) (hblocks : ∀ c ∈ A.blocks, Disjoint b c)
    (hfree : Disjoint b A.free) : (A.handOut b).Sound where
  free_subset := h.free_subset
  blocks_subset := List.forall_mem_cons.2 ⟨hb, h.blocks_subset⟩
  apart := List.pairwise_cons.2 ⟨hblocks, h.apart⟩
  free_apart := List.forall_mem_cons.2 ⟨hfree, h.free_apart⟩

/-- **A block of what is free**, what is left being free afterwards. -/
theorem handOut_free {free : Set α} (hb : b ⊆ A.free) (hfree : free ⊆ A.free)
    (hapart : Disjoint b free) : ((A.turnTo free).handOut b).Sound :=
  (h.shrink hfree).handOut (hb.trans h.free_subset)
    (fun c hc => ((h.free_apart c hc).mono_right hb).symm) hapart

/-- **A block of what has just been acquired**, what is free staying so or
being more of what has been acquired. -/
theorem handOut_fresh {free : Set α} (hfresh : Disjoint A.owned fresh) (hb : b ⊆ fresh)
    (hfree : free ⊆ A.free ∨ free ⊆ fresh) (hapart : Disjoint b free) :
    (((A.acquire fresh).turnTo free).handOut b).Sound := by
  have hturned : ((A.acquire fresh).turnTo free).Sound := by
    rcases hfree with hfree | hfree
    · exact (h.acquire fresh).shrink hfree
    · exact h.turnTo_fresh hfresh hfree
  refine hturned.handOut (hb.trans Set.subset_union_right) (fun c hc => ?_) hapart
  exact ((hfresh.mono_left (h.blocks_subset c hc)).mono_right hb).symm

/-- The order of the blocks does not matter. -/
theorem perm {blocks : List (Set α)} (hperm : A.blocks.Perm blocks) :
    (⟨A.owned, A.free, blocks⟩ : Allotment α).Sound where
  free_subset := h.free_subset
  blocks_subset b hb := h.blocks_subset b (hperm.mem_iff.2 hb)
  apart := hperm.pairwise h.apart fun hd => hd.symm
  free_apart b hb := h.free_apart b (hperm.mem_iff.2 hb)

/-- Blocks may be forgotten. -/
theorem sublist {blocks : List (Set α)} (hsub : blocks.Sublist A.blocks) :
    (⟨A.owned, A.free, blocks⟩ : Allotment α).Sound where
  free_subset := h.free_subset
  blocks_subset b hb := h.blocks_subset b (hsub.subset hb)
  apart := h.apart.sublist hsub
  free_apart b hb := h.free_apart b (hsub.subset hb)

omit h in
/-- **A block grows** into what is free. -/
theorem enlarge {owned free free' b' : Set α} {blocks : List (Set α)}
    (h : (⟨owned, free, b :: blocks⟩ : Allotment α).Sound) (hb' : b' ⊆ b ∪ free)
    (hfree : free' ⊆ free) (hapart : Disjoint b' free') :
    (⟨owned, free', b' :: blocks⟩ : Allotment α).Sound where
  free_subset := hfree.trans h.free_subset
  blocks_subset := List.forall_mem_cons.2
    ⟨hb'.trans (Set.union_subset (h.blocks_subset b List.mem_cons_self) h.free_subset),
      fun c hc => h.blocks_subset c (List.mem_cons_of_mem b hc)⟩
  apart := by
    obtain ⟨hb, hrest⟩ := List.pairwise_cons.1 h.apart
    refine List.pairwise_cons.2 ⟨fun c hc => ?_, hrest⟩
    have hfreec := (h.free_apart c (List.mem_cons_of_mem b hc)).symm
    exact (Set.disjoint_union_left.2 ⟨hb c hc, hfreec⟩).mono_left hb'
  free_apart := List.forall_mem_cons.2 ⟨hapart, fun c hc =>
    (h.free_apart c (List.mem_cons_of_mem b hc)).mono_right hfree⟩

end Sound

end Allotment
