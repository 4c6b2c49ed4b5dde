import Mathlib.Logic.Relation
import Mathlib.Data.Option.Basic
import Mathlib.Data.Nat.Notation
/-!
# Class hierarchies

Classes with a superclass and interfaces, without cycles. A class is a
subtype of what can be reached from it; the test of it that is executable
follows the declared types as far as the rank of the class.
-/

/-- **A class hierarchy.** The rank says that there is no cycle. -/
structure ClassHierarchy (C : Type*) where
  superclass : C → Option C
  interfaces : C → List C
  rank : C → ℕ
  rank_superclass : ∀ c, ∀ d ∈ superclass c, rank d < rank c
  rank_interfaces : ∀ c, ∀ d ∈ interfaces c, rank d < rank c

namespace ClassHierarchy

variable {C : Type*} (H : ClassHierarchy C) {c d e : C}

/-- The types a class is declared with. -/
def supers (c : C) : List C := (H.superclass c).toList ++ H.interfaces c

/-- A class can be cast to a type. -/
def IsSubtype (c d : C) : Prop := Relation.ReflTransGen (fun a b => b ∈ H.supers a) c d

/-- A class extends another, perhaps through others. -/
def IsProperSubclass (c d : C) : Prop := Relation.TransGen (fun a b => b ∈ H.superclass a) c d

variable {H}

theorem rank_supers (h : d ∈ H.supers c) : H.rank d < H.rank c := by
  rcases List.mem_append.1 h with hd | hd
  · exact H.rank_superclass c d (by simpa using hd)
  · exact H.rank_interfaces c d hd

/-- A subtype is the type itself, or ranks higher. -/
theorem IsSubtype.eq_or_rank_lt (h : H.IsSubtype c d) : c = d ∨ H.rank d < H.rank c := by
  induction h with
  | refl => exact Or.inl rfl
  | tail _ hsuper ih =>
    have hrank := rank_supers hsuper
    rcases ih with rfl | hlt
    · exact Or.inr hrank
    · exact Or.inr (Nat.lt_trans hrank hlt)

/-- **Two types are not subtypes of one another.** -/
theorem IsSubtype.antisymm (h : H.IsSubtype c d) (h' : H.IsSubtype d c) : c = d := by
  rcases h.eq_or_rank_lt with heq | hlt
  · exact heq
  · rcases h'.eq_or_rank_lt with heq | hlt'
    · exact heq.symm
    · exact absurd hlt' (Nat.lt_asymm hlt)

/-- A proper subclass is a subtype. -/
theorem IsProperSubclass.isSubtype (h : H.IsProperSubclass c d) : H.IsSubtype c d := by
  refine Relation.ReflTransGen.mono (fun a b hb => ?_) _ _ h.to_reflTransGen
  exact List.mem_append_left _ (Option.mem_toList.2 hb)

theorem IsProperSubclass.ne (h : H.IsProperSubclass c d) : c ≠ d := by
  have hlt : H.rank d < H.rank c := by
    induction h with
    | single hd => exact H.rank_superclass _ _ hd
    | tail _ hd ih => exact Nat.lt_trans (H.rank_superclass _ _ hd) ih
  rintro rfl
  exact Nat.lt_irrefl _ hlt

/-- **No class is a subtype of its proper subclasses.** -/
theorem IsProperSubclass.not_isSubtype (h : H.IsProperSubclass c d) : ¬ H.IsSubtype d c :=
  fun h' => h.ne (h.isSubtype.antisymm h')

/-! ## Deciding it -/

variable [DecidableEq C]

variable (H) in
/-- A type is reached in so many steps. -/
def reaches : ℕ → C → C → Bool
  | 0, c, d => c == d
  | n + 1, c, d => c == d || (H.supers c).any fun b => reaches n b d

variable (H) in
/-- **`IsAssignableFrom(sub, sup)`** -/
def isAssignable (sub sup : C) : Bool := H.reaches (H.rank sub) sub sup

theorem reaches_iff {n : ℕ} (h : H.rank c ≤ n) : H.reaches n c d = true ↔ H.IsSubtype c d := by
  induction n generalizing c with
  | zero =>
    rw [reaches, beq_iff_eq]
    constructor
    · rintro rfl
      exact Relation.ReflTransGen.refl
    · intro hsub
      rcases hsub.eq_or_rank_lt with heq | hlt
      · exact heq
      · omega
  | succ n ih =>
    rw [reaches, Bool.or_eq_true, beq_iff_eq, List.any_eq_true, IsSubtype,
      Relation.ReflTransGen.cases_head_iff]
    refine or_congr Iff.rfl (exists_congr fun b => and_congr_right fun hb => ?_)
    have hrank := rank_supers hb
    exact ih (by omega)

/-- **The test decides subtyping.** -/
theorem isAssignable_iff : H.isAssignable c d = true ↔ H.IsSubtype c d :=
  reaches_iff (Nat.le_refl _)

instance : Decidable (H.IsSubtype c d) := decidable_of_iff _ isAssignable_iff

end ClassHierarchy
