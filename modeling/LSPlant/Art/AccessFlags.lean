import Mathlib.Data.BitVec
/-!
# Access flags

The flag word of an `ArtMethod` and the masks `ArtMethod::Init` fixes for
the API level it finds. Five of the masks move with the API level, or are
`0` where the flag does not exist; what every level has in common is that
none of them meets the modifier bits, which is what a hook relies on when
it asks a rewritten flag word whether the method is static or native.
-/

namespace LSPlant

abbrev kAccPublic : BitVec 32 := 0x0001
abbrev kAccPrivate : BitVec 32 := 0x0002
abbrev kAccProtected : BitVec 32 := 0x0004
abbrev kAccStatic : BitVec 32 := 0x0008
abbrev kAccNative : BitVec 32 := 0x0100
abbrev kAccFinal : BitVec 32 := 0x0010
abbrev kAccAbstract : BitVec 32 := 0x0400
abbrev kAccConstructor : BitVec 32 := 0x00010000
abbrev kAccDefaultConflict : BitVec 32 := 0x01000000

/-- The bits that say what kind of method this is. -/
abbrev kindMask : BitVec 32 := kAccStatic ||| kAccNative ||| kAccAbstract

/-- **The masks that depend on the API level.** -/
structure AccessFlagMasks where
  kAccFastNative : BitVec 32
  kAccPreCompiled : BitVec 32
  kAccCompileDontBother : BitVec 32
  kAccFastInterpreterToInterpreterInvoke : BitVec 32
  kAccIntrinsic : BitVec 32
  preCompiled_kind : kAccPreCompiled &&& kindMask = 0#32
  compileDontBother_kind : kAccCompileDontBother &&& kindMask = 0#32
  fastInterpreter_kind : kAccFastInterpreterToInterpreterInvoke &&& kindMask = 0#32
  intrinsic_kind : kAccIntrinsic &&& kindMask = 0#32

/-- The masks `ArtMethod::Init` settles on. `conflictIsDontBother` is the
outcome of the probe it runs on API level 26, where the flag that stops
the compiler may still be `kAccDefaultConflict`. -/
def AccessFlagMasks.ofApiLevel (sdkInt : ℕ) (conflictIsDontBother : Bool) :
    AccessFlagMasks where
  kAccFastNative := if sdkInt < 26 then 0 else 0x00080000
  kAccPreCompiled :=
    if sdkInt < 30 then 0 else if 31 ≤ sdkInt then 0x00800000 else 0x00200000
  kAccCompileDontBother :=
    if sdkInt < 24 then 0
    else if sdkInt = 26 ∧ conflictIsDontBother then kAccDefaultConflict else 0x02000000
  kAccFastInterpreterToInterpreterInvoke := if sdkInt < 29 then 0 else 0x40000000
  kAccIntrinsic := if sdkInt < 26 then 0 else 0x80000000
  preCompiled_kind := by split_ifs <;> decide
  compileDontBother_kind := by split_ifs <;> decide
  fastInterpreter_kind := by split_ifs <;> decide
  intrinsic_kind := by split_ifs <;> decide

/-! ## Setting and clearing bits off a mask -/

variable {f m k : BitVec 32}

/-- Setting bits a mask does not meet leaves what the mask shows. -/
theorem or_and_of_disjoint (h : m &&& k = 0#32) : (f ||| m) &&& k = f &&& k := by
  rw [BitVec.and_comm, BitVec.and_or_distrib_left, BitVec.and_comm k m, h, BitVec.or_zero,
    BitVec.and_comm]

/-- And so does clearing them. -/
theorem andNot_and_of_disjoint (h : m &&& k = 0#32) : (f &&& ~~~m) &&& k = f &&& k := by
  have hk : ~~~m &&& k = k := by
    refine BitVec.eq_of_getLsbD_eq fun i hi => ?_
    have hb := congrArg (·.getLsbD i) h
    simp only [BitVec.getLsbD_and, BitVec.getLsbD_not, hi, decide_true, Bool.true_and] at hb ⊢
    cases hm : m.getLsbD i <;> cases hk : k.getLsbD i <;> simp_all
  rw [BitVec.and_assoc, hk]

/-- No bit is in two masks that do not meet. -/
theorem getLsbD_of_disjoint (h : m &&& k = 0#32) (i : ℕ) :
    (m.getLsbD i && k.getLsbD i) = false := by
  rw [← BitVec.getLsbD_and, h, BitVec.getLsbD_zero]

/-- **What a hook sets it does not clear**: the flag that stops the compiler
meets none of the flags a hook takes away, on any API level. -/
theorem AccessFlagMasks.ofApiLevel_disjoint (sdkInt : ℕ) (conflictIsDontBother : Bool) :
    let masks := AccessFlagMasks.ofApiLevel sdkInt conflictIsDontBother
    masks.kAccCompileDontBother &&& masks.kAccPreCompiled = 0#32 ∧
      masks.kAccCompileDontBother &&& masks.kAccFastInterpreterToInterpreterInvoke = 0#32 ∧
      masks.kAccCompileDontBother &&& masks.kAccIntrinsic = 0#32 ∧
      masks.kAccCompileDontBother &&& (kAccConstructor ||| kAccProtected ||| kAccPublic) =
        0#32 := by
  simp only [AccessFlagMasks.ofApiLevel]
  split_ifs <;> decide

end LSPlant
