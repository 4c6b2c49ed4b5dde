import LSPlant.Events
/-!
# The getters behind native registration

The updater around `RegisterNatives` asks JNI for the id of each method of
the table, by the getter that found the one before. A getter that returns
null leaves `NoSuchMethodError` pending, nothing the constructor calls
after it takes the exception back, and ART's own `RegisterNatives` then
runs with it pending. The first guess is a static method.
-/

namespace LSPlant

variable (s : State)

/-- What the loop of the constructor carries, and whether the thread has an
exception pending. -/
structure NativeScan where
  pending : Bool
  isStatic : Bool
  methods : Table ArtMethodPtr NativeMethodState

/-- `getter[is_static](env, clazz, name, signature)`: an id, or null and
`NoSuchMethodError`. -/
def getMethodId (pending : Bool) (native : JNINativeMethod) (isStatic : Bool) :
    Bool × Option ArtMethodPtr :=
  match native.get isStatic with
  | some m => (pending, some m)
  | none => (true, none)

/-- **One pass of the constructor**, with what is pending. Turning an id
into a method goes through JNI too where the id is an index, and leaves
what is pending alone. -/
def scanNative (scan : NativeScan) (native : JNINativeMethod) : NativeScan :=
  if !native.hasName || !native.hasSignature || native.fnPtr == 0 then scan
  else match getMethodId scan.pending native scan.isStatic with
    | (pending, some m) => { scan with pending, methods := recordNative s scan.methods m }
    | (pending, none) =>
      let isStatic := !scan.isStatic
      match getMethodId pending native isStatic with
      | (pending, some m) => ⟨pending, isStatic, recordNative s scan.methods m⟩
      | (pending, none) => ⟨pending, isStatic, scan.methods⟩

/-- The constructor for `RegisterNatives`, called with an exception pending
or not. -/
def scanNatives (pending : Bool) (natives : List JNINativeMethod) : NativeScan :=
  natives.foldl (scanNative s) ⟨pending, true, ∅⟩

/-- **`RegisterNativesJNIEnv_`, and whether an exception is pending when it
returns.** `raised` is whether ART's `RegisterNatives` raised one; the
destructor makes no call of JNI. -/
def registerNativesPending (art : Art) (pending : Bool) (natives : List JNINativeMethod)
    (written : List (ArtMethodPtr × ℕ)) (order : List ArtMethodPtr) (raised : Bool) :
    State × Bool :=
  let scan := scanNatives s pending natives
  (withUpdater art s scan.methods written order, scan.pending || raised)

/-- The entry is looked up at all. -/
def JNINativeMethod.IsLookedUp (native : JNINativeMethod) : Prop :=
  native.hasName ∧ native.hasSignature ∧ native.fnPtr ≠ 0

instance (native : JNINativeMethod) : Decidable native.IsLookedUp := instDecidableAnd

/-- The class has a method of the entry's name and signature. -/
def JNINativeMethod.Exists (native : JNINativeMethod) : Prop :=
  native.methodId.isSome ∨ native.staticMethodId.isSome

instance (native : JNINativeMethod) : Decidable native.Exists := instDecidableOr

/-- The entry is not looked up, or its method is static. -/
def JNINativeMethod.IsFirstGuess (native : JNINativeMethod) : Prop :=
  native.IsLookedUp → native.staticMethodId.isSome

instance (native : JNINativeMethod) : Decidable native.IsFirstGuess :=
  inferInstanceAs (Decidable (_ → _))

variable {s} {scan : NativeScan} {native : JNINativeMethod} {natives : List JNINativeMethod}

/-- What is pending aside, the pass is the pass of the updater. -/
theorem scanNative_eq_recordRegistered :
    ((scanNative s scan native).isStatic, (scanNative s scan native).methods) =
      recordRegistered s (scan.isStatic, scan.methods) native := by
  unfold scanNative recordRegistered getMethodId
  dsimp only
  split
  · rfl
  · rcases native.get scan.isStatic with _ | m
    · rcases native.get (!scan.isStatic) with _ | m <;> rfl
    · rfl

theorem scanNatives_eq_registeredMethods (pending : Bool) :
    (scanNatives s pending natives).methods = registeredMethods s natives := by
  have hfold : ∀ (natives : List JNINativeMethod) (scan : NativeScan),
      ((natives.foldl (scanNative s) scan).isStatic,
          (natives.foldl (scanNative s) scan).methods) =
        natives.foldl (recordRegistered s) (scan.isStatic, scan.methods) := by
    intro natives
    induction natives with
    | nil => exact fun scan => rfl
    | cons native natives ih =>
      intro scan
      rw [List.foldl_cons, List.foldl_cons, ih, scanNative_eq_recordRegistered]
  exact congrArg Prod.snd (hfold natives ⟨pending, true, ∅⟩)

/-- **The wrapper does to the process what the updater does**, whatever is
pending. -/
theorem registerNativesPending_fst (art : Art) (pending : Bool)
    (written : List (ArtMethodPtr × ℕ)) (order : List ArtMethodPtr) (raised : Bool) :
    (registerNativesPending s art pending natives written order raised).1 =
      registerNatives art s natives written order := by
  rw [registerNativesPending, registerNatives]
  simp only [scanNatives_eq_registeredMethods]

/-! ## What is pending when the constructor has finished -/

/-- What is pending stays pending. -/
theorem pending_scanNative (h : scan.pending = true) :
    (scanNative s scan native).pending = true := by
  unfold scanNative getMethodId
  dsimp only
  split
  · exact h
  · rcases native.get scan.isStatic with _ | m
    · rcases native.get (!scan.isStatic) with _ | m <;> rfl
    · exact h

theorem pending_foldl_scanNative (h : scan.pending = true) :
    (natives.foldl (scanNative s) scan).pending = true := by
  induction natives generalizing scan with
  | nil => exact h
  | cons native natives ih => exact ih (pending_scanNative h)

/-- A static method is found where static methods are guessed, and the
guess stays. -/
theorem scanNative_of_isFirstGuess (hs : scan.isStatic = true) (h : native.IsFirstGuess) :
    (scanNative s scan native).pending = scan.pending ∧
      (scanNative s scan native).isStatic = true := by
  unfold scanNative getMethodId
  split
  · exact ⟨rfl, hs⟩
  · rename_i hlooked
    simp only [Bool.or_eq_true, Bool.not_eq_true', beq_iff_eq, not_or, Bool.not_eq_false] at hlooked
    obtain ⟨m, hm⟩ := Option.isSome_iff_exists.1 (h ⟨hlooked.1.1, hlooked.1.2, hlooked.2⟩)
    have hget : native.get scan.isStatic = some m := by rw [hs]; exact hm
    rw [hget]
    exact ⟨rfl, hs⟩

/-- Any other method that is looked up leaves an exception, found by the
other getter or not. -/
theorem scanNative_of_not_isFirstGuess (hs : scan.isStatic = true) (h : ¬ native.IsFirstGuess) :
    (scanNative s scan native).pending = true := by
  unfold JNINativeMethod.IsFirstGuess at h
  rw [Classical.not_imp, Option.not_isSome_iff_eq_none] at h
  obtain ⟨⟨hname, hsignature, hfn⟩, hnone⟩ := h
  have hlooked : ¬ (!native.hasName || !native.hasSignature || native.fnPtr == 0) = true := by
    simp [hname, hsignature, hfn]
  have hget : native.get scan.isStatic = none := by rw [hs]; exact hnone
  rw [scanNative, if_neg hlooked, getMethodId, hget]
  dsimp only
  rw [getMethodId]
  rcases native.get (!scan.isStatic) with _ | m <;> rfl

/-- **The run of the constructor.** As long as every entry is a first guess
nothing is raised, and from the first other one on something is. -/
theorem pending_foldl_iff (hs : scan.isStatic = true) (hp : scan.pending = false) :
    (natives.foldl (scanNative s) scan).pending = false ↔
      ∀ native ∈ natives, native.IsFirstGuess := by
  induction natives generalizing scan with
  | nil => simp [hp]
  | cons native natives ih =>
    rw [List.foldl_cons, List.forall_mem_cons]
    by_cases h : native.IsFirstGuess
    · obtain ⟨hpending, hstatic⟩ := scanNative_of_isFirstGuess (s := s) hs h
      rw [ih hstatic (hpending.trans hp)]
      exact ⟨fun hrest => ⟨h, hrest⟩, fun hall => hall.2⟩
    · have hpending : (natives.foldl (scanNative s) (scanNative s scan native)).pending = true :=
        pending_foldl_scanNative (scanNative_of_not_isFirstGuess hs h)
      rw [hpending]
      exact ⟨fun hf => absurd hf (by decide), fun hall => absurd hall.1 h⟩

variable (s natives) in
/-- **The wrapper raises nothing of its own exactly where every method it
looks up is static**: only then is nothing pending when the constructor
has finished, and only what ART raised when the wrapper returns. -/
theorem no_exception_added_iff (art : Art) (written : List (ArtMethodPtr × ℕ))
    (order : List ArtMethodPtr) :
    ((scanNatives s false natives).pending = false ∧ ∀ raised,
        (registerNativesPending s art false natives written order raised).2 = raised) ↔
      ∀ native ∈ natives, native.IsLookedUp → native.staticMethodId.isSome := by
  have hiff : (scanNatives s false natives).pending = false ↔
      ∀ native ∈ natives, native.IsFirstGuess := pending_foldl_iff rfl rfl
  constructor
  · intro h
    exact hiff.1 h.1
  · intro h
    have hpending : (scanNatives s false natives).pending = false := hiff.2 h
    refine ⟨hpending, fun raised => ?_⟩
    rw [registerNativesPending, hpending, Bool.false_or]

/-- A table of one instance method. -/
def instanceNative : JNINativeMethod where
  hasName := true
  hasSignature := true
  fnPtr := 900
  methodId := some 110
  staticMethodId := none

/-- Its method exists, and is found only after the first guess has failed. -/
theorem instanceNative_leaves_exception :
    ¬ ((∀ native ∈ [instanceNative], native.Exists) →
      (scanNatives (sampleState kAccNative) false [instanceNative]).pending = false) := by
  decide

end LSPlant
