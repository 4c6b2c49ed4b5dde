import LSPlant.Events
/-!
# Names of generated classes

`BuildDex` names a class by the prefix `InitConfig` has stored last and a
counter in decimal. The counter is never reset, and no two numbers have
one decimal, so under one prefix the names are apart. A prefix that ends
in digits may take the first digits of a later number: `A1` with 0 and `A`
with 10 are one name.
-/

namespace LSPlant

/-! ## Initialization -/

/-- **`InitInfo`**: whether the two functions `Init` cannot do without are
there, and the names `InitConfig` keeps. -/
structure InitInfo where
  hasInlineHooker : Bool
  hasArtSymbolResolver : Bool
  generatedClassName : List Char
  generatedSourceName : List Char
  generatedFieldName : List Char
  generatedMethodName : List Char

/-- **LSPlant's variables for the classes it generates**, with the state of
the hooks. -/
structure Generator where
  kInitialized : Option Bool
  loadedClasses : ℕ
  generatedClassName : List Char
  generatedSourceName : List Char
  generatedFieldName : List Char
  generatedMethodName : List Char
  generatedNativeFieldName : List Char
  hooks : State

/-- A library just loaded. -/
def Generator.initial (s : State) : Generator where
  kInitialized := none
  loadedClasses := 0
  generatedClassName := []
  generatedSourceName := []
  generatedFieldName := []
  generatedMethodName := []
  generatedNativeFieldName := []
  hooks := s

variable (art : Art) (gen : Generator)

/-- `InitConfig`. The field keeps its name when it is asked to take that of
the native one. -/
def initConfig (info : InitInfo) : Generator × Bool :=
  if info.generatedClassName.isEmpty then (gen, false)
  else if info.generatedFieldName.isEmpty then (gen, false)
  else if info.generatedMethodName.isEmpty then (gen, false)
  else
    let gen := { gen with
      generatedClassName := info.generatedClassName
      generatedMethodName := info.generatedMethodName
      generatedSourceName := info.generatedSourceName }
    if gen.generatedNativeFieldName.isEmpty then
      ({ gen with
        generatedFieldName := info.generatedFieldName
        generatedNativeFieldName :=
          info.generatedFieldName ++ ['$', 'n', 'a', 't', 'i', 'v', 'e'] }, true)
    else if gen.generatedNativeFieldName ≠ info.generatedFieldName then
      ({ gen with generatedFieldName := info.generatedFieldName }, true)
    else (gen, true)

/-- **`Init`**, with what `InitJNI` and `InitNative` come back with. -/
def init (info : InitInfo) (initJni initNative : Bool) : Generator × Bool :=
  match gen.kInitialized with
  | some true => initConfig gen info
  | some false => (gen, false)
  | none =>
    if !info.hasInlineHooker || !info.hasArtSymbolResolver then (gen, false)
    else
      let (gen, configOk) := initConfig gen info
      let initOk := configOk && initJni && initNative
      ({ gen with kInitialized := some initOk }, initOk)

/-! ## Names -/

/-- `std::to_string`. -/
def decimal (n : ℕ) : List Char := Nat.toDigits 10 n

/-- **What a class is named by.** -/
structure ClassName where
  generatedClassName : List Char
  number : ℕ
deriving DecidableEq

/-- `hooker_class_name`. -/
def ClassName.text (name : ClassName) : List Char :=
  name.generatedClassName ++ decimal name.number

/-- What happens to a library: `Init` is called, or an event of the hooks,
where a `Hook` finds a shorty. -/
inductive LibraryEvent where
  | init (info : InitInfo) (initJni initNative : Bool)
  | event (e : Event) (shorty : List Char)

/-- **The name `BuildDex` makes**, unless it is not called or called with
an empty shorty. -/
def Generator.named : LibraryEvent → Option ClassName
  | .event (.hook request) shorty =>
    if reachesBuildDex gen.hooks request && !shorty.isEmpty then
      some ⟨gen.generatedClassName, gen.loadedClasses⟩
    else none
  | _ => none

/-- **The library at work.** Hooks are for a library that is initialized,
and `BuildDex` builds nothing for an empty shorty. -/
def generatorMachine : Machine Generator LibraryEvent where
  step gen
    | .init info initJni initNative => (init gen info initJni initNative).1
    | .event e shorty =>
      { gen with
        hooks := step art gen.hooks e
        loadedClasses := if (gen.named (.event e shorty)).isSome
          then (gen.loadedClasses + 1) % 256 ^ art.arch.pointerSize else gen.loadedClasses }
  admissible gen
    | .init _ _ _ => True
    | .event e shorty => gen.kInitialized = some true ∧ admissible art gen.hooks e ∧
      match e with
      | .hook request => shorty = [] → request.built = none
      | _ => True

/-- **The names made so far**, kept along with the library. -/
def namingMachine : Machine (Generator × List ClassName) LibraryEvent :=
  (generatorMachine art).withHistory fun gen made e => made ++ (gen.named e).toList

/-- **No name has been given twice.** -/
def NamesDiffer (p : Generator × List ClassName) : Prop := (p.2.map ClassName.text).Nodup

instance (e : Event) (shorty : List Char) : Decidable (match e with
    | .hook request => shorty = [] → request.built = none
    | _ => True) := by
  cases e <;> infer_instance

instance (gen : Generator) : ∀ e, Decidable ((generatorMachine art).admissible gen e)
  | .init _ _ _ => inferInstanceAs (Decidable True)
  | .event e shorty => inferInstanceAs (Decidable (gen.kInitialized = some true ∧
      admissible art gen.hooks e ∧ match e with
      | .hook request => shorty = [] → request.built = none
      | _ => True))

instance (p : Generator × List ClassName) (e : LibraryEvent) :
    Decidable ((namingMachine art).admissible p e) :=
  inferInstanceAs (Decidable ((generatorMachine art).admissible p.1 e))

instance (p : Generator × List ClassName) : Decidable (NamesDiffer p) :=
  inferInstanceAs (Decidable (List.Nodup _))

/-! ## When names repeat -/

/-- **One name takes the digits of another**: its prefix is the other's with
some digits more, by which the other's number begins, and its own number is
the rest of it. With no digits more the two are the same. -/
def ClassName.Takes (name other : ClassName) : Prop :=
  ∃ digits, name.generatedClassName = other.generatedClassName ++ digits ∧
    decimal other.number = digits ++ decimal name.number

variable {art gen} {name other : ClassName} {m n : ℕ} {p : Generator × List ClassName}
  {e : LibraryEvent} {es : List LibraryEvent}

theorem decimal_injective : Function.Injective decimal := by
  intro m n h
  have hval : Nat.ofDigitChars 10 (decimal m) 0 = Nat.ofDigitChars 10 (decimal n) 0 := by rw [h]
  rwa [decimal, decimal, Nat.ofDigitChars_ten_toDigits, Nat.ofDigitChars_ten_toDigits] at hval

/-- A digit more. -/
theorem decimal_mul_ten (h : 0 < n) : decimal (10 * n) = decimal n ++ decimal 0 :=
  (Nat.toDigits_append_toDigits (b := 10) (d := 0) (by decide) h (by decide)).symm

/-- **The first digits of a number** are those of what is left of it when the
others are taken off, one by one from the end. -/
theorem decimal_take {digits rest : List Char} (h : decimal n = digits ++ rest)
    (hdigits : digits ≠ []) :
    digits = decimal (n / 10 ^ rest.length) ∧ (rest ≠ [] → 10 ^ rest.length ≤ n) := by
  induction rest using List.reverseRecOn generalizing n with
  | nil => simpa using h.symm
  | append_singleton rest c ih =>
    rw [← List.append_assoc] at h
    have hten : 10 ≤ n := by
      by_contra hlt
      rw [decimal, Nat.toDigits_of_lt_base (by omega)] at h
      have hlen := congrArg List.length h
      have hpos := List.length_pos_iff.2 hdigits
      simp only [List.length_singleton, List.length_append] at hlen
      omega
    have hsplit : decimal n = decimal (n / 10) ++ [Nat.digitChar (n % 10)] :=
      Nat.toDigits_of_base_le (by decide) hten
    obtain ⟨hfirst, -⟩ := List.append_inj' (hsplit.symm.trans h) rfl
    obtain ⟨heq, hle⟩ := ih hfirst
    have hlength : (rest ++ [c]).length = rest.length + 1 := List.length_append
    rw [hlength, Nat.pow_succ', ← Nat.div_div_eq_div_mul]
    refine ⟨heq, fun _ => ?_⟩
    rcases eq_or_ne rest [] with rfl | hrest
    · simpa using hten
    · have := hle hrest
      omega

/-- **Two names are one text** exactly where one takes digits of the
other. -/
theorem text_eq_iff : name.text = other.text ↔ name.Takes other ∨ other.Takes name := by
  unfold ClassName.text
  rw [List.append_eq_append_iff]
  constructor
  · rintro (⟨digits, hprefix, hnumber⟩ | ⟨digits, hprefix, hnumber⟩)
    · exact Or.inr ⟨digits, hprefix, hnumber⟩
    · exact Or.inl ⟨digits, hprefix, hnumber⟩
  · rintro (⟨digits, hprefix, hnumber⟩ | ⟨digits, hprefix, hnumber⟩)
    · exact Or.inr ⟨digits, hprefix, hnumber⟩
    · exact Or.inl ⟨digits, hprefix, hnumber⟩

/-- **One event keeps the names apart** exactly where it makes none of those
made before. -/
theorem namesDiffer_step_iff (h : NamesDiffer p) :
    NamesDiffer ((namingMachine art).step p e) ↔
      ∀ name ∈ p.1.named e, ∀ old ∈ p.2, old.text ≠ name.text := by
  have hmade : ((namingMachine art).step p e).2 = p.2 ++ (p.1.named e).toList := rfl
  unfold NamesDiffer
  rw [hmade]
  cases hnamed : p.1.named e with
  | none =>
    rw [Option.toList_none, List.append_nil]
    refine iff_of_true h fun name hname => ?_
    cases hname
  | some name =>
    rw [Option.toList_some, List.map_append, List.map_singleton, ← List.concat_eq_append,
      List.nodup_concat]
    constructor
    · rintro ⟨hnew, -⟩ name' hname' old hold htext
      obtain rfl := Option.some.inj hname'
      exact hnew (List.mem_map.2 ⟨old, hold, htext⟩)
    · intro hnew
      refine ⟨fun hmem => ?_, h⟩
      obtain ⟨old, hold, htext⟩ := List.mem_map.1 hmem
      exact hnew name rfl old hold htext

/-- An `Init` with this class name, which succeeds. -/
def sampleInit (generatedClassName : List Char) : LibraryEvent :=
  .init {
    hasInlineHooker := true
    hasArtSymbolResolver := true
    generatedClassName := generatedClassName
    generatedSourceName := []
    generatedFieldName := ['d']
    generatedMethodName := ['m'] } true true

/-- The hook of a method of class 1, its stub in a class of its own. -/
def sampleNumberedHook (i : ℕ) (page : Option ℕ) : LibraryEvent :=
  .event (sampleHook i (100 * i) (100 * i + 1) page) ['V']

/-- One class under `A1`, then ten under `A`. -/
def sampleNames : List LibraryEvent :=
  sampleInit ['A', '1'] :: sampleNumberedHook 1 (some 65536) :: sampleInit ['A'] ::
    (List.range' 2 10).map fun i => sampleNumberedHook i none

/-- **A name given twice**: the first class and the last are both `A10`. -/
theorem name_given_twice :
    let start := (Generator.initial (sampleState kAccPublic), [])
    (namingMachine sampleArt).Legal start sampleNames ∧
      ¬ (namingMachine sampleArt).Everywhere NamesDiffer start sampleNames := by
  intro start
  refine ⟨by decide +kernel, fun h => ?_⟩
  have hnames : ¬ NamesDiffer ((namingMachine sampleArt).exec start sampleNames) := by
    decide +kernel
  exact hnames h.exec

/-! ## Prefixes that keep names apart -/

/-- **No prefix is another with a number after it**, but for numbers that with
a digit more are too large for the counter. -/
def Unextended (art : Art) (S : List Char → Prop) : Prop :=
  ∀ longer shorter n, S longer → S shorter → shorter ≠ [] → 0 < n →
    longer = shorter ++ decimal n → 256 ^ art.arch.pointerSize ≤ 10 * n + 1

/-- **`Init` is given these prefixes, and the counter does not wrap.** -/
def KeepsTo (art : Art) (S : List Char → Prop) (p : Generator × List ClassName) :
    LibraryEvent → Prop
  | .init info _ _ => S info.generatedClassName
  | .event e shorty =>
    (p.1.named (.event e shorty)).isSome → p.1.loadedClasses + 1 < 256 ^ art.arch.pointerSize

/-- A prefix of the given ones that `InitConfig` does not refuse. -/
def Allowed (S : List Char → Prop) (generatedClassName : List Char) : Prop :=
  S generatedClassName ∧ generatedClassName ≠ []

/-- **The numbers count the names**: each one made is below the next. -/
structure Counted (art : Art) (S : List Char → Prop) (p : Generator × List ClassName) : Prop where
  lt : ∀ name ∈ p.2, name.number < p.1.loadedClasses
  room : p.1.loadedClasses < 256 ^ art.arch.pointerSize
  used : ∀ name ∈ p.2, Allowed S name.generatedClassName
  current : p.1.kInitialized = some true → Allowed S p.1.generatedClassName

variable {S : List Char → Prop}

/-- **What one name takes of another is a number**, which the other's number
begins with and has a digit more than. -/
theorem ClassName.Takes.number_eq (hS : Unextended art S) (h : name.Takes other)
    (hname : Allowed S name.generatedClassName) (hother : Allowed S other.generatedClassName)
    (hroom : other.number + 1 < 256 ^ art.arch.pointerSize) : name.number = other.number := by
  obtain ⟨digits, hprefix, hnumber⟩ := h
  rcases eq_or_ne digits [] with rfl | hdigits
  · exact (decimal_injective hnumber).symm
  · have hrest : decimal name.number ≠ [] := Nat.toDigits_ne_nil
    obtain ⟨heq, hle⟩ := decimal_take hnumber hdigits
    have hpow := hle hrest
    generalize hlen : (decimal name.number).length = k at heq hpow
    have hpos : 0 < other.number / 10 ^ k := Nat.div_pos hpow (by positivity)
    have hten : 10 ≤ 10 ^ k := Nat.le_self_pow (by
      rw [← hlen]
      exact (List.length_pos_iff.2 hrest).ne') 10
    have hbelow : 10 * (other.number / 10 ^ k) ≤ other.number :=
      calc 10 * (other.number / 10 ^ k) ≤ 10 ^ k * (other.number / 10 ^ k) :=
            Nat.mul_le_mul_right _ hten
        _ ≤ other.number := Nat.mul_div_le _ _
    have hwide := hS _ _ _ hname.1 hother.1 hother.2 hpos (heq ▸ hprefix)
    omega

/-- `InitConfig` takes the prefix it is given or leaves the one it has. -/
theorem initConfig_cases (gen : Generator) (info : InitInfo) :
    (initConfig gen info).1.loadedClasses = gen.loadedClasses ∧
      (initConfig gen info).1.kInitialized = gen.kInitialized ∧
      (info.generatedClassName ≠ [] ∧
          (initConfig gen info).1.generatedClassName = info.generatedClassName ∨
        (initConfig gen info).2 = false ∧
          (initConfig gen info).1.generatedClassName = gen.generatedClassName) := by
  unfold initConfig
  dsimp only
  split_ifs <;> simp_all

/-- `Init` leaves the counter, and a library initialized by it has the
prefix it was given, or was initialized and has the one it had. -/
theorem init_cases (gen : Generator) (info : InitInfo) (initJni initNative : Bool) :
    (init gen info initJni initNative).1.loadedClasses = gen.loadedClasses ∧
      ((init gen info initJni initNative).1.kInitialized = some true →
        info.generatedClassName ≠ [] ∧
          (init gen info initJni initNative).1.generatedClassName = info.generatedClassName ∨
        gen.kInitialized = some true ∧
          (init gen info initJni initNative).1.generatedClassName = gen.generatedClassName) := by
  obtain ⟨hloaded, hinit, hprefix⟩ := initConfig_cases gen info
  unfold init
  split
  · rename_i hgen
    exact ⟨hloaded, fun _ => hprefix.imp_right fun h => ⟨hgen, h.2⟩⟩
  · rename_i hgen
    exact ⟨rfl, fun h => absurd (hgen.symm.trans h) (by decide)⟩
  · rename_i hgen
    split_ifs
    · exact ⟨rfl, fun h => absurd (hgen.symm.trans h) (by decide)⟩
    · refine ⟨hloaded, fun h => ?_⟩
      rcases hprefix with hnew | ⟨hfail, -⟩
      · exact Or.inl hnew
      · -- refused, and so not initialized
        have hok : some ((initConfig gen info).2 && initJni && initNative) = some true := h
        rw [hfail] at hok
        cases hok

/-- A name is made of the prefix and the number of the moment. -/
theorem eq_of_named (h : name ∈ gen.named e) :
    name = ⟨gen.generatedClassName, gen.loadedClasses⟩ := by
  unfold Generator.named at h
  split at h
  · split at h
    · exact (Option.some.inj h).symm
    · cases h
  · cases h

/-- A library that counts goes on counting. -/
theorem Counted.step (h : Counted art S p) (hlegal : (namingMachine art).admissible p e)
    (hkeeps : KeepsTo art S p e) : Counted art S ((namingMachine art).step p e) := by
  cases e with
  | init info initJni initNative =>
    obtain ⟨hcount, hprefix⟩ := init_cases p.1 info initJni initNative
    have hmade : ((namingMachine art).step p (.init info initJni initNative)).2 = p.2 :=
      List.append_nil p.2
    have hgen : ((namingMachine art).step p (.init info initJni initNative)).1 =
      (init p.1 info initJni initNative).1 := rfl
    constructor
    · rw [hmade, hgen, hcount]
      exact h.lt
    · rw [hgen, hcount]
      exact h.room
    · rw [hmade]
      exact h.used
    · intro hready
      rcases hprefix hready with ⟨hne, hnew⟩ | ⟨hwas, hold⟩
      · rw [hgen, hnew]
        exact ⟨hkeeps, hne⟩
      · rw [hgen, hold]
        exact h.current hwas
  | event e shorty =>
    have hready : p.1.kInitialized = some true := hlegal.1
    have hmade : ((namingMachine art).step p (.event e shorty)).2 =
      p.2 ++ (p.1.named (.event e shorty)).toList := rfl
    have hcount : ((namingMachine art).step p (.event e shorty)).1.loadedClasses =
        if (p.1.named (.event e shorty)).isSome then p.1.loadedClasses + 1
          else p.1.loadedClasses := by
      show (if _ then _ else _) = _
      split
      · rename_i hnamed
        exact Nat.mod_eq_of_lt (hkeeps hnamed)
      · rfl
    constructor
    · rw [hmade, hcount]
      intro name hname
      rcases List.mem_append.1 hname with hold | hnew
      · have hbelow := h.lt name hold
        split <;> omega
      · -- a name made now has the number the counter had
        have hsome : name ∈ p.1.named (.event e shorty) := Option.mem_toList.1 hnew
        rw [if_pos (Option.isSome_of_mem hsome), eq_of_named hsome]
        exact Nat.lt_succ_self _
    · rw [hcount]
      split
      · rename_i hnamed
        exact hkeeps hnamed
      · exact h.room
    · rw [hmade]
      intro name hname
      rcases List.mem_append.1 hname with hold | hnew
      · exact h.used name hold
      · rw [eq_of_named (Option.mem_toList.1 hnew)]
        exact h.current hready
    · exact fun _ => h.current hready

/-- **Such prefixes keep names apart**, as one prefix does, or any that do
not end in digits. -/
theorem namesDiffer_of_unextended (hS : Unextended art S) {s : State}
    (hlegal : (namingMachine art).Legal (Generator.initial s, []) es)
    (hkeeps : (namingMachine art).EachStep (KeepsTo art S) (Generator.initial s, []) es) :
    (namingMachine art).Everywhere NamesDiffer (Generator.initial s, []) es := by
  have hstart : Counted art S (Generator.initial s, []) := by
    refine ⟨fun name h => absurd h List.not_mem_nil, Nat.pow_pos (by decide),
      fun name h => absurd h List.not_mem_nil, ?_⟩
    intro h
    cases h
  refine (Machine.everywhere_of_eachStep (M := namingMachine art)
    (P := fun p => Counted art S p ∧ NamesDiffer p) (fun p e h hkeep => ?_)
    ⟨hstart, List.nodup_nil⟩ (Machine.eachStep_and.2 ⟨hlegal, hkeeps⟩)).mono fun _ h => h.2
  refine ⟨h.1.step hkeep.1 hkeep.2, (namesDiffer_step_iff h.2).2 ?_⟩
  intro name hname old hold htext
  have hnew := eq_of_named hname
  cases e with
  | init info initJni initNative => cases hname
  | event e shorty =>
    have hprefix : Allowed S name.generatedClassName := by
      rw [hnew]
      exact h.1.current hkeep.1.1
    have hlt : old.number < name.number := by
      rw [hnew]
      exact h.1.lt old hold
    have hroom : name.number + 1 < 256 ^ art.arch.pointerSize := by
      rw [hnew]
      exact hkeep.2 (Option.isSome_of_mem hname)
    rcases text_eq_iff.1 htext with htakes | htakes
    · have heq := htakes.number_eq hS (h.1.used old hold) hprefix hroom
      omega
    · have heq := htakes.number_eq hS hprefix (h.1.used old hold) (by omega)
      omega

/-! And only such: a longer prefix names one class, the shorter one those after
it, until the number has come. -/

/-- A `Hook` that `BuildDex` fails. -/
def sampleFailedHook : LibraryEvent :=
  .event (.hook {
    target := some 110
    callback := .native false
    isProxy := false
    built := none
    mmap := none
    mprotectOk := true }) ['V']

/-- An `Init` that succeeds changes the prefix. -/
theorem sampleInit_step {generatedClassName : List Char} (hnonempty : generatedClassName ≠ [])
    (hinit : p.1.kInitialized ≠ some false) :
    let p' := (namingMachine art).step p (sampleInit generatedClassName)
    p'.1.kInitialized = some true ∧ p'.1.generatedClassName = generatedClassName ∧
      p'.1.loadedClasses = p.1.loadedClasses ∧ p'.1.hooks = p.1.hooks ∧ p'.2 = p.2 := by
  intro p'
  have hmade : p'.2 = p.2 := List.append_nil p.2
  have hgen : p'.1 = (init p.1 ⟨true, true, generatedClassName, [], ['d'], ['m']⟩ true true).1 :=
    rfl
  rw [hgen, hmade]
  have hgiven : generatedClassName.isEmpty = false := List.isEmpty_eq_false_iff.2 hnonempty
  cases hcase : p.1.kInitialized with
  | none =>
    simp only [init, hcase, initConfig, hgiven]
    split_ifs <;> simp_all
  | some initialized =>
    obtain rfl : initialized = true := by
      cases initialized
      · exact absurd hcase hinit
      · rfl
    simp only [init, hcase, initConfig, hgiven]
    split_ifs <;> simp_all

variable (art n S) in
/-- **Hooks that fail are counted**: each leaves the hooks as they are and takes
a number. -/
theorem sampleFailedHooks (hready : p.1.kInitialized = some true)
    (hhooks : p.1.hooks = sampleState kAccPublic)
    (hroom : p.1.loadedClasses + n < 256 ^ art.arch.pointerSize) :
    let es := List.replicate n sampleFailedHook
    (namingMachine art).Legal p es ∧ (namingMachine art).EachStep (KeepsTo art S) p es ∧
      (namingMachine art).exec p es = ({ p.1 with loadedClasses := p.1.loadedClasses + n },
        p.2 ++ (List.range' p.1.loadedClasses n).map (ClassName.mk p.1.generatedClassName)) := by
  induction n generalizing p with
  | zero => exact ⟨trivial, trivial, by simp⟩
  | succ n ih =>
    have hnamed : p.1.named sampleFailedHook =
        some ⟨p.1.generatedClassName, p.1.loadedClasses⟩ := by
      show (if _ then _ else _) = _
      rw [hhooks]
      rfl
    have hstep : (namingMachine art).step p sampleFailedHook =
        ({ p.1 with loadedClasses := p.1.loadedClasses + 1 },
          p.2 ++ [⟨p.1.generatedClassName, p.1.loadedClasses⟩]) := by
      have hleft : step art p.1.hooks (.hook ⟨some 110, .native false, false, none, none, true⟩) =
          p.1.hooks := by
        show (hookMethod art p.1.hooks _).1 = _
        unfold hookMethod
        dsimp only
        split_ifs <;> rfl
      have hnumber : (p.1.loadedClasses + 1) % 256 ^ art.arch.pointerSize =
          p.1.loadedClasses + 1 := Nat.mod_eq_of_lt (by omega)
      unfold sampleFailedHook at hnamed ⊢
      simp only [namingMachine, generatorMachine, Machine.withHistory_step, hnamed, hleft,
        Option.isSome_some, if_true, hnumber, Option.toList_some]
    obtain ⟨hlegal, hkeeps, hexec⟩ := ih (p := (namingMachine art).step p sampleFailedHook)
      (by rw [hstep]; exact hready) (by rw [hstep]; exact hhooks)
      (by rw [hstep]; show p.1.loadedClasses + 1 + n < _; omega)
    refine ⟨⟨⟨hready, ⟨fun _ _ _ hstub => ?_, fun _ hpage => ?_⟩, fun _ => rfl⟩, hlegal⟩,
      ⟨fun _ => by omega, hkeeps⟩, ?_⟩
    · cases hstub
    · cases hpage
    · rw [List.replicate_succ, Machine.exec_cons, hexec, hstep, List.range'_succ]
      simp [Nat.add_assoc, Nat.add_comm 1 n]

/-- A class under the longer prefix, then classes under the shorter one, until
the number has a digit more. -/
def sampleRepetition (longer shorter : List Char) (n : ℕ) : List LibraryEvent :=
  sampleInit longer :: (List.replicate 1 sampleFailedHook ++
    sampleInit shorter :: List.replicate (10 * n) sampleFailedHook)

variable (art) in
theorem sampleRepetition_spec {longer shorter : List Char} (hlonger : S longer)
    (hshorter : S shorter) (hlonger_ne : longer ≠ []) (hshorter_ne : shorter ≠ [])
    (hroom : 10 * n + 1 < 256 ^ art.arch.pointerSize) :
    let start := (Generator.initial (sampleState kAccPublic), [])
    let es := sampleRepetition longer shorter n
    (namingMachine art).Legal start es ∧ (namingMachine art).EachStep (KeepsTo art S) start es ∧
      ((namingMachine art).exec start es).2 =
        ⟨longer, 0⟩ :: (List.range' 1 (10 * n)).map (ClassName.mk shorter) := by
  intro start es
  let p₁ := (namingMachine art).step start (sampleInit longer)
  obtain ⟨hready₁, hprefix₁, hloaded₁, hhooks₁, hmade₁⟩ :
      p₁.1.kInitialized = some true ∧ p₁.1.generatedClassName = longer ∧
        p₁.1.loadedClasses = 0 ∧ p₁.1.hooks = sampleState kAccPublic ∧ p₁.2 = [] :=
    sampleInit_step hlonger_ne (by decide)
  obtain ⟨hlegal₁, hkeeps₁, hexec₁⟩ := sampleFailedHooks art 1 S hready₁ hhooks₁ (by omega)
  rw [hprefix₁, hloaded₁, hmade₁] at hexec₁
  let p₂ := (namingMachine art).exec p₁ (List.replicate 1 sampleFailedHook)
  have hp₂ : p₂ = ({ p₁.1 with loadedClasses := 1 }, [⟨longer, 0⟩]) := hexec₁
  let p₃ := (namingMachine art).step p₂ (sampleInit shorter)
  obtain ⟨hready₃, hprefix₃, hloaded₃, hhooks₃, hmade₃⟩ :
      p₃.1.kInitialized = some true ∧ p₃.1.generatedClassName = shorter ∧
        p₃.1.loadedClasses = p₂.1.loadedClasses ∧ p₃.1.hooks = p₂.1.hooks ∧ p₃.2 = p₂.2 :=
    sampleInit_step hshorter_ne (by rw [hp₂, hready₁]; decide)
  rw [hp₂] at hloaded₃ hhooks₃ hmade₃
  obtain ⟨hlegal₃, hkeeps₃, hexec₃⟩ :=
    sampleFailedHooks art (10 * n) S hready₃
      (hhooks₃.trans hhooks₁) (by rw [hloaded₃]; show 1 + 10 * n < _; omega)
  rw [hprefix₃, hloaded₃, hmade₃] at hexec₃
  refine ⟨⟨trivial, Machine.legal_append.2 ⟨hlegal₁, trivial, hlegal₃⟩⟩,
    ⟨hlonger, Machine.eachStep_append.2 ⟨hkeeps₁, hshorter, hkeeps₃⟩⟩, ?_⟩
  have hexec : (namingMachine art).exec start es =
      (namingMachine art).exec p₃ (List.replicate (10 * n) sampleFailedHook) :=
    Machine.exec_append
  rw [hexec, hexec₃]
  rfl

/-- **Names of generated classes.** The names are pairwise different along every
run in which `Init` is given only these prefixes and the counter does not wrap,
if and only if none of the prefixes is another with a number after it that the
counter reaches with a digit more. -/
theorem namesDiffer_iff_unextended (S : List Char → Prop) :
    (∀ s es, (namingMachine art).Legal (Generator.initial s, []) es →
      (namingMachine art).EachStep (KeepsTo art S) (Generator.initial s, []) es →
      (namingMachine art).Everywhere NamesDiffer (Generator.initial s, []) es) ↔
    Unextended art S := by
  refine ⟨fun h longer shorter n hlonger hshorter hne hn heq => ?_,
    fun hS s es => namesDiffer_of_unextended hS⟩
  by_contra hroom
  have hlonger_ne : longer ≠ [] := by
    rw [heq]
    exact List.append_ne_nil_of_left_ne_nil hne _
  obtain ⟨hlegal, hkeeps, hmade⟩ := sampleRepetition_spec art (n := n) hlonger hshorter
    hlonger_ne hne (by omega)
  have hdiffer := (h _ _ hlegal hkeeps).exec
  unfold NamesDiffer at hdiffer
  rw [hmade, List.map_cons, List.nodup_cons] at hdiffer
  refine hdiffer.1 (List.mem_map.2 ⟨⟨shorter, 10 * n⟩, ?_, ?_⟩)
  · exact List.mem_map_of_mem (List.mem_range'_1.2 (by omega))
  · -- the first name and the last
    show shorter ++ decimal (10 * n) = longer ++ decimal 0
    rw [decimal_mul_ten hn, heq, List.append_assoc]

end LSPlant
