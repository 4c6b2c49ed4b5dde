import LSPlant.InPlace
import LSPlant.Sticky
import LSPlant.Transparency
/-!
# A debuggable process

In a process that is debuggable one more function of ART's instrumentation
is intercepted, the first of three that can be hooked. They install code on
one method; of the one intercepted LSPlant names the backup instead, or lets
nothing happen to a deoptimized method. The machine has the calls of all
three among its events. Those intercepted keep hooks in place, bodies
deoptimized and hooking transparent; those left to ART do so where they are
made for no hooked method, or for no body. The two interceptors of the JIT
name another method too: of a hooked method the backup is compiled, and
nothing comes of it.
-/

namespace LSPlant

/-! ## The interceptors -/

section Interceptors

variable (s : State) (m : ArtMethodPtr)

/-- **`MaybeUseBackupMethod`.** -/
def maybeUseBackupMethod (quickCode : ℕ) : ArtMethodPtr :=
  match s.isHooked m with
  | some backup => if s.getEntryPoint m ≠ .code quickCode then backup else m
  | none => m

/-- What the three have in common: ART installs `installed` on the method it
is given. -/
def installMaybeOnBackup (quickCode installed : ℕ) : State :=
  if s.isDeoptimized m then s
  else s.artSetEntryPoint (maybeUseBackupMethod s m quickCode) installed

def updateMethodsCodeToInterpreterEntryPoint (installed : ℕ) : State :=
  installMaybeOnBackup s m nullptr installed

def initializeMethodsCode (quickCode installed : ℕ) : State :=
  installMaybeOnBackup s m quickCode installed

def reinitializeMethodsCode (installed : ℕ) : State :=
  installMaybeOnBackup s m nullptr installed

end Interceptors

/-! ## What `Init` hooks -/

/-- The functions that are intercepted in a debuggable process alone. -/
inductive InstrumentationFunction where
  | reinitializeMethodsCode
  | initializeMethodsCode
  | updateMethodsCodeToInterpreterEntryPoint
deriving DecidableEq

/-- **What `Instrumentation::Init` meets.** A function can be hooked if ART
has its symbol and the inline hooker takes it. -/
structure Instrumentation where
  sdkInt : ℕ
  isJavaDebuggable : Bool
  canHook : InstrumentationFunction → Bool

namespace Instrumentation

variable (i : Instrumentation)

/-- `HookHandler::operator()`: hooking stops with the first function that
can be hooked. -/
def handler (functions : List InstrumentationFunction) : Option InstrumentationFunction :=
  functions.find? i.canHook

/-- **`Init`**, and the function it has hooked: where there should be one and
none can be hooked it fails. -/
def init : Bool × Option InstrumentationFunction :=
  if i.isJavaDebuggable = false then (true, none)
  else if 28 ≤ i.sdkInt then
    let hooked := i.handler [.reinitializeMethodsCode, .initializeMethodsCode,
      .updateMethodsCodeToInterpreterEntryPoint]
    (hooked.isSome, hooked)
  else (true, none)

end Instrumentation

/-! ## The machine -/

/-- **A call of the instrumentation** that may be intercepted in a debuggable
process alone. -/
inductive InstrumentationCall where
  | updateMethodsCodeToInterpreterEntryPoint (m : ArtMethodPtr) (installed : ℕ)
  | initializeMethodsCode (m : ArtMethodPtr) (quickCode installed : ℕ)
  | reinitializeMethodsCode (m : ArtMethodPtr) (installed : ℕ)

namespace InstrumentationCall

/-- The function called. -/
def function : InstrumentationCall → InstrumentationFunction
  | updateMethodsCodeToInterpreterEntryPoint _ _ => .updateMethodsCodeToInterpreterEntryPoint
  | initializeMethodsCode _ _ _ => .initializeMethodsCode
  | reinitializeMethodsCode _ _ => .reinitializeMethodsCode

/-- The method it is made for. -/
def method : InstrumentationCall → ArtMethodPtr
  | updateMethodsCodeToInterpreterEntryPoint m _ => m
  | initializeMethodsCode m _ _ => m
  | reinitializeMethodsCode m _ => m

/-- The code the method's entry point is compared with. -/
def quickCode : InstrumentationCall → ℕ
  | initializeMethodsCode _ quickCode _ => quickCode
  | _ => nullptr

/-- What ART installs. -/
def installed : InstrumentationCall → ℕ
  | updateMethodsCodeToInterpreterEntryPoint _ installed => installed
  | initializeMethodsCode _ _ installed => installed
  | reinitializeMethodsCode _ installed => installed

/-- What LSPlant's interceptor makes of it. -/
def intercepted (s : State) : InstrumentationCall → State
  | updateMethodsCodeToInterpreterEntryPoint m installed =>
    LSPlant.updateMethodsCodeToInterpreterEntryPoint s m installed
  | initializeMethodsCode m quickCode installed =>
    LSPlant.initializeMethodsCode s m quickCode installed
  | reinitializeMethodsCode m installed => LSPlant.reinitializeMethodsCode s m installed

/-- It meets LSPlant's interceptor. -/
def IsIntercepted (i : Instrumentation) (c : InstrumentationCall) : Prop :=
  i.init.2 = some c.function

instance (i : Instrumentation) (c : InstrumentationCall) : Decidable (c.IsIntercepted i) :=
  inferInstanceAs (Decidable (_ = _))

/-- The state after it. A call that is not intercepted is ART's alone. -/
def step (i : Instrumentation) (s : State) (c : InstrumentationCall) : State :=
  if c.IsIntercepted i then c.intercepted s else s.artSetEntryPoint c.method c.installed

end InstrumentationCall

/-- ART makes them of any method at any time. -/
def instrumentationMachine (i : Instrumentation) : Machine State InstrumentationCall where
  step := InstrumentationCall.step i
  admissible _ _ := True

instance (i : Instrumentation) (s : State) (c : InstrumentationCall) :
    Decidable ((instrumentationMachine i).admissible s c) :=
  isTrue trivial

/-- **LSPlant in a process that may be debuggable.** -/
abbrev debuggableMachine (art : Art) (i : Instrumentation) :
    Machine State (Event ⊕ InstrumentationCall) :=
  (machine art).sum (instrumentationMachine i)

/-- A debuggable process in which one function alone can be hooked. -/
def sampleInstrumentation (f : InstrumentationFunction) : Instrumentation where
  sdkInt := 33
  isJavaDebuggable := true
  canHook g := g = f

variable {art : Art} {i : Instrumentation} {s s' : State} {t b m n : ArtMethodPtr}
  {c : InstrumentationCall}

/-! ## What a call does -/

namespace InstrumentationCall

theorem intercepted_eq (s : State) (c : InstrumentationCall) :
    c.intercepted s = installMaybeOnBackup s c.method c.quickCode c.installed := by
  cases c <;> rfl

/-- **ART writes one entry point**, and none if the call is intercepted and
its method deoptimized. -/
theorem step_eq (i : Instrumentation) (s : State) (c : InstrumentationCall) :
    c.step i s =
      if c.IsIntercepted i then
        if s.isDeoptimized c.method then s
        else s.artSetEntryPoint (maybeUseBackupMethod s c.method c.quickCode) c.installed
      else s.artSetEntryPoint c.method c.installed := by
  rw [step, intercepted_eq, installMaybeOnBackup]

theorem sameRegistry (i : Instrumentation) (s : State) (c : InstrumentationCall) :
    SameRegistry s (c.step i s) := by
  rw [step_eq]
  split
  · split
    · exact .refl s
    · exact .artSetEntryPoint
  · exact .artSetEntryPoint

theorem getEntryPoint_step_intercepted (h : c.IsIntercepted i) :
    (c.step i s).getEntryPoint n =
      if n = maybeUseBackupMethod s c.method c.quickCode ∧ ¬ s.isDeoptimized c.method then
        .code c.installed
      else s.getEntryPoint n := by
  rw [step_eq, if_pos h]
  by_cases hdeopt : s.isDeoptimized c.method
  · rw [if_pos hdeopt, if_neg fun h => h.2 hdeopt]
  · rw [if_neg hdeopt, State.getEntryPoint_artSetEntryPoint]
    simp only [hdeopt, not_false_eq_true, and_true]

theorem getEntryPoint_step_plain (h : ¬ c.IsIntercepted i) :
    (c.step i s).getEntryPoint n =
      if n = c.method then .code c.installed else s.getEntryPoint n := by
  rw [step_eq, if_neg h, State.getEntryPoint_artSetEntryPoint]

theorem backupMethods_step : (c.step i s).backupMethods = s.backupMethods := by
  rw [step_eq]
  split
  · split <;> rfl
  · rfl

theorem getData_step : (c.step i s).getData n = s.getData n := by
  rw [step_eq]
  split
  · split
    · rfl
    · exact State.getData_artSetEntryPoint
  · exact State.getData_artSetEntryPoint

end InstrumentationCall

theorem maybeUseBackupMethod_of_unhooked {q : ℕ} (h : s.isHooked m = none) :
    maybeUseBackupMethod s m q = m := by
  rw [maybeUseBackupMethod, h]

/-- A trampoline is no code ART compares with. -/
theorem maybeUseBackupMethod_of_trampoline {q : ℕ}
    (h : m ∈ s.hookedMethods → (s.getEntryPoint m).IsTrampoline) :
    maybeUseBackupMethod s m q = mayGetBackup s m := by
  rcases hm : s.isHooked m with _ | b
  · rw [maybeUseBackupMethod_of_unhooked hm, mayGetBackup_of_unhooked hm]
  · have htramp := h (Registry.mem_hookedMethods.2 ⟨b, hm⟩)
    have hne : s.getEntryPoint m ≠ .code q := by
      intro he
      rw [he] at htramp
      exact not_isTrampoline_code htramp
    simp only [maybeUseBackupMethod, hm, ne_eq, hne, not_false_eq_true, if_true]
    exact (mayGetBackup_of_hooked hm).symm

theorem InPlace.isTrampoline {address : ArtMethodPtr → ℕ} (hP : InPlace s address)
    (ht : t ∈ s.hookedMethods) : (s.getEntryPoint t).IsTrampoline := by
  rw [hP t ht]
  exact isTrampoline_trampoline

/-! ## Hooks stay in place -/

/-- The debuggable machine, with the trampolines generated last. -/
abbrev debuggableHookMachine (art : Art) (i : Instrumentation) :
    Machine (State × (ArtMethodPtr → ℕ)) (Event ⊕ InstrumentationCall) :=
  (debuggableMachine art i).withHistory fun s address =>
    Sum.elim (latestTrampoline art s address) fun _ => address

/-- **A call leaves every hook in place exactly when** it is intercepted or
made for a method that is not hooked. -/
theorem inPlace_instrumentation_iff {address : ArtMethodPtr → ℕ} (hc : Coherent art s)
    (hP : InPlace s address) :
    InPlace (c.step i s) address ↔ c.IsIntercepted i ∨ c.method ∉ s.hookedMethods := by
  have hhooked : (c.step i s).hookedMethods = s.hookedMethods := by
    rw [(c.sameRegistry i s).toRegistry]
  by_cases hint : c.IsIntercepted i
  · refine iff_of_true (fun t ht => ?_) (Or.inl hint)
    rw [hhooked] at ht
    rw [InstrumentationCall.getEntryPoint_step_intercepted hint, if_neg]
    · exact hP t ht
    · rintro ⟨he, -⟩
      rw [maybeUseBackupMethod_of_trampoline fun hm => hP.isTrampoline hm] at he
      have hnot : s.isHooked t = none := he ▸ hc.isHooked_mayGetBackup
      exact Registry.isHooked_eq_none.1 hnot ht
  · rw [or_iff_right hint]
    constructor
    · -- ART's write is code, and no trampoline is
      intro hP' hm
      have htramp := hP'.isTrampoline (hhooked ▸ hm)
      rw [InstrumentationCall.getEntryPoint_step_plain hint, if_pos rfl] at htramp
      exact not_isTrampoline_code htramp
    · intro hm t ht
      rw [hhooked] at ht
      rw [InstrumentationCall.getEntryPoint_step_plain hint, if_neg fun he : t = c.method =>
        hm (he ▸ ht)]
      exact hP t ht

/-- **Hooks are in place everywhere along a run of a debuggable process
exactly when** none of its other steps finds a stale entry point of a hooked
method, and the calls of the instrumentation that are not intercepted are
made for methods that are not hooked. -/
theorem inPlace_debuggable_iff {heap : ArtMethodPtr → ArtMethod} {mem : Memory} {ids : List ℕ}
    {owner : ℕ → ArtMethodPtr} {address : ArtMethodPtr → ℕ}
    {es : List (Event ⊕ InstrumentationCall)}
    (hL : (debuggableMachine art i).Legal (State.initial heap mem ids owner) es) :
    (debuggableHookMachine art i).Everywhere (fun p => InPlace p.1 p.2)
        (State.initial heap mem ids owner, address) es ↔
      (debuggableMachine art i).EachStep
        (fun s => Sum.elim (FindsNothingStale s) fun c : InstrumentationCall =>
          c.IsIntercepted i ∨ c.method ∉ s.hookedMethods)
        (State.initial heap mem ids owner) es := by
  have hL' := (Machine.withHistory_eachStep
    (fun s address => Sum.elim (latestTrampoline art s address) fun _ => address)
    (State.initial heap mem ids owner, address)).2 hL
  have hstart : InPlace (State.initial heap mem ids owner) address := fun t ht =>
    absurd ht Finmap.notMem_empty
  refine Iff.trans ?_ (Machine.withHistory_eachStep
    (G := fun s => Sum.elim (FindsNothingStale s) fun c : InstrumentationCall =>
      c.IsIntercepted i ∨ c.method ∉ s.hookedMethods)
    (fun s address => Sum.elim (latestTrampoline art s address) fun _ => address)
    (State.initial heap mem ids owner, address))
  refine Machine.everywhere_iff_eachStep (Q := fun p => Coherent art p.1) ?_ ?_
    coherent_initial hstart hL'
  · rintro p (e | c) hc hA
    · exact coherent_step hc hA
    · exact hc.congr (c.sameRegistry i p.1).sameHooks
  · rintro p (e | c) hc hA hP
    · exact inPlace_step_iff hc hA hP
    · exact inPlace_instrumentation_iff hc hP

/-- A run it is about: a hooked method is initialised with code again by the
function that is intercepted, and another one by functions that are not. -/
theorem inPlace_debuggable_sample :
    (debuggableHookMachine sampleArt
        (sampleInstrumentation .reinitializeMethodsCode)).Everywhere
      (fun p => InPlace p.1 p.2) (sampleState kAccPublic, fun _ => 0)
      [.inl (sampleHook 110 210 211 (some 65536)), .inr (.reinitializeMethodsCode 110 70),
        .inr (.initializeMethodsCode 120 71 72),
        .inr (.updateMethodsCodeToInterpreterEntryPoint 120 73)] := by
  exact (inPlace_debuggable_iff (by decide)).2 (by decide)

/-! ## Bodies stay deoptimized -/

/-- **What a call has to spare.** It is intercepted: a backup that was
deoptimized under its own name, while its target was not. It is not: the
body. -/
def KeepsBody (art : Art) (i : Instrumentation) (t : ArtMethodPtr) (s : State)
    (c : InstrumentationCall) : Prop :=
  if c.IsIntercepted i then
    s.isHooked c.method = some (mayGetBackup s t) → ¬ s.isDeoptimized c.method →
      c.installed = art.artQuickToInterpreterBridge
  else c.method = mayGetBackup s t → c.installed = art.artQuickToInterpreterBridge

instance (art : Art) (i : Instrumentation) (t : ArtMethodPtr) (s : State)
    (c : InstrumentationCall) : Decidable (KeepsBody art i t s c) :=
  inferInstanceAs (Decidable (ite _ _ _))

theorem backupsRecorded_instrumentation (hr : BackupsRecorded s) :
    BackupsRecorded (c.step i s) := by
  have hs := c.sameRegistry i s
  constructor
  · intro t b hb
    rw [hs.toRegistry] at hb ⊢
    exact hr.deoptimized t b hb
  · intro t b hb
    rw [hs.toRegistry] at hb
    rw [(hs.methods b).1, (hs.methods t).1]
    exact hr.kind t b hb

theorem Deoptimized.instrumentation (h : Deoptimized art t s) :
    Deoptimized art t (c.step i s) where
  coherent := h.coherent.congr (c.sameRegistry i s).sameHooks
  recorded := backupsRecorded_instrumentation h.recorded
  deoptimized := by
    rw [(c.sameRegistry i s).toRegistry]
    exact h.deoptimized
  notNative := by
    rw [State.isNative_congr ((c.sameRegistry i s).methods t).1]
    exact h.notNative

/-- An intercepted call writes to the body of a deoptimized method only on
its way from a target: the body is recorded itself. -/
theorem Deoptimized.isHooked_of_maybeUseBackupMethod (h : Deoptimized art t s) {q : ℕ}
    (he : mayGetBackup s t = maybeUseBackupMethod s m q) (hnot : ¬ s.isDeoptimized m) :
    s.isHooked m = some (mayGetBackup s t) := by
  rcases hm : s.isHooked m with _ | b
  · rw [maybeUseBackupMethod_of_unhooked hm] at he
    exact absurd (he ▸ h.body.1) hnot
  · have hne : mayGetBackup s t ≠ m := fun ht =>
      h.body_not_mem (ht ▸ Registry.mem_hookedMethods.2 ⟨b, hm⟩)
    simp only [maybeUseBackupMethod, hm] at he
    split at he
    · rw [he]
    · exact absurd he hne

/-- **A call leaves the body of a deoptimized method alone.** -/
theorem Deoptimized.interpreted_instrumentation (h : Deoptimized art t s)
    (hG : KeepsBody art i t s c) (hP : Interpreted art t s) :
    Interpreted art t (c.step i s) := by
  have hbody : mayGetBackup (c.step i s) t = mayGetBackup s t :=
    mayGetBackup_congr (c.sameRegistry i s).toRegistry
  unfold Interpreted at hP ⊢
  unfold KeepsBody at hG
  rw [hbody]
  by_cases hint : c.IsIntercepted i
  · rw [if_pos hint] at hG
    rw [InstrumentationCall.getEntryPoint_step_intercepted hint]
    split
    · rename_i hcond
      rw [hG (h.isHooked_of_maybeUseBackupMethod hcond.1 hcond.2) hcond.2]
    · exact hP
  · rw [if_neg hint] at hG
    rw [InstrumentationCall.getEntryPoint_step_plain hint]
    split
    · rename_i he
      rw [hG he.symm]
    · exact hP

/-- **Deoptimization lasts in a debuggable process.** Wherever `Deoptimize`
has returned true for a method, its body has the interpreter bridge as entry
point in every state of a run whose other steps keep the bridge
(`KeepsBridge`) and whose calls of the instrumentation spare the body. -/
theorem interpreted_debuggable {heap : ArtMethodPtr → ArtMethod} {mem : Memory} {ids : List ℕ}
    {owner : ℕ → ArtMethodPtr} {before after : List (Event ⊕ InstrumentationCall)}
    (hbridge : art.artQuickToInterpreterBridge ≠ 0)
    (hL : (debuggableMachine art i).Legal (State.initial heap mem ids owner) before)
    (hd : deoptimize art ((debuggableMachine art i).exec (State.initial heap mem ids owner) before)
      (some t) = (s, true))
    (hL' : (debuggableMachine art i).Legal s after)
    (hkeeps : (debuggableMachine art i).EachStep
      (fun s => Sum.elim (KeepsBridge art t s) (KeepsBody art i t s)) s after) :
    (debuggableMachine art i).Everywhere (Interpreted art t) s after := by
  obtain ⟨hcoherent, hrecorded⟩ := Machine.exec_of_eachStep (M := debuggableMachine art i)
    (P := fun s => Coherent art s ∧ BackupsRecorded s) (by
      rintro s (e | c) hP hA
      · exact ⟨coherent_step hP.1 hA, backupsRecorded_step hP.1 hA hP.2⟩
      · exact ⟨hP.1.congr (c.sameRegistry i s).sameHooks, backupsRecorded_instrumentation hP.2⟩)
    ⟨coherent_initial, backupsRecorded_initial⟩ hL
  have hspec := deoptimize_spec (t := t) hcoherent hrecorded hbridge (by rw [hd])
  rw [hd] at hspec
  have hall := Machine.everywhere_of_eachStep (M := debuggableMachine art i)
    (P := fun s => Deoptimized art t s ∧ Interpreted art t s) (by
      rintro s (e | c) hP hG
      · exact ⟨hP.1.step hG.1, hP.1.interpreted_step hbridge hG.1 hG.2 hP.2⟩
      · exact ⟨hP.1.instrumentation, hP.1.interpreted_instrumentation hG.2 hP.2⟩)
    hspec (Machine.eachStep_and.2 ⟨hL', hkeeps⟩)
  exact hall.mono fun s h => h.2

/-- A run it is about: a hooked method is deoptimized, initialised with code
while it is hooked and again after it is unhooked; another function, which is
not intercepted, sends it to the interpreter. -/
theorem interpreted_debuggable_sample :
    let i := sampleInstrumentation .initializeMethodsCode
    let before := [.inl (sampleHook 110 210 211 (some 65536)),
      .inr (.initializeMethodsCode 110 70 71)]
    let s := (debuggableMachine sampleArt i).exec (sampleState kAccPublic) before
    (debuggableMachine sampleArt i).Everywhere (Interpreted sampleArt 110)
      (deoptimize sampleArt s (some 110)).1
      [.inr (.initializeMethodsCode 110 80 81), .inl (.unHook (some 110)),
        .inr (.initializeMethodsCode 110 82 83),
        .inr (.updateMethodsCodeToInterpreterEntryPoint 110
          sampleArt.artQuickToInterpreterBridge)] := by
  intro i before s
  have hL : (debuggableMachine sampleArt i).Legal (sampleState kAccPublic) before := by decide
  have htrue : (deoptimize sampleArt s (some 110)).2 = true := by decide
  exact interpreted_debuggable (by decide) hL (Prod.ext rfl htrue) (by decide) (by decide)

/-! ## Hooking is transparent -/

/-- **The calls made for one method**: those that are not intercepted,
while it is not hooked. -/
def instrumentationOf (i : Instrumentation) (t : ArtMethodPtr) :
    Machine State InstrumentationCall where
  step := InstrumentationCall.step i
  admissible s c := c.method = t ∧ (c.IsIntercepted i ∨ t ∉ s.hookedMethods)

instance (i : Instrumentation) (t : ArtMethodPtr) (s : State) (c : InstrumentationCall) :
    Decidable ((instrumentationOf i t).admissible s c) :=
  inferInstanceAs (Decidable (_ ∧ _))

/-- **A debuggable process as one method meets it.** -/
abbrev debuggableMethodMachine (art : Art) (i : Instrumentation) (t : ArtMethodPtr) :
    Machine State (MethodEvent ⊕ InstrumentationCall) :=
  (methodMachine art t).sum (instrumentationOf i t)

/-- What the plain method sees: of a call, the code ART installs. -/
def plainEvent (t : ArtMethodPtr) : MethodEvent ⊕ InstrumentationCall → Option PlainEvent :=
  Sum.elim (·.plain t) fun c => some (.updateMethodsCode c.installed)

/-- What a call of either kind does to an undisturbed method's entry
points. -/
theorem Undisturbed.getEntryPoint_instrumentation (hu : Undisturbed art t s)
    (hc : (instrumentationOf i t).admissible s c) :
    (c.step i s).getEntryPoint n =
      if n = mayGetBackup s t then .code c.installed else s.getEntryPoint n := by
  obtain ⟨hmethod, hspared⟩ := hc
  by_cases hint : c.IsIntercepted i
  · rw [InstrumentationCall.getEntryPoint_step_intercepted hint, hmethod,
      maybeUseBackupMethod_of_trampoline hu.trampoline]
    simp only [hu.notDeoptimized, not_false_eq_true, and_true]
  · have hnone : s.isHooked t = none := Registry.isHooked_eq_none.2 (hspared.resolve_left hint)
    rw [InstrumentationCall.getEntryPoint_step_plain hint, hmethod, mayGetBackup_of_unhooked hnone]

/-- **A call is a code update of the plain method.** -/
theorem Coupled.instrumentation {p : PlainMethod} (h : Coupled art t s p)
    (hc : (instrumentationOf i t).admissible s c) :
    Coupled art t (c.step i s) (p.step (.updateMethodsCode c.installed)) := by
  have hu := h.undisturbed
  have hs := c.sameRegistry i s
  have hbody := mayGetBackup_congr (t := t) hs.toRegistry
  refine ⟨hu.congr hs InstrumentationCall.backupMethods_step fun ht => ?_, ?_, ?_⟩
  · rw [hu.getEntryPoint_instrumentation hc, if_neg]
    intro he
    have hnot : s.isHooked t = none := he ▸ hu.coherent.isHooked_mayGetBackup
    exact Registry.isHooked_eq_none.1 hnot ht
  · rw [hbody, InstrumentationCall.getData_step]
    exact h.data
  · rw [hbody, hu.getEntryPoint_instrumentation hc, if_pos rfl]
    rfl

/-- **A run takes the plain method's run.** -/
theorem coupled_debuggable {p : PlainMethod} {es : List (MethodEvent ⊕ InstrumentationCall)}
    (h : Coupled art t s p) (hL : (debuggableMethodMachine art i t).Legal s es) :
    Coupled art t ((debuggableMethodMachine art i t).exec s es)
      (plainMachine.exec p (es.filterMap (plainEvent t))) := by
  refine Machine.exec_simulation (R := Coupled art t) ?_ h hL
  rintro s p (e | c) hp hA
  · exact coupled_step hp hA
  · exact hp.instrumentation hA

/-- Without hooks and unhooks the registries stay as they are. -/
theorem toRegistry_debuggable {es : List (MethodEvent ⊕ InstrumentationCall)}
    (h : ∀ e ∈ es, (plainEvent t e).isSome) :
    ((debuggableMethodMachine art i t).exec s es).toRegistry = s.toRegistry := by
  refine Machine.exec_of_eachStep (P := fun u : State => u.toRegistry = s.toRegistry)
    (G := fun _ e => (plainEvent t e).isSome) ?_ rfl (Machine.eachStep_of_forall h)
  rintro u (e | c) hu he
  · exact (toRegistry_methodStep he).trans hu
  · exact (c.sameRegistry i u).toRegistry.trans hu

/-- **Hooking is transparent in a debuggable process.** Of two runs of one
undisturbed method, the same to the plain method but for hooks and unhooks
that the first one has anywhere, the first leaves the method, or its backup
if it ends hooked, with the data pointer and the entry point that the second
leaves the method with. -/
theorem transparent_debuggable {es plainRun : List (MethodEvent ⊕ InstrumentationCall)}
    (hu : Undisturbed art t s) (hn : t ∉ s.hookedMethods)
    (hL : (debuggableMethodMachine art i t).Legal s es)
    (hL' : (debuggableMethodMachine art i t).Legal s plainRun)
    (hplain : ∀ e ∈ plainRun, (plainEvent t e).isSome)
    (hsame : es.filterMap (plainEvent t) = plainRun.filterMap (plainEvent t)) :
    let u := (debuggableMethodMachine art i t).exec s es
    let v := (debuggableMethodMachine art i t).exec s plainRun
    u.getData (mayGetBackup u t) = v.getData t ∧
      u.getEntryPoint (mayGetBackup u t) = v.getEntryPoint t := by
  intro u v
  have hnone : s.isHooked t = none := Registry.isHooked_eq_none.2 hn
  have hstart : Coupled art t s ⟨s.getData t, s.getEntryPoint t⟩ := by
    refine ⟨hu, ?_, ?_⟩ <;> rw [mayGetBackup_of_unhooked hnone]
  have hcu : Coupled art t u _ := coupled_debuggable hstart hL
  have hcv : Coupled art t v _ := coupled_debuggable hstart hL'
  have hv : v.isHooked t = none := by
    have hreg : v.toRegistry = s.toRegistry := toRegistry_debuggable hplain
    rw [hreg]
    exact hnone
  rw [← hsame] at hcv
  constructor
  · rw [hcu.data, ← hcv.data, mayGetBackup_of_unhooked hv]
  · rw [hcu.entryPoint, ← hcv.entryPoint, mayGetBackup_of_unhooked hv]

/-- A run it is about: a method is hooked, initialised with code by the
function that is intercepted and unhooked, and sent to the interpreter by one
that is not. -/
theorem transparent_debuggable_sample :
    let i := sampleInstrumentation .initializeMethodsCode
    let s := sampleState kAccPublic
    let hook : MethodEvent := .hook {
      target := none
      callback := .native false
      isProxy := false
      built := some ⟨210, 211, 211⟩
      mmap := some 65536
      mprotectOk := true }
    let u := (debuggableMethodMachine sampleArt i 110).exec s
      [.inl hook, .inr (.initializeMethodsCode 110 70 71), .inl .unHook,
        .inr (.updateMethodsCodeToInterpreterEntryPoint 110 72)]
    let v := (debuggableMethodMachine sampleArt i 110).exec s
      [.inr (.initializeMethodsCode 110 70 71),
        .inr (.updateMethodsCodeToInterpreterEntryPoint 110 72)]
    u.getData (mayGetBackup u 110) = v.getData 110 ∧
      u.getEntryPoint (mayGetBackup u 110) = v.getEntryPoint 110 := by
  exact transparent_debuggable (t := 110) undisturbed_initial (by decide) (by decide) (by decide)
    (by decide) (by rfl)

/-! ## The JIT -/

end LSPlant
