import LSPlant.Dex.Signatures
import LSPlant.GeneratedNames
/-!
# Members of generated classes

A generated class has two or three methods and one or two fields, and
their names come from the configuration, the target and `BuildDex` itself.
No two methods have one name and one prototype: the native callback may
share the hook's name, but it takes an array and no hook does. No two
fields have one name, however often the library is configured anew: the
name of the native field is settled by the first configuration that is
accepted, and the other field never takes it.
-/

namespace LSPlant

open Dalvik

/-! ## Methods -/

/-- A prototype, its types as descriptors. -/
structure Prototype where
  returnType : List Char
  parameters : List (List Char)
deriving DecidableEq

/-- `TypeDescriptor::Object`. -/
def objectDescriptor : List Char :=
  ['L', 'j', 'a', 'v', 'a', '/', 'l', 'a', 'n', 'g', '/', 'O', 'b', 'j', 'e', 'c', 't', ';']

/-- `TypeDescriptor::ToArray`. -/
def toArray (descriptor : List Char) : List Char := '[' :: descriptor

/-- The descriptor `BuildDex` has for a letter of a shorty. -/
def descriptor : TypeDescriptor → List Char
  | .object => objectDescriptor
  | .primitive type => [primitiveLetter type]

/-- **A target**, as far as its members' names and prototypes go. -/
structure HookTarget where
  name : List Char
  signature : Signature
  isConstructor : Bool
  isStatic : Bool
  isFastNative : Bool

/-- The `method_name` `HookMethod` passes. -/
def HookTarget.methodName (target : HookTarget) : List Char :=
  if target.isConstructor || target.name.head? = some '<' then
    ['c', 'o', 'n', 's', 't', 'r', 'u', 'c', 't', 'o', 'r']
  else target.name

/-- `native_method_name`, chosen by the target's name. -/
def HookTarget.nativeMethodName (target : HookTarget) : List Char :=
  if target.name = ['n', 'a', 't', 'i', 'v', 'e'] then ['n', 'a', 't', 'i', 'v', 'e', '2']
  else ['n', 'a', 't', 'i', 'v', 'e']

/-- The prototype of the hook and of the backup. The receiver counts as a
parameter. -/
def HookTarget.prototype (target : HookTarget) : Prototype where
  returnType := match target.signature.returnType with
    | none => ['V']
    | some type => descriptor type
  parameters :=
    ((if target.isStatic then [] else [TypeDescriptor.object]) ++
      target.signature.parameters).map descriptor

/-- The prototype of the native callback. -/
def nativePrototype : Prototype where
  returnType := objectDescriptor
  parameters := [objectDescriptor, toArray objectDescriptor, objectDescriptor]

/-- `hook_method_name`. -/
def hookMethodName (generatedMethodName methodName : List Char) : List Char :=
  if generatedMethodName = ['{', 't', 'a', 'r', 'g', 'e', 't', '}'] then methodName
  else generatedMethodName

/-- The name of the backup, chosen by the hook's. -/
def backupMethodName (hookMethodName : List Char) : List Char :=
  if hookMethodName = ['b', 'a', 'c', 'k', 'u', 'p'] then ['b', 'a', 'c', 'k', 'u', 'p', '2']
  else ['b', 'a', 'c', 'k', 'u', 'p']

/-- **The methods `BuildDex` puts into a class**: the hook, the backup, and
for `HookUsingNativeAPI` the native callback, which a fast native does
without. -/
def Generator.methods (gen : Generator) (target : HookTarget) (isNativeApi : Bool) :
    List (List Char × Prototype) :=
  let hook := hookMethodName gen.generatedMethodName target.methodName
  [(hook, target.prototype), (backupMethodName hook, target.prototype)] ++
    if isNativeApi && !target.isFastNative then [(target.nativeMethodName, nativePrototype)]
    else []

section Methods

variable (target : HookTarget)

theorem backupMethodName_ne (hook : List Char) : backupMethodName hook ≠ hook := by
  unfold backupMethodName
  split
  · rename_i h
    rw [h]
    decide
  · rename_i h
    exact fun he => h he.symm

/-- **No hook takes an array.** -/
theorem prototype_ne_nativePrototype : target.prototype ≠ nativePrototype := by
  intro h
  have hhead : ∀ type, descriptor type ≠ toArray objectDescriptor := by
    rintro (_ | type)
    · decide
    · cases type <;> decide
  have hmem : toArray objectDescriptor ∈ target.prototype.parameters := by
    rw [h]
    simp [nativePrototype]
  obtain ⟨type, -, htype⟩ := List.mem_map.1 hmem
  exact hhead type htype

/-- **Generated members never clash**: under every configuration and for
every target, the methods of a class differ pairwise in name or
prototype. -/
theorem generated_methods_differ (gen : Generator) (isNativeApi : Bool) :
    (gen.methods target isNativeApi).Nodup := by
  have hbackup : ∀ hook : List Char,
      (hook, target.prototype) ≠ (backupMethodName hook, target.prototype) := by
    intro hook h
    exact backupMethodName_ne hook (congrArg Prod.fst h).symm
  have hnative : ∀ name : List Char,
      (name, target.prototype) ≠ (target.nativeMethodName, nativePrototype) := by
    intro name h
    exact prototype_ne_nativePrototype target (congrArg Prod.snd h)
  unfold Generator.methods
  split
  · simp [hbackup, hnative]
  · simp [hbackup]

/-- Names alone would not do. -/
example (h : target.name ≠ ['n', 'a', 't', 'i', 'v', 'e']) :
    hookMethodName ['n', 'a', 't', 'i', 'v', 'e'] target.methodName = target.nativeMethodName := by
  rw [HookTarget.nativeMethodName, if_neg h]
  rfl

end Methods

/-! ## Fields -/

/-- **The fields `BuildDex` puts into a class**: the hooker, and for a fast
native the address of its data. -/
structure GeneratedFields where
  hookerField : List Char
  nativeField : Option (List Char)

def GeneratedFields.names (fields : GeneratedFields) : List (List Char) :=
  fields.hookerField :: fields.nativeField.toList

def Generator.fields (gen : Generator) (isFastNative : Bool) : GeneratedFields where
  hookerField := gen.generatedFieldName
  nativeField := if isFastNative then some gen.generatedNativeFieldName else none

/-- **LSPlant's variables, with what has become of them**: whether a
configuration has been accepted, and the fields of the classes built. -/
structure Configuration where
  gen : Generator
  accepted : Bool
  classes : List GeneratedFields

/-- A call of `InitConfig`, or a class built for a target that is a fast
native or is not. -/
inductive ConfigurationEvent where
  | initConfig (info : InitInfo)
  | buildDex (isFastNative : Bool)

/-- **Configurations and classes**, in any order. Classes are built for a
library that has been initialized. -/
def configurationMachine : Machine Configuration ConfigurationEvent where
  step p
    | .initConfig info =>
      { p with
        gen := (initConfig p.gen info).1
        accepted := p.accepted || (initConfig p.gen info).2 }
    | .buildDex isFastNative => { p with classes := p.classes ++ [p.gen.fields isFastNative] }
  admissible p
    | .initConfig _ => True
    | .buildDex _ => p.accepted

/-- A library nothing has been asked of. -/
def Configuration.initial (s : State) : Configuration := ⟨Generator.initial s, false, []⟩

/-- **Settled on a native name**: every class built so far has it, the
hooker's field does not, and no class has one name twice. -/
structure Settled (native : List Char) (p : Configuration) : Prop where
  accepted : p.accepted = true
  native_eq : p.gen.generatedNativeFieldName = native
  native_ne : native ≠ []
  field_ne : p.gen.generatedFieldName ≠ native
  classes : ∀ c ∈ p.classes, (∀ name ∈ c.nativeField, name = native) ∧ c.names.Nodup

/-- Nothing accepted, so nothing named and nothing built. -/
structure Unsettled (p : Configuration) : Prop where
  accepted : p.accepted = false
  native_eq : p.gen.generatedNativeFieldName = []
  classes : p.classes = []

section Fields

variable {gen : Generator} {info : InitInfo} {p : Configuration} {e : ConfigurationEvent}
  {es es' : List ConfigurationEvent} {native : List Char}

variable (gen info) in
/-- **What `InitConfig` does** to the names of fields: nothing where it
refuses, and otherwise one of the three branches. -/
theorem initConfig_inversion :
    initConfig gen info = (gen, false) ∨
      (initConfig gen info).2 = true ∧
        ((gen.generatedNativeFieldName = [] ∧
            (initConfig gen info).1.generatedFieldName = info.generatedFieldName ∧
            (initConfig gen info).1.generatedNativeFieldName =
              info.generatedFieldName ++ ['$', 'n', 'a', 't', 'i', 'v', 'e']) ∨
          (gen.generatedNativeFieldName ≠ [] ∧
            (initConfig gen info).1.generatedNativeFieldName = gen.generatedNativeFieldName ∧
            ((initConfig gen info).1.generatedFieldName = info.generatedFieldName ∧
                gen.generatedNativeFieldName ≠ info.generatedFieldName ∨
              (initConfig gen info).1.generatedFieldName = gen.generatedFieldName))) := by
  unfold initConfig
  split
  · exact Or.inl rfl
  · split
    · exact Or.inl rfl
    · split
      · exact Or.inl rfl
      · right
        by_cases hunnamed : gen.generatedNativeFieldName = []
        · simp [hunnamed]
        · by_cases htaken : gen.generatedNativeFieldName = info.generatedFieldName
          · have hfield : info.generatedFieldName ≠ [] := htaken ▸ hunnamed
            simp [List.isEmpty_iff, hfield, htaken]
          · simp [List.isEmpty_iff, hunnamed, htaken]

/-- **A configuration that is refused changes nothing.** -/
theorem initConfig_of_false (h : (initConfig gen info).2 = false) :
    (initConfig gen info).1 = gen := by
  rcases initConfig_inversion gen info with he | ⟨hok, -⟩
  · rw [he]
  · rw [h] at hok
    exact absurd hok (by decide)

/-- The first one accepted names the native field. -/
theorem initConfig_of_unnamed (h : gen.generatedNativeFieldName = [])
    (hok : (initConfig gen info).2 = true) :
    (initConfig gen info).1.generatedNativeFieldName ≠ [] ∧
      (initConfig gen info).1.generatedFieldName ≠
        (initConfig gen info).1.generatedNativeFieldName := by
  rcases initConfig_inversion gen info with he | ⟨-, ⟨-, hfield, hnative⟩ | ⟨hnamed, -⟩⟩
  · rw [he] at hok
    exact absurd hok Bool.false_ne_true
  · rw [hfield, hnative]
    simp
  · exact absurd h hnamed

variable (info) in
/-- **And none after it renames it**, or names the other field so. -/
theorem initConfig_of_named (h : gen.generatedNativeFieldName ≠ [])
    (hne : gen.generatedFieldName ≠ gen.generatedNativeFieldName) :
    (initConfig gen info).1.generatedNativeFieldName = gen.generatedNativeFieldName ∧
      (initConfig gen info).1.generatedFieldName ≠ gen.generatedNativeFieldName := by
  rcases initConfig_inversion gen info with he | ⟨-, ⟨hunnamed, -⟩ | ⟨-, hnative, hfield⟩⟩
  · rw [he]
    exact ⟨rfl, hne⟩
  · exact absurd hunnamed h
  · refine ⟨hnative, ?_⟩
    rcases hfield with ⟨hfield, htaken⟩ | hfield <;> rw [hfield]
    · exact htaken.symm
    · exact hne

/-- **One event keeps what is settled.** -/
theorem Settled.step (h : Settled native p) : Settled native (configurationMachine.step p e) := by
  cases e with
  | initConfig info =>
    have hnamed : p.gen.generatedNativeFieldName ≠ [] := h.native_eq ▸ h.native_ne
    have hne : p.gen.generatedFieldName ≠ p.gen.generatedNativeFieldName :=
      h.native_eq ▸ h.field_ne
    obtain ⟨hnative, hfield⟩ := initConfig_of_named info hnamed hne
    exact ⟨by simp [configurationMachine, h.accepted], hnative.trans h.native_eq, h.native_ne,
      h.native_eq ▸ hfield, h.classes⟩
  | buildDex isFastNative =>
    refine ⟨h.accepted, h.native_eq, h.native_ne, h.field_ne, fun c hc => ?_⟩
    rcases List.mem_append.1 hc with hc | hc
    · exact h.classes c hc
    · obtain rfl := List.mem_singleton.1 hc
      have hne := h.field_ne
      cases isFastNative <;>
        simp [Generator.fields, GeneratedFields.names, h.native_eq, hne]

/-- **One event settles** nothing, or the native name. -/
theorem Unsettled.step (h : Unsettled p) (he : configurationMachine.admissible p e) :
    Unsettled (configurationMachine.step p e) ∨
      ∃ native, Settled native (configurationMachine.step p e) := by
  cases e with
  | initConfig info =>
    cases hok : (initConfig p.gen info).2 with
    | false =>
      left
      refine ⟨?_, ?_, h.classes⟩
      · show (p.accepted || (initConfig p.gen info).2) = false
        rw [h.accepted, hok]
        rfl
      · show (initConfig p.gen info).1.generatedNativeFieldName = []
        rw [initConfig_of_false hok]
        exact h.native_eq
    | true =>
      right
      obtain ⟨hnamed, hfield⟩ := initConfig_of_unnamed h.native_eq hok
      refine ⟨_, ?_, rfl, hnamed, hfield, ?_⟩
      · show (p.accepted || (initConfig p.gen info).2) = true
        rw [hok, Bool.or_true]
      · intro c hc
        have hc' : c ∈ p.classes := hc
        rw [h.classes] at hc'
        exact absurd hc' List.not_mem_nil
  | buildDex isFastNative =>
    have haccepted : p.accepted = true := he
    rw [h.accepted] at haccepted
    exact absurd haccepted (by decide)

/-- **The run from there**: what is settled stays settled. -/
theorem Settled.exec (h : Settled native p) : Settled native (configurationMachine.exec p es) := by
  induction es generalizing p with
  | nil => exact h
  | cons e es ih => exact ih h.step

/-- **A run from the start** has settled a name if it has accepted a
configuration. -/
theorem settled_of_accepted (hlegal : configurationMachine.Legal p es) (h : Unsettled p)
    (haccepted : (configurationMachine.exec p es).accepted = true) :
    ∃ native, Settled native (configurationMachine.exec p es) := by
  induction es generalizing p with
  | nil =>
    rw [Machine.exec_nil, h.accepted] at haccepted
    exact absurd haccepted (by decide)
  | cons e es ih =>
    rcases h.step hlegal.1 with hstep | ⟨native, hstep⟩
    · exact ih hlegal.2 hstep haccepted
    · exact ⟨native, hstep.exec⟩

theorem unsettled_initial (s : State) : Unsettled (Configuration.initial s) := ⟨rfl, rfl, rfl⟩

/-- **Reconfiguration keeps old hooks of fast natives working.** A refused
configuration changes nothing. From the first accepted one on, whatever
configurations and classes follow, the native name stays, it is the one
every class built before or after has, and it differs from the other
field's name, of which no class has two. -/
theorem reconfiguration_keeps (s : State) :
    (∀ gen info, (initConfig gen info).2 = false → (initConfig gen info).1 = gen) ∧
      ∀ es es', configurationMachine.Legal (Configuration.initial s) (es ++ es') →
        (configurationMachine.exec (Configuration.initial s) es).accepted = true →
        let before := configurationMachine.exec (Configuration.initial s) es
        let after := configurationMachine.exec (Configuration.initial s) (es ++ es')
        after.gen.generatedNativeFieldName = before.gen.generatedNativeFieldName ∧
          after.gen.generatedFieldName ≠ after.gen.generatedNativeFieldName ∧
          ∀ c ∈ after.classes,
            (∀ name ∈ c.nativeField, name = after.gen.generatedNativeFieldName) ∧
              c.names.Nodup := by
  refine ⟨fun gen info => initConfig_of_false, ?_⟩
  intro es es' hlegal haccepted before after
  obtain ⟨native, hbefore⟩ := settled_of_accepted (Machine.legal_append.1 hlegal).1
    (unsettled_initial s) haccepted
  have hafter : Settled native after := by
    show Settled native (configurationMachine.exec (Configuration.initial s) (es ++ es'))
    rw [Machine.exec_append]
    exact hbefore.exec
  refine ⟨hafter.native_eq.trans hbefore.native_eq.symm, ?_, ?_⟩
  · rw [hafter.native_eq]
    exact hafter.field_ne
  · rw [hafter.native_eq]
    exact hafter.classes

/-- A configuration with this field name. -/
def sampleConfiguration (generatedFieldName : List Char) : ConfigurationEvent :=
  .initConfig {
    hasInlineHooker := true
    hasArtSymbolResolver := true
    generatedClassName := ['C']
    generatedSourceName := []
    generatedFieldName := generatedFieldName
    generatedMethodName := ['m'] }

/-- A second configuration asks for the native name, and gets the field it
had. -/
theorem sample_reconfiguration :
    let native := ['d', '$', 'n', 'a', 't', 'i', 'v', 'e']
    let after := configurationMachine.exec (Configuration.initial (sampleState kAccNative))
      ([sampleConfiguration ['d']] ++
        [.buildDex true, sampleConfiguration native, .buildDex true])
    after.gen.generatedNativeFieldName = native ∧ after.gen.generatedFieldName ≠ native ∧
      ∀ c ∈ after.classes, ∀ name ∈ c.nativeField, name = native := by
  intro native after
  have hlegal : configurationMachine.Legal (Configuration.initial (sampleState kAccNative))
      ([sampleConfiguration ['d']] ++
        [.buildDex true, sampleConfiguration native, .buildDex true]) :=
    ⟨trivial, rfl, trivial, rfl, trivial⟩
  obtain ⟨hnative, hfield, hclasses⟩ :=
    (reconfiguration_keeps (sampleState kAccNative)).2 _ _ hlegal rfl
  exact ⟨hnative, hfield, fun c hc => (hclasses c hc).1⟩

end Fields

end LSPlant
