import LSPlant.Dex.BuildDex
/-!
# The incoming register window

The stubs `BuildDex` generates name their parameters by the words they
start in, and a wide parameter takes two. The packing loop counts indices
and words apart; the hook stub boxes in place and reuses the first
parameter for a null receiver, and the backup stub a parameter, or a pair
of them, for the zero it returns. All of it stays within the words the
method is called with.
-/

namespace LSPlant

open Dalvik

/-- **The words of the parameters** of a method: its incoming registers. -/
def incomingWords (types : List TypeDescriptor) : ℕ := (types.map TypeDescriptor.words).sum

/-- The word a parameter starts in. -/
def wordOf (types : List TypeDescriptor) (i : ℕ) : ℕ := incomingWords (types.take i)

/-- One turn of the packing loop: a parameter boxed where it is and stored
at an index. -/
def storeParameter (type : TypeDescriptor) (word index : ℕ) : List Instruction :=
  buildBoxIfPrimitive (.parameter word) type (.parameter word) ++
    [.const tmp index, .aputObject hookParamsArray (.parameter word) tmp]

/-- **The code of the backup stub**: it returns zero. A parameter is taken
for it where there is one wide enough, and a local otherwise. -/
def buildBackupMethod (shorty : Shorty) (isStatic shouldPack : Bool) : List Instruction :=
  let parameter : Register := .parameter (if isStatic then 0 else 1)
  match shorty.returnType with
  | none => [.returnVoid]
  | some (.primitive type) =>
    if type.isWide then
      let zero := if !shouldPack && 2 < shorty.size then parameter else .temp 0
      [.constWide zero 0, .returnPrimitive type zero]
    else
      let zero := if !shouldPack && 1 < shorty.size then parameter else .temp 0
      [.const zero 0, .returnPrimitive type zero]
  | some .object =>
    let zero := if !shouldPack && 1 < shorty.size then parameter else .temp 0
    [.const zero 0, .returnObject zero]

/-! ## Words -/

section Words

variable {types : List TypeDescriptor} {type : TypeDescriptor} {i j : ℕ}

theorem words_pos (type : TypeDescriptor) : 0 < type.words := by
  unfold TypeDescriptor.words
  split <;> decide

@[simp] theorem incomingWords_nil : incomingWords [] = 0 := rfl

@[simp] theorem incomingWords_cons : incomingWords (type :: types) =
    type.words + incomingWords types := rfl

theorem incomingWords_append (types types' : List TypeDescriptor) :
    incomingWords (types ++ types') = incomingWords types + incomingWords types' := by
  simp [incomingWords]

/-- Every parameter has a word at least. -/
theorem length_le_incomingWords (types : List TypeDescriptor) :
    types.length ≤ incomingWords types := by
  induction types with
  | nil => exact Nat.le_refl 0
  | cons type types ih =>
    have hpos := words_pos type
    rw [List.length_cons, incomingWords_cons]
    omega

/-- The next parameter's word. -/
theorem wordOf_succ (h : types[i]? = some type) :
    wordOf types (i + 1) = wordOf types i + type.words := by
  rw [wordOf, List.take_add_one, h, incomingWords_append]
  simp [wordOf]

/-- Words count on from any parameter. -/
theorem wordOf_add (types : List TypeDescriptor) (i j : ℕ) :
    wordOf types (i + j) = wordOf types i + wordOf (types.drop i) j := by
  rw [wordOf, wordOf, wordOf, List.take_add, incomingWords_append]

theorem wordOf_mono (h : i ≤ j) : wordOf types i ≤ wordOf types j := by
  obtain ⟨k, rfl⟩ := Nat.exists_eq_add_of_le h
  rw [wordOf_add]
  exact Nat.le_add_right _ _

/-- **Parameters do not share words.** -/
theorem wordOf_add_le (h : types[i]? = some type) (hij : i < j) :
    wordOf types i + type.words ≤ wordOf types j := by
  rw [← wordOf_succ h]
  exact wordOf_mono hij

/-- **A parameter's words are incoming ones.** -/
theorem wordOf_add_le_incomingWords (h : types[i]? = some type) :
    wordOf types i + type.words ≤ incomingWords types := by
  have hi : i < types.length := (List.getElem?_eq_some_iff.1 h).1
  have hall : wordOf types types.length = incomingWords types := by
    rw [wordOf, List.take_length]
  rw [← hall]
  exact wordOf_add_le h hi

end Words

/-! ## The packing loop -/

section Loop

variable {types : List TypeDescriptor} {type : TypeDescriptor} {first i : ℕ}

/-- **The loop, turn by turn**: the word it has got to is the next
parameter's. -/
theorem storeParameters_eq (first : ℕ) (types : List TypeDescriptor) {i : ℕ} (j : ℕ)
    (h : first ≤ i) :
    storeParameters first types i j = (types.mapIdx fun k type =>
      storeParameter type (j + wordOf types k) (i - first + k)).flatten := by
  induction types generalizing i j with
  | nil => rfl
  | cons type types ih =>
    have hnext : ∀ k, j + wordOf (type :: types) (k + 1) = j + type.words + wordOf types k := by
      intro k
      rw [wordOf, List.take_succ_cons, incomingWords_cons, ← wordOf, Nat.add_assoc]
    have hindex : ∀ k, i - first + (k + 1) = i + 1 - first + k := by
      intro k
      omega
    rw [storeParameters, next_word, ih (j + type.words) (Nat.le_succ_of_le h), List.mapIdx_cons,
      List.flatten_cons]
    simp only [hnext, hindex]
    rfl

/-- The turns for the delivered parameters, those from `first` on. -/
def storedParameters (types : List TypeDescriptor) (first : ℕ) : List (List Instruction) :=
  (types.drop first).mapIdx fun i type => storeParameter type (wordOf types (first + i)) i

/-- The loop of the hook stub starts on the word of the parameter it starts
with. -/
theorem storeParameters_eq_flatten (hfirst : wordOf types first = first) :
    storeParameters first (types.drop first) first first =
      (storedParameters types first).flatten := by
  rw [storeParameters_eq first (types.drop first) first (Nat.le_refl first), storedParameters]
  simp only [wordOf_add, hfirst, Nat.sub_self, Nat.zero_add]

theorem getElem?_storedParameters (h : (types.drop first)[i]? = some type) :
    (storedParameters types first)[i]? =
      some (storeParameter type (wordOf types (first + i)) i) := by
  rw [storedParameters, List.getElem?_mapIdx, h]
  rfl

@[simp] theorem length_storedParameters :
    (storedParameters types first).length = (types.drop first).length := List.length_mapIdx

/-- The registers of a turn: the parameter's own words, and two locals. -/
theorem registers_storeParameter {word index n : ℕ} {instr : Instruction}
    (hinstr : instr ∈ storeParameter type word index) (hn : .parameter n ∈ instr.registers) :
    word ≤ n ∧ n < word + type.words := by
  have hstore : ∀ instr ∈ [Instruction.const tmp index,
      .aputObject hookParamsArray (.parameter word) tmp], .parameter n ∈ instr.registers →
        n = word := by
    intro instr hmem hn
    simp only [List.mem_cons, List.not_mem_nil, or_false] at hmem
    rcases hmem with rfl | rfl
    · simp [tmp] at hn
    · simp [tmp, hookParamsArray] at hn
      exact hn
  have hpos := words_pos type
  rcases List.mem_append.1 hinstr with hbox | hmem
  · rcases type with _ | type
    · exact absurd hbox List.not_mem_nil
    · obtain rfl := List.mem_singleton.1 hbox
      simp only [Instruction.registers, Instruction.reads, Instruction.writes, List.mem_append,
        parameter_mem_words, List.mem_singleton, Register.parameter.injEq] at hn
      rcases hn with hn | rfl
      · exact hn
      · omega
  · have := hstore instr hmem hn
    omega

/-- What a turn writes to of the parameters' registers: the first word of
its own. -/
theorem writes_storeParameter {word index n : ℕ} {instr : Instruction}
    (hinstr : instr ∈ storeParameter type word index) (hn : .parameter n ∈ instr.writes) :
    n = word := by
  rcases List.mem_append.1 hinstr with hbox | hmem
  · rcases type with _ | type
    · exact absurd hbox List.not_mem_nil
    · obtain rfl := List.mem_singleton.1 hbox
      simp only [Instruction.writes, List.mem_singleton, Register.parameter.injEq] at hn
      exact hn
  · simp only [List.mem_cons, List.not_mem_nil, or_false] at hmem
    rcases hmem with rfl | rfl <;> simp [tmp] at hn

/-- The turns up to one, and what they store. -/
theorem exists_of_mem_take {turn : List Instruction}
    (h : turn ∈ (storedParameters types first).take i) :
    ∃ k < i, ∃ type, types[first + k]? = some type ∧
      turn = storeParameter type (wordOf types (first + k)) k := by
  obtain ⟨k, hk, hget⟩ := List.mem_take_iff_getElem.1 h
  have hk' : k < (types.drop first).length := by
    rw [length_storedParameters] at hk
    omega
  have htype : (types.drop first)[k]? = some (types.drop first)[k] := List.getElem?_eq_getElem hk'
  have hsome := getElem?_storedParameters htype
  rw [List.getElem?_eq_getElem (by omega), hget] at hsome
  rw [List.getElem?_drop] at htype
  exact ⟨k, by omega, _, htype, Option.some.inj hsome⟩

/-- **No earlier turn writes to a parameter's words.** -/
theorem notMem_writes_earlier {instr : Instruction} {n : ℕ}
    (hinstr : instr ∈ ((storedParameters types first).take i).flatten)
    (hn : wordOf types (first + i) ≤ n) : .parameter n ∉ instr.writes := by
  intro hwrites
  obtain ⟨turn, hturn, hmem⟩ := List.mem_flatten.1 hinstr
  obtain ⟨k, hk, type, htype, rfl⟩ := exists_of_mem_take hturn
  have hlt := wordOf_add_le htype (show first + k < first + i by omega)
  have hpos := words_pos type
  have hword := writes_storeParameter hmem hwrites
  omega

/-- **The turns stay within the window.** -/
theorem registers_storedParameters {instr : Instruction} {n : ℕ}
    (hinstr : instr ∈ (storedParameters types first).flatten)
    (hn : .parameter n ∈ instr.registers) : n < incomingWords types := by
  obtain ⟨turn, hturn, hmem⟩ := List.mem_flatten.1 hinstr
  rw [← List.take_length (l := storedParameters types first)] at hturn
  obtain ⟨k, -, type, htype, rfl⟩ := exists_of_mem_take hturn
  have hle := wordOf_add_le_incomingWords htype
  have hword := registers_storeParameter hmem hn
  omega

end Loop

/-! ## The stubs -/

section Stubs

variable {shorty : Shorty} {isStatic isNativeApi shouldPack : Bool}

/-- Of a stub that keeps the receiver apart, the receiver is one word. -/
theorem wordOf_first (shorty : Shorty) (isStatic shouldPack : Bool) :
    wordOf (parameterTypes shorty isStatic) (if shouldPack || isStatic then 0 else 1) =
      if shouldPack || isStatic then 0 else 1 := by
  cases isStatic <;> cases shouldPack <;> rfl

/-- What the stub allocates room for is what it delivers. -/
theorem length_delivered (shorty : Shorty) (isStatic shouldPack : Bool) :
    ((parameterTypes shorty isStatic).drop (if shouldPack || isStatic then 0 else 1)).length =
      if shouldPack then (parameterTypes shorty isStatic).length else shorty.size - 1 := by
  cases isStatic <;> cases shouldPack <;> simp [parameterTypes, Shorty.size]

/-- The window is as wide as there are parameters, at least. -/
theorem size_le_incomingWords (shorty : Shorty) (isStatic : Bool) :
    shorty.size - (if isStatic then 1 else 0) ≤ incomingWords (parameterTypes shorty isStatic) := by
  have hle := length_le_incomingWords (parameterTypes shorty isStatic)
  cases isStatic <;> simpa [parameterTypes, Shorty.size] using hle

/-- The call names the first parameter, if there is one, and locals. -/
theorem registers_buildInvoke {n : ℕ} {instr : Instruction}
    (hinstr : instr ∈ buildInvoke shorty isStatic isNativeApi shouldPack)
    (hn : .parameter n ∈ instr.registers) :
    n < incomingWords (parameterTypes shorty isStatic) := by
  have hsize := size_le_incomingWords shorty isStatic
  have hpos : 1 ≤ shorty.size := Nat.le_add_left 1 _
  have hhandle : ∀ r, instr = handleHook isNativeApi r → .parameter n = r := by
    rintro r rfl
    cases isNativeApi <;>
      simpa [handleHook, tmp, hookParamsArray, eq_comm] using hn
  unfold buildInvoke at hinstr
  cases shouldPack with
  | true =>
    obtain rfl := List.mem_singleton.1 hinstr
    simp [tmp, hookParamsArray] at hn
  | false =>
    cases isStatic with
    | false =>
      have hr := hhandle _ (List.mem_singleton.1 hinstr)
      obtain rfl := Register.parameter.inj hr
      simp only [Bool.false_eq_true, if_false] at hsize
      omega
    | true =>
      have hzero : .parameter n = if shorty.size = 1 then Register.temp 2 else .parameter 0 := by
        simp only [Bool.false_eq_true, if_false, if_true, List.mem_cons, List.not_mem_nil,
          or_false] at hinstr
        rcases hinstr with rfl | hinstr
        · simpa using hn
        · exact hhandle _ hinstr
      simp only [if_true] at hsize
      split at hzero
      · exact absurd hzero (by simp)
      · obtain rfl := Register.parameter.inj hzero
        omega

/-- The return names locals only. -/
theorem registers_buildReturn {returnType : Option TypeDescriptor} {n : ℕ} {instr : Instruction}
    (hinstr : instr ∈ buildReturn returnType) : .parameter n ∉ instr.registers := by
  rcases returnType with _ | _ | type
  · obtain rfl := List.mem_singleton.1 hinstr
    simp
  · obtain rfl := List.mem_singleton.1 hinstr
    simp [tmp]
  · simp only [buildReturn, List.mem_cons, List.not_mem_nil, or_false] at hinstr
    rcases hinstr with rfl | rfl | rfl <;>
      simp [tmp]

/-- **The backup stub stays within its window**, also with the second half
of a wide zero. -/
theorem registers_buildBackupMethod {n : ℕ} {instr : Instruction}
    (hinstr : instr ∈ buildBackupMethod shorty isStatic shouldPack)
    (hn : .parameter n ∈ instr.registers) :
    n < incomingWords (parameterTypes shorty isStatic) := by
  have hsize := size_le_incomingWords shorty isStatic
  have hfirst : (if isStatic then 1 else 0) + (if isStatic then 0 else 1) = 1 := by
    cases isStatic <;> rfl
  -- a parameter is taken only where as many words follow as the zero needs
  have hzero : ∀ (isWide : Bool), .parameter n ∈ (if !shouldPack && (if isWide then 2 else 1) <
      shorty.size then Register.parameter (if isStatic then 0 else 1) else .temp 0).words isWide →
        n < incomingWords (parameterTypes shorty isStatic) := by
    intro isWide hmem
    by_cases hroom : (!shouldPack && (if isWide then 2 else 1) < shorty.size) = true
    · rw [if_pos hroom, parameter_mem_words] at hmem
      simp only [Bool.and_eq_true, decide_eq_true_eq] at hroom
      omega
    · rw [if_neg hroom] at hmem
      exact absurd hmem parameter_notMem_words_temp
  unfold buildBackupMethod at hinstr
  rcases hreturn : shorty.returnType with _ | _ | type <;>
    simp only [hreturn] at hinstr
  · obtain rfl := List.mem_singleton.1 hinstr
    simp at hn
  · refine hzero false ?_
    simp only [List.mem_cons, List.not_mem_nil, or_false] at hinstr
    rcases hinstr with rfl | rfl <;>
      simpa [Register.words] using hn
  · cases hwide : type.isWide with
    | true =>
      refine hzero true ?_
      simp only [hwide, if_true, List.mem_cons, List.not_mem_nil, or_false] at hinstr
      rcases hinstr with rfl | rfl <;>
        simpa [hwide] using hn
    | false =>
      refine hzero false ?_
      simp only [hwide, Bool.false_eq_true, if_false, List.mem_cons, List.not_mem_nil, or_false]
        at hinstr
      rcases hinstr with rfl | rfl <;>
        simpa [Register.words, hwide] using hn

/-- **Code that packs the parameters from `first` on.** The array is
allocated for all of them. Each has one turn, which boxes it where its
words start and stores it at the index it is delivered with; nothing
before the turn writes to those words, and nothing after the turns stores
again. -/
structure Packs (types : List TypeDescriptor) (first : ℕ) (code : List Instruction)
    (turns : List (List Instruction)) (rest : List Instruction) : Prop where
  code_eq : code =
    [.const tmp turns.length, .newArray hookParamsArray tmp] ++ turns.flatten ++ rest
  length_turns : turns.length = (types.drop first).length
  turn : ∀ i type, (types.drop first)[i]? = some type →
    turns[i]? = some (storeParameter type (wordOf types (first + i)) i)
  unwritten : ∀ i < turns.length, ∀ n, wordOf types (first + i) ≤ n →
    ∀ instr ∈ [.const tmp turns.length, .newArray hookParamsArray tmp] ++ (turns.take i).flatten,
      .parameter n ∉ instr.writes
  stored_once : ∀ array value index, .aputObject array value index ∉ rest

/-- At its turn a parameter is what was passed, on any run. -/
theorem Packs.registers_at_turn {types : List TypeDescriptor} {first i n : ℕ}
    {code rest : List Instruction} {turns : List (List Instruction)} {env : Environment}
    {f f' : Frame} (h : Packs types first code turns rest) (hi : i < turns.length)
    (hn : wordOf types (first + i) ≤ n)
    (hrun : run env f ([.const tmp turns.length, .newArray hookParamsArray tmp] ++
      (turns.take i).flatten) = .ok f') :
    f'.registers (.parameter n) = f.registers (.parameter n) :=
  run_frame hrun (h.unwritten i hi n hn)

/-- The hook stub packs. -/
theorem packs_buildHookMethod (shorty : Shorty) (isStatic isNativeApi shouldPack : Bool) :
    Packs (parameterTypes shorty isStatic) (if shouldPack || isStatic then 0 else 1)
      (buildHookMethod shorty isStatic isNativeApi shouldPack)
      (storedParameters (parameterTypes shorty isStatic) (if shouldPack || isStatic then 0 else 1))
      (.sgetObject tmp :: buildInvoke shorty isStatic isNativeApi shouldPack ++
        buildReturn shorty.returnType) where
  code_eq := by
    rw [length_storedParameters, length_delivered, buildHookMethod]
    simp only [storeParameters_eq_flatten (wordOf_first shorty isStatic shouldPack)]
  length_turns := length_storedParameters
  turn i type h := getElem?_storedParameters h
  unwritten i _ n hn instr hinstr := by
    rcases List.mem_append.1 hinstr with hinstr | hinstr
    · simp only [List.mem_cons, List.not_mem_nil, or_false] at hinstr
      rcases hinstr with rfl | rfl <;> simp [tmp, hookParamsArray]
    · exact notMem_writes_earlier hinstr hn
  stored_once array value index := by
    cases isStatic <;> cases shouldPack <;> cases isNativeApi <;>
      rcases shorty.returnType with _ | _ | type <;>
        simp [buildInvoke, handleHook, buildReturn]

/-- The hook stub stays within its window. -/
theorem registers_buildHookMethod {n : ℕ} {instr : Instruction}
    (hinstr : instr ∈ buildHookMethod shorty isStatic isNativeApi shouldPack)
    (hn : .parameter n ∈ instr.registers) :
    n < incomingWords (parameterTypes shorty isStatic) := by
  have hpacks := packs_buildHookMethod shorty isStatic isNativeApi shouldPack
  rw [hpacks.code_eq] at hinstr
  simp only [List.mem_append, List.mem_cons, List.not_mem_nil, or_false] at hinstr
  rcases hinstr with ((rfl | rfl) | hturns) | (rfl | hinvoke) | hreturn
  · simp [tmp] at hn
  · simp [tmp, hookParamsArray] at hn
  · exact registers_storedParameters hturns hn
  · simp [tmp] at hn
  · exact registers_buildInvoke hinvoke hn
  · exact absurd hn (registers_buildReturn hreturn)

/-- **Packing is right for every signature**, and both stubs name no
parameter register outside their window. -/
theorem buildDex_packs (shorty : Shorty) (isStatic isNativeApi shouldPack : Bool) :
    (∃ turns rest, Packs (parameterTypes shorty isStatic) (if shouldPack || isStatic then 0 else 1)
        (buildHookMethod shorty isStatic isNativeApi shouldPack) turns rest) ∧
      (∀ instr ∈ buildHookMethod shorty isStatic isNativeApi shouldPack,
        ∀ n, .parameter n ∈ instr.registers → n < incomingWords (parameterTypes shorty isStatic)) ∧
      ∀ instr ∈ buildBackupMethod shorty isStatic shouldPack,
        ∀ n, .parameter n ∈ instr.registers →
          n < incomingWords (parameterTypes shorty isStatic) := by
  refine ⟨⟨_, _, packs_buildHookMethod shorty isStatic isNativeApi shouldPack⟩, ?_, ?_⟩
  · intro instr hinstr n hn
    exact registers_buildHookMethod hinstr hn
  · intro instr hinstr n hn
    exact registers_buildBackupMethod hinstr hn

/-- What the backup stub returns, should anything call it unhooked. -/
theorem execute_buildBackupMethod (shorty : Shorty) (isStatic shouldPack : Bool)
    (env : Environment) (f : Frame) :
    execute env f (buildBackupMethod shorty isStatic shouldPack) = some ⟨f.calls,
      match shorty.returnType with
      | none => .void
      | some type => .returned (Value.zero type)⟩ := by
  unfold buildBackupMethod
  rcases shorty.returnType with _ | _ | type <;> dsimp only
  · exact execute_returnVoid
  · rw [execute_cons_of_ok step_const]
    exact execute_returnObject (Frame.set_registers_self _)
  · cases hwide : type.isWide with
    | true =>
      rw [if_pos rfl, execute_cons_of_ok rfl]
      refine execute_returnPrimitive (holdsValue_zero ?_ fun _ => Frame.set_registers_self _)
      rw [Frame.set_registers_of_ne (Register.ne_next _)]
      exact Frame.set_registers_self _
    | false =>
      rw [if_neg Bool.false_ne_true, execute_cons_of_ok step_const]
      refine execute_returnPrimitive (holdsValue_zero (Frame.set_registers_self _) ?_)
      simp [hwide]

end Stubs

end LSPlant
