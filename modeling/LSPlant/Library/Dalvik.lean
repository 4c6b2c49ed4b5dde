import Mathlib.Algebra.GroupWithZero.Nat
import Mathlib.Data.List.GetD
import Mathlib.Logic.Function.Basic
/-!
# Java values and straight-line dex code

The values of Java's types, the 32-bit words registers hold of them, and
a machine for the instructions of a method that has no branches. A
register holds a word or a reference, and zero is the null reference; a
wide value takes two registers, its low word first. Two objects are the
same here if they are boxes of the same value: which box `valueOf` comes
back with is left open.
-/

namespace Dalvik

/-- A primitive type. -/
inductive Primitive where
  | boolean | byte | short | char | int | float | long | double
deriving DecidableEq

namespace Primitive

/-- The bits of its values. -/
def width : Primitive → ℕ
  | boolean => 1
  | byte => 8
  | short | char => 16
  | int | float => 32
  | long | double => 64

/-- Whether its values take two registers. -/
def isWide (p : Primitive) : Bool := p = long || p = double

/-- Whether a register holds its values sign-extended. -/
def isSigned (p : Primitive) : Bool := p = byte || p = short

/-- Whether its box class is a `Number`. -/
def isNumeric (p : Primitive) : Bool := p != boolean && p != char

end Primitive

/-- **An object**: the box of a value, a `Number` of another class, or
anything else. -/
inductive Obj where
  | box (type : Primitive) (value : BitVec type.width)
  | number (id : ℕ)
  | other (id : ℕ)
deriving DecidableEq

/-- Whether the object is a `java.lang.Number`. -/
def Obj.isNumber : Obj → Bool
  | box type _ => type.isNumeric
  | number _ => true
  | other _ => false

/-- The value of a box of the type. -/
def Obj.unbox (p : Primitive) : Obj → Option (BitVec p.width)
  | box type value => if h : type = p then some (h ▸ value) else none
  | _ => none

/-- What is thrown. -/
inductive Throwable where
  | nullPointerException
  | classCastException
  | negativeArraySizeException
  | arrayIndexOutOfBoundsException
  | raised (o : Obj)
deriving DecidableEq

/-- **What the `xxxValue` methods of `Number` do.** A box of the asked type
gives its value. What the other classes give, or whether they throw, is
up to them. -/
structure NumberMethods where
  value : (p : Primitive) → Obj → Except Throwable (BitVec p.width)
  value_box : ∀ p v, p.isNumeric → value p (.box p v) = .ok v

@[simp] theorem Obj.unbox_box (p : Primitive) (v : BitVec p.width) :
    (box p v).unbox p = some v := by
  simp [unbox]

/-- A type of a value. -/
inductive TypeDescriptor where
  | object
  | primitive (type : Primitive)
deriving DecidableEq

def TypeDescriptor.isWide : TypeDescriptor → Bool
  | object => false
  | primitive type => type.isWide

/-- **A value of a type.** -/
inductive Value where
  | object (o : Option Obj)
  | primitive (type : Primitive) (value : BitVec type.width)
deriving DecidableEq

namespace Value

def type : Value → TypeDescriptor
  | object _ => .object
  | primitive type _ => .primitive type

/-- The value as an object: `valueOf` of a primitive's box class. -/
def boxed : Value → Option Obj
  | object o => o
  | primitive type value => some (.box type value)

/-- The value a cleared `jvalue` has. -/
def zero : TypeDescriptor → Value
  | .object => object none
  | .primitive type => primitive type 0

end Value

/-! ## Registers -/

/-- What a register holds. -/
inductive Slot where
  | undefined
  | word (w : BitVec 32)
  | reference (o : Obj)
  | array (id : ℕ)

/-- **The words of a value.** -/
def Value.slots : Value → List Slot
  | object none => [.word 0]
  | object (some o) => [.reference o]
  | primitive type value =>
    if type.isWide then [.word (value.extractLsb' 0 32), .word (value.extractLsb' 32 32)]
    else if type.isSigned then [.word (value.signExtend 32)]
    else [.word (value.setWidth 32)]

/-- A primitive value read back from its first word and the next one. -/
def readPrimitive (type : Primitive) (low high : BitVec 32) : BitVec type.width :=
  if type.isWide then (high ++ low).setWidth type.width else low.setWidth type.width

/-- A local register, or a parameter's by the number of its word. -/
inductive Register where
  | temp (n : ℕ)
  | parameter (n : ℕ)
deriving DecidableEq

/-- The register the high word is in. -/
def Register.next : Register → Register
  | temp n => temp (n + 1)
  | parameter n => parameter (n + 1)

/-- An argument of a call. The array is passed with what it holds. -/
inductive Argument where
  | object (o : Option Obj)
  | array (elements : List (Option Obj))
deriving DecidableEq

/-- How a called method completes. -/
inductive Completion where
  | returned (o : Option Obj)
  | thrown (e : Throwable)
deriving DecidableEq

/-- **How a method ends**, as its caller sees it. -/
inductive Outcome where
  | returned (value : Value)
  | void
  | thrown (e : Throwable)
  | undefined
deriving DecidableEq

/-! ## Instructions -/

/-- **The instructions.** A call comes with the move of its result. -/
inductive Instruction where
  | const (dest : Register) (value : ℕ)
  | constWide (dest : Register) (value : ℕ)
  | newArray (dest size : Register)
  | aputObject (array value index : Register)
  | valueOf (type : Primitive) (dest src : Register)
  | checkCast (type : Primitive) (reg : Register)
  | primitiveValue (type : Primitive) (dest src : Register)
  | sgetObject (dest : Register)
  | invoke (dest : Register) (isStatic : Bool) (args : List Register)
  | returnVoid
  | returnObject (src : Register)
  | returnPrimitive (type : Primitive) (src : Register)

/-- **A frame**: its registers, the arrays allocated in it, and the calls
it has made. -/
structure Frame where
  registers : Register → Slot
  arrays : List (List (Option Obj))
  calls : List (List Argument)

/-- **What a method did**: the calls it made, in order, and how it ended. -/
structure Execution where
  calls : List (List Argument)
  outcome : Outcome
deriving DecidableEq

/-- Why a frame runs no further. -/
inductive Stop where
  | stuck
  | finished (e : Execution)

/-- What a frame runs in: the static field it reads, and the method it
calls. -/
structure Environment where
  field : Option Obj
  callee : List Argument → Completion

namespace Frame

variable (f : Frame)

def set (r : Register) (slot : Slot) : Frame :=
  { f with registers := Function.update f.registers r slot }

def finish (outcome : Outcome) : Except Stop Frame := .error (.finished ⟨f.calls, outcome⟩)

/-- **The frame of a call**: the arguments are laid out in the parameter
registers, the others hold nothing yet. -/
def entry (values : List Value) : Frame where
  registers
    | .temp _ => .undefined
    | .parameter n => (values.flatMap Value.slots).getD n .undefined
  arrays := []
  calls := []

/-- A register as a primitive value. -/
def readValue (type : Primitive) (r : Register) : Option (BitVec type.width) :=
  match f.registers r, f.registers r.next, type.isWide with
  | .word low, _, false => some (readPrimitive type low 0)
  | .word low, .word high, true => some (readPrimitive type low high)
  | _, _, _ => none

/-- A register as an argument. -/
def argument (r : Register) : Option Argument :=
  match f.registers r with
  | .undefined => none
  | .word w => if w = 0 then some (.object none) else none
  | .reference o => some (.object (some o))
  | .array id => (f.arrays[id]?).map .array

/-- A register as a reference to an object that is no array. -/
def object (r : Register) : Option (Option Obj) :=
  match f.registers r with
  | .word w => if w = 0 then some none else none
  | .reference o => some (some o)
  | _ => none

def setValue (type : Primitive) (r : Register) (value : BitVec type.width) : Frame :=
  match (Value.primitive type value).slots with
  | [low, high] => (f.set r low).set r.next high
  | [low] => f.set r low
  | _ => f

end Frame

/-- The word or reference of an object. -/
def Slot.ofObject : Option Obj → Slot
  | none => .word 0
  | some o => .reference o

/-- **One instruction.** Ill-typed code is stuck. -/
def step (env : Environment) (f : Frame) : Instruction → Except Stop Frame
  | .const dest value => .ok (f.set dest (.word (BitVec.ofNat 32 value)))
  | .constWide dest value =>
    .ok ((f.set dest (.word (BitVec.ofNat 32 value))).set dest.next
      (.word (BitVec.ofNat 32 (value / 2 ^ 32))))
  | .newArray dest size => match f.registers size with
    | .word w =>
      if w.msb then f.finish (.thrown .negativeArraySizeException)
      else .ok ({ f with arrays := f.arrays ++ [List.replicate w.toNat none] }.set dest
        (.array f.arrays.length))
    | _ => .error .stuck
  | .aputObject array value index => match f.registers array, f.object value, f.registers index with
    | .array id, some o, .word w => match f.arrays[id]? with
      | some elements =>
        if w.toNat < elements.length then
          .ok { f with arrays := f.arrays.set id (elements.set w.toNat o) }
        else f.finish (.thrown .arrayIndexOutOfBoundsException)
      | none => .error .stuck
    | _, _, _ => .error .stuck
  | .valueOf type dest src => match f.readValue type src with
    | some value => .ok (f.set dest (.reference (.box type value)))
    | none => .error .stuck
  | .checkCast type reg => match f.object reg with
    | some none => .ok f
    | some (some o) => match o.unbox type with
      | some _ => .ok f
      | none => f.finish (.thrown .classCastException)
    | none => .error .stuck
  | .primitiveValue type dest src => match f.object src with
    | some none => f.finish (.thrown .nullPointerException)
    | some (some o) => match o.unbox type with
      | some value => .ok (f.setValue type dest value)
      | none => .error .stuck
    | none => .error .stuck
  | .sgetObject dest => .ok (f.set dest (.ofObject env.field))
  | .invoke dest isStatic args => match args.mapM f.argument with
    | none => .error .stuck
    | some arguments =>
      if !isStatic && arguments.head? = some (.object none) then
        f.finish (.thrown .nullPointerException)
      else
        let f := { f with calls := f.calls ++ [arguments] }
        match env.callee arguments with
        | .returned o => .ok (f.set dest (.ofObject o))
        | .thrown e => f.finish (.thrown e)
  | .returnVoid => f.finish .void
  | .returnObject src => match f.object src with
    | some o => f.finish (.returned (.object o))
    | none => .error .stuck
  | .returnPrimitive type src => match f.readValue type src with
    | some value => f.finish (.returned (.primitive type value))
    | none => .error .stuck

/-- **A run of the instructions.** -/
def run (env : Environment) (f : Frame) (code : List Instruction) : Except Stop Frame :=
  code.foldlM (step env) f

/-- What a run comes to, if it comes to an end. -/
def execute (env : Environment) (f : Frame) (code : List Instruction) : Option Execution :=
  match run env f code with
  | .error (.finished e) => some e
  | _ => none

/-! ## Values in registers -/

/-- The registers a value takes. -/
def TypeDescriptor.words (type : TypeDescriptor) : ℕ := if type.isWide then 2 else 1

/-- The register and the one after it hold a value. -/
def Frame.HoldsValue (f : Frame) (r : Register) (value : Value) : Prop :=
  value.slots[0]? = some (f.registers r) ∧
    (value.type.isWide → value.slots[1]? = some (f.registers r.next))

/-- **The parameter registers from a word on hold the values**, one after
the other. -/
def Frame.Holds (f : Frame) : ℕ → List Value → Prop
  | _, [] => True
  | j, value :: values =>
    f.HoldsValue (.parameter j) value ∧ f.Holds (j + value.type.words) values

theorem Value.length_slots (value : Value) : value.slots.length = value.type.words := by
  cases value with
  | object o => cases o <;> rfl
  | primitive type value => cases type <;> rfl

theorem Register.ne_next (r : Register) : r ≠ r.next := by
  cases r <;> simp [next]

variable {f : Frame} {env : Environment} {r r' dest src : Register}

namespace Frame

@[simp] theorem set_registers_self (slot : Slot) : (f.set r slot).registers r = slot := by
  simp [set]

theorem set_registers_of_ne {slot : Slot} (h : r' ≠ r) :
    (f.set r slot).registers r' = f.registers r' := by
  simp [set, h]

@[simp] theorem set_arrays (slot : Slot) : (f.set r slot).arrays = f.arrays := rfl

@[simp] theorem set_calls (slot : Slot) : (f.set r slot).calls = f.calls := rfl

@[simp] theorem set_registers_eq : f.set r (f.registers r) = f := by
  simp [set]

/-- A value is left alone where other registers are written. -/
theorem HoldsValue.congr {f' : Frame} {value : Value} (h : f.HoldsValue r value)
    (hr : f'.registers r = f.registers r) (hnext : f'.registers r.next = f.registers r.next) :
    f'.HoldsValue r value :=
  ⟨by rw [hr]; exact h.1, by rw [hnext]; exact h.2⟩

theorem Holds.congr {f' : Frame} {values : List Value} {j : ℕ} (h : f.Holds j values)
    (hr : ∀ n, j ≤ n → f'.registers (.parameter n) = f.registers (.parameter n)) :
    f'.Holds j values := by
  induction values generalizing j with
  | nil => trivial
  | cons value values ih =>
    refine ⟨h.1.congr (hr j (Nat.le_refl j)) (hr (j + 1) (by omega)), ih h.2 fun n hn => ?_⟩
    exact hr n (by omega)

/-- Where the words of the values are laid out, the values are held. -/
theorem holds_of_words {values : List Value} {j : ℕ}
    (h : ∀ n, f.registers (.parameter (j + n)) = (values.flatMap Value.slots).getD n .undefined) :
    f.Holds j values := by
  induction values generalizing j with
  | nil => trivial
  | cons value values ih =>
    have hlen := value.length_slots
    have hpos : 0 < value.type.words := by
      unfold TypeDescriptor.words; split <;> decide
    have hword : ∀ n, n < value.type.words →
        value.slots[n]? = some (f.registers (.parameter (j + n))) := by
      intro n hn
      rw [h n, List.flatMap_cons, List.getD_append _ _ _ _ (by omega),
        List.getD_eq_getElem _ _ (by omega), List.getElem?_eq_getElem]
    refine ⟨⟨hword 0 hpos, fun hwide => hword 1 ?_⟩, ih fun n => ?_⟩
    · simp [TypeDescriptor.words, hwide]
    · rw [Nat.add_assoc, h, List.flatMap_cons, List.getD_append_right _ _ _ _ (by omega)]
      congr 1
      omega

end Frame

/-- The words of a wide value, put together. -/
theorem append_words {w : ℕ} (hw : w = 64) (v : BitVec w) :
    (v.extractLsb' 32 32 ++ v.extractLsb' 0 32).setWidth w = v := by
  subst hw
  rw [show (32 : ℕ) = 0 + 32 from rfl, BitVec.extractLsb'_append_extractLsb'_eq_extractLsb' rfl]
  simp

theorem setWidth_signExtend {w : ℕ} (hw : w ≤ 32) (v : BitVec w) :
    (v.signExtend 32).setWidth w = v := by
  ext i hi
  simp only [BitVec.getElem_setWidth, BitVec.getLsbD_signExtend, hi, if_true]
  simp [show i < 32 by omega, BitVec.getLsbD_eq_getElem hi]

theorem Frame.holds_entry (values : List Value) : (Frame.entry values).Holds 0 values :=
  Frame.holds_of_words fun n => by simp [Frame.entry]

/-- **The words of a primitive value are the value.** -/
theorem readPrimitive_slots {type : Primitive} {value : BitVec type.width} {low high : BitVec 32}
    (hlow : (Value.primitive type value).slots[0]? = some (.word low))
    (hhigh : type.isWide → (Value.primitive type value).slots[1]? = some (.word high)) :
    readPrimitive type low high = value := by
  cases hwide : type.isWide with
  | true =>
    have hhigh := hhigh hwide
    have hwidth : type.width = 64 := by cases type <;> first | rfl | cases hwide
    simp only [Value.slots, hwide, if_true, List.getElem?_cons_zero, List.getElem?_cons_succ,
      Option.some.injEq, Slot.word.injEq] at hlow hhigh
    rw [readPrimitive, if_pos hwide, ← hlow, ← hhigh, append_words hwidth]
  | false =>
    have hwidth : type.width ≤ 32 := by
      cases type <;> first | decide | cases hwide
    rw [readPrimitive, if_neg (by simp [hwide])]
    cases hsigned : type.isSigned with
    | true =>
      simp only [Value.slots, hwide, hsigned, if_true, List.getElem?_cons_zero, Option.some.injEq,
        Slot.word.injEq, Bool.false_eq_true, if_false] at hlow
      rw [← hlow, setWidth_signExtend hwidth]
    | false =>
      simp only [Value.slots, hwide, hsigned, List.getElem?_cons_zero, Option.some.injEq,
        Slot.word.injEq, Bool.false_eq_true, if_false] at hlow
      rw [← hlow, BitVec.setWidth_setWidth_of_le _ hwidth, BitVec.setWidth_eq]

namespace Frame

/-- A primitive value is read back from the registers that hold it. -/
theorem readValue_of_holdsValue {type : Primitive} {value : BitVec type.width}
    (h : f.HoldsValue r (.primitive type value)) : f.readValue type r = some value := by
  obtain ⟨hlow, hhigh⟩ := h
  have hword : ∃ low, f.registers r = .word low := by
    rw [Value.slots] at hlow
    split at hlow <;> try split at hlow
    all_goals exact ⟨_, (Option.some.inj hlow).symm⟩
  obtain ⟨low, hr⟩ := hword
  rw [hr] at hlow
  cases hwide : type.isWide with
  | true =>
    have hnext := hhigh hwide
    simp only [Value.slots, hwide, if_true, List.getElem?_cons_succ, List.getElem?_cons_zero,
      Option.some.injEq] at hnext
    simp only [readValue, hr, ← hnext, hwide]
    rw [readPrimitive_slots hlow fun _ => by simp [Value.slots, hwide]]
  | false =>
    simp only [readValue, hr, hwide]
    rw [readPrimitive_slots hlow (by simp [hwide])]

theorem setValue_calls {type : Primitive} {value : BitVec type.width} :
    (f.setValue type r value).calls = f.calls := by
  unfold setValue
  split <;> rfl

/-- A primitive value is in the registers it was moved to. -/
theorem holdsValue_setValue {type : Primitive} {value : BitVec type.width} :
    (f.setValue type r value).HoldsValue r (.primitive type value) := by
  have hne : r ≠ r.next := r.ne_next
  cases hwide : type.isWide with
  | true =>
    simp only [HoldsValue, setValue, Value.slots, Value.type, hwide, if_true]
    exact ⟨by rw [set_registers_of_ne hne]; simp, fun _ => by simp⟩
  | false =>
    have hslots : ∃ low, (Value.primitive type value).slots = [low] := by
      simp only [Value.slots, hwide, Bool.false_eq_true, if_false]
      split <;> exact ⟨_, rfl⟩
    obtain ⟨low, hlow⟩ := hslots
    simp [HoldsValue, setValue, hlow, Value.type, TypeDescriptor.isWide, hwide]

/-- A reference in a register, as the instructions read it. -/
theorem object_of_registers {o : Option Obj} (h : f.registers r = .ofObject o) :
    f.object r = some o := by
  cases o <;> simp [object, h, Slot.ofObject]

theorem argument_of_registers {o : Option Obj} (h : f.registers r = .ofObject o) :
    f.argument r = some (.object o) := by
  cases o <;> simp [argument, h, Slot.ofObject]

theorem argument_of_array {id : ℕ} {elements : List (Option Obj)}
    (h : f.registers r = .array id) (helements : f.arrays[id]? = some elements) :
    f.argument r = some (.array elements) := by
  simp [argument, h, helements]

/-- An object is held the way a reference is written. -/
theorem holdsValue_object {o : Option Obj} :
    f.HoldsValue r (.object o) ↔ f.registers r = .ofObject o := by
  cases o <;> simp [HoldsValue, Value.slots, Value.type, TypeDescriptor.isWide, Slot.ofObject,
    eq_comm]

end Frame

/-! ## Runs -/

variable {f' : Frame} {i : Instruction} {code code' : List Instruction}

theorem run_append_of_ok (h : run env f code = .ok f') :
    run env f (code ++ code') = run env f' code' := by
  simp only [run, List.foldlM_append] at h ⊢
  rw [h]
  rfl

theorem run_cons_of_ok (h : step env f i = .ok f') :
    run env f (i :: code) = run env f' code := by
  simp only [run, List.foldlM_cons, h]
  rfl

theorem execute_append_of_ok (h : run env f code = .ok f') :
    execute env f (code ++ code') = execute env f' code' := by
  rw [execute, execute, run_append_of_ok h]

theorem execute_cons_of_ok (h : step env f i = .ok f') :
    execute env f (i :: code) = execute env f' code := by
  rw [execute, execute, run_cons_of_ok h]

/-- An instruction that ends the method ends the run. -/
theorem execute_cons_of_finished {e : Execution} (h : step env f i = .error (.finished e)) :
    execute env f (i :: code) = some e := by
  simp only [execute, run, List.foldlM_cons, h]
  rfl

/-! ## What one instruction does -/

theorem step_const {value : ℕ} :
    step env f (.const dest value) = .ok (f.set dest (.word (BitVec.ofNat 32 value))) := rfl

theorem step_newArray {size : Register} {n : ℕ} (h : f.registers size = .word (BitVec.ofNat 32 n))
    (hn : n < 2 ^ 31) :
    step env f (.newArray dest size) =
      .ok ({ f with arrays := f.arrays ++ [List.replicate n none] }.set dest
        (.array f.arrays.length)) := by
  have hmsb : (BitVec.ofNat 32 n).msb = false := by
    rw [BitVec.msb_eq_false_iff_two_mul_lt]
    simp
    omega
  simp only [step, h, hmsb, Bool.false_eq_true, if_false, BitVec.toNat_ofNat]
  rw [Nat.mod_eq_of_lt (by omega)]

theorem step_valueOf {type : Primitive} {value : BitVec type.width}
    (h : f.HoldsValue src (.primitive type value)) :
    step env f (.valueOf type dest src) =
      .ok (f.set dest (.ofObject (some (.box type value)))) := by
  simp [step, Frame.readValue_of_holdsValue h, Slot.ofObject]

theorem step_aputObject {array value index : Register} {id n : ℕ} {o : Option Obj}
    {elements : List (Option Obj)} (harray : f.registers array = .array id)
    (hvalue : f.registers value = .ofObject o)
    (hindex : f.registers index = .word (BitVec.ofNat 32 n))
    (helements : f.arrays[id]? = some elements) (hn : n < elements.length)
    (hlength : elements.length < 2 ^ 31) :
    step env f (.aputObject array value index) =
      .ok { f with arrays := f.arrays.set id (elements.set n o) } := by
  have htoNat : (BitVec.ofNat 32 n).toNat = n := by
    rw [BitVec.toNat_ofNat, Nat.mod_eq_of_lt (by omega)]
  simp [step, harray, Frame.object_of_registers hvalue, hindex, helements, htoNat, hn]

/-- **A call** whose arguments can be read and whose receiver is not null. -/
theorem step_invoke (env : Environment) (dest : Register) {isStatic : Bool}
    {args : List Register} {arguments : List Argument}
    (hargs : args.mapM f.argument = some arguments)
    (hreceiver : isStatic ∨ arguments.head? ≠ some (.object none)) :
    step env f (.invoke dest isStatic args) =
      match env.callee arguments with
      | .returned o =>
        .ok ({ f with calls := f.calls ++ [arguments] }.set dest (.ofObject o))
      | .thrown e => { f with calls := f.calls ++ [arguments] }.finish (.thrown e) := by
  have hnull : (!isStatic && decide (arguments.head? = some (.object none))) = false := by
    rcases hreceiver with h | h <;> simp [h]
  simp [step, hargs, hnull]

/-! ### Ending a method with a result

`object` is the result a method was given, and `type` its own return
type. -/

variable {type : Primitive} {o : Obj}

/-- Null goes through a cast and is refused by the call on it. -/
theorem execute_unbox_null (h : f.registers r = .ofObject none) :
    execute env f (.checkCast type r :: .primitiveValue type dest r :: code) =
      some ⟨f.calls, .thrown .nullPointerException⟩ := by
  have hobject := Frame.object_of_registers h
  rw [execute_cons_of_ok (show step env f (.checkCast type r) = .ok f by simp [step, hobject])]
  exact execute_cons_of_finished (by simp [step, hobject, Frame.finish])

theorem execute_checkCast_other (h : f.registers r = .ofObject (some o))
    (ho : o.unbox type = none) :
    execute env f (.checkCast type r :: code) =
      some ⟨f.calls, .thrown .classCastException⟩ :=
  execute_cons_of_finished (by simp [step, Frame.object_of_registers h, ho, Frame.finish])

/-- The box of the type is returned as its value. -/
theorem execute_unbox {value : BitVec type.width} (h : f.registers r = .ofObject (some o))
    (ho : o.unbox type = some value) :
    execute env f [.checkCast type r, .primitiveValue type r r, .returnPrimitive type r] =
      some ⟨f.calls, .returned (.primitive type value)⟩ := by
  have hobject := Frame.object_of_registers h
  rw [execute_cons_of_ok (show step env f (.checkCast type r) = .ok f by simp [step, hobject, ho]),
    execute_cons_of_ok (show step env f (.primitiveValue type r r) =
      .ok (f.setValue type r value) by simp [step, hobject, ho])]
  have hread : (f.setValue type r value).readValue type r = some value :=
    Frame.readValue_of_holdsValue Frame.holdsValue_setValue
  have hfinish : step env (f.setValue type r value) (.returnPrimitive type r) =
      (f.setValue type r value).finish (.returned (.primitive type value)) := by
    simp [step, hread]
  rw [execute_cons_of_finished hfinish, Frame.setValue_calls]

theorem execute_returnObject {o : Option Obj} (h : f.registers r = .ofObject o) :
    execute env f [.returnObject r] = some ⟨f.calls, .returned (.object o)⟩ :=
  execute_cons_of_finished (by simp [step, Frame.object_of_registers h, Frame.finish])

theorem execute_returnPrimitive {value : BitVec type.width}
    (h : f.HoldsValue r (.primitive type value)) :
    execute env f [.returnPrimitive type r] =
      some ⟨f.calls, .returned (.primitive type value)⟩ :=
  execute_cons_of_finished (by simp [step, Frame.readValue_of_holdsValue h, Frame.finish])

/-- Zero is zero in every type. -/
theorem holdsValue_zero (h : f.registers r = .word 0)
    (hnext : type.isWide → f.registers r.next = .word 0) : f.HoldsValue r (.primitive type 0) := by
  refine ⟨?_, fun hwide => ?_⟩
  · rw [h]
    cases type <;> rfl
  · rw [hnext hwide]
    cases type <;> first | rfl | exact absurd hwide (by decide)

theorem execute_returnVoid : execute env f [.returnVoid] = some ⟨f.calls, .void⟩ :=
  execute_cons_of_finished rfl

/-! ## The registers an instruction names -/

/-- A register, and the one after it where the value there is wide. -/
def Register.words (isWide : Bool) (r : Register) : List Register :=
  if isWide then [r, r.next] else [r]

@[simp] def Instruction.reads : Instruction → List Register
  | const _ _ | constWide _ _ | sgetObject _ | returnVoid => []
  | newArray _ size => [size]
  | aputObject array value index => [array, value, index]
  | valueOf type _ src | returnPrimitive type src => src.words type.isWide
  | checkCast _ r | primitiveValue _ _ r | returnObject r => [r]
  | invoke _ _ args => args

@[simp] def Instruction.writes : Instruction → List Register
  | const dest _ | newArray dest _ | valueOf _ dest _ | sgetObject dest | invoke dest _ _ => [dest]
  | constWide dest _ => dest.words true
  | primitiveValue type dest _ => dest.words type.isWide
  | aputObject _ _ _ | checkCast _ _ | returnVoid | returnObject _ | returnPrimitive _ _ => []

/-- All of them. -/
@[simp] def Instruction.registers (i : Instruction) : List Register := i.reads ++ i.writes

@[simp] theorem parameter_notMem_words_temp {n k : ℕ} {isWide : Bool} :
    .parameter n ∉ (Register.temp k).words isWide := by
  cases isWide <;> simp [Register.words, Register.next]

@[simp] theorem parameter_mem_words {n k : ℕ} {isWide : Bool} :
    .parameter n ∈ (Register.parameter k).words isWide ↔
      k ≤ n ∧ n < k + if isWide then 2 else 1 := by
  cases isWide <;> simp [Register.words, Register.next] <;> omega

theorem setValue_registers {value : BitVec type.width} (hr : r' ∉ r.words type.isWide) :
    (f.setValue type r value).registers r' = f.registers r' := by
  have hlen := Value.length_slots (.primitive type value)
  unfold Register.words at hr
  unfold Frame.setValue
  split
  · rename_i low high hslots
    have hwide : type.isWide = true := by
      rw [hslots] at hlen
      by_contra hn
      simp [Value.type, TypeDescriptor.words, TypeDescriptor.isWide, hn] at hlen
    simp only [hwide, if_true, List.mem_cons, List.not_mem_nil, or_false, not_or] at hr
    rw [Frame.set_registers_of_ne hr.2, Frame.set_registers_of_ne hr.1]
  · refine Frame.set_registers_of_ne fun he => hr ?_
    split <;> simp [he]
  · rfl

/-- **An instruction leaves the registers it does not write.** -/
theorem step_frame {i : Instruction} (h : step env f i = .ok f') (hr : r ∉ i.writes) :
    f'.registers r = f.registers r := by
  have hset : ∀ {g : Frame} {dest : Register} {slot : Slot}, r ∉ [dest] →
      (g.set dest slot).registers r = g.registers r := by
    intro g dest slot hne
    exact Frame.set_registers_of_ne (by simpa using hne)
  -- a step that goes on writes what it says, and one that stops is no step
  cases i with
  | const dest value =>
    obtain rfl := Except.ok.inj h
    exact hset hr
  | constWide dest value =>
    obtain rfl := Except.ok.inj h
    simp only [Instruction.writes, Register.words, if_true, List.mem_cons, List.not_mem_nil,
      or_false, not_or] at hr
    rw [Frame.set_registers_of_ne hr.2, Frame.set_registers_of_ne hr.1]
  | newArray dest size =>
    simp only [step] at h
    split at h
    · split at h
      · exact absurd h (by simp [Frame.finish])
      · obtain rfl := Except.ok.inj h
        exact hset hr
    · exact absurd h (by simp)
  | aputObject array value index =>
    simp only [step] at h
    split at h
    · split at h
      · split at h
        · obtain rfl := Except.ok.inj h
          rfl
        · exact absurd h (by simp [Frame.finish])
      · exact absurd h (by simp)
    · exact absurd h (by simp)
  | valueOf type dest src =>
    simp only [step] at h
    split at h
    · obtain rfl := Except.ok.inj h
      exact hset hr
    · exact absurd h (by simp)
  | checkCast type reg =>
    simp only [step] at h
    split at h
    · obtain rfl := Except.ok.inj h
      rfl
    · split at h
      · obtain rfl := Except.ok.inj h
        rfl
      · exact absurd h (by simp [Frame.finish])
    · exact absurd h (by simp)
  | primitiveValue type dest src =>
    simp only [step] at h
    split at h
    · exact absurd h (by simp [Frame.finish])
    · split at h
      · obtain rfl := Except.ok.inj h
        exact setValue_registers hr
      · exact absurd h (by simp)
    · exact absurd h (by simp)
  | sgetObject dest =>
    obtain rfl := Except.ok.inj h
    exact hset hr
  | invoke dest isStatic args =>
    simp only [step] at h
    split at h
    · exact absurd h (by simp)
    · split at h
      · exact absurd h (by simp [Frame.finish])
      · split at h
        · obtain rfl := Except.ok.inj h
          exact hset hr
        · exact absurd h (by simp [Frame.finish])
  | returnVoid => exact absurd h (by simp [step, Frame.finish])
  | returnObject src =>
    simp only [step] at h
    split at h
    · exact absurd h (by simp [Frame.finish])
    · exact absurd h (by simp)
  | returnPrimitive type src =>
    simp only [step] at h
    split at h
    · exact absurd h (by simp [Frame.finish])
    · exact absurd h (by simp)

/-- **And so does a run.** -/
theorem run_frame (h : run env f code = .ok f') (hr : ∀ i ∈ code, r ∉ i.writes) :
    f'.registers r = f.registers r := by
  induction code generalizing f with
  | nil =>
    obtain rfl : f = f' := Except.ok.inj h
    rfl
  | cons i code ih =>
    rw [List.forall_mem_cons] at hr
    cases hstep : step env f i with
    | error stop =>
      rw [run, List.foldlM_cons, hstep] at h
      exact absurd h (by simp [bind, Except.bind])
    | ok f₁ =>
      rw [run_cons_of_ok hstep] at h
      exact (ih h hr.2).trans (step_frame hstep hr.1)

end Dalvik
