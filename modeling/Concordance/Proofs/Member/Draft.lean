import Concordance.Member.Draft
import Mathlib.Data.List.Forall2
import Mathlib.Data.List.Induction
/-!
Methods as they are described, from a start and by calls one behind the other. Calls that add a
parameter and calls that set the return type do not get into each other's way, so what a description
ends with is put together from its parameters, in order, and from the return type that is set last.
-/
namespace Concordance.MethodDraft

inductive Start where
  | ofLogical (logicalName declaringType : String)
  | ofBinary (binaryName declaringType : String)
  | named (logicalName binaryName declaringType : String)

def Start.method : Start → Method
  | ofLogical logicalName declaringType => .ofLogical logicalName declaringType
  | ofBinary binaryName declaringType => .ofBinary binaryName declaringType
  | named logicalName binaryName declaringType => .named logicalName binaryName declaringType

inductive Call where
  | param (name fullName : String)
  | optionalParam (name fullName defaultValue : String)
  | paramsArray (name element : String)
  | returns (fullName : String)

structure Given where
  name : String
  fullName : String
  defaultValue : Option String := none
  variadic : Bool := false

namespace Call

def apply (m : Method) : Call → Method
  | param name fullName => m.param name fullName
  | optionalParam name fullName defaultValue => m.optionalParam name fullName defaultValue
  | paramsArray name element => m.paramsArray name element
  | returns fullName => m.returning fullName

def given? : Call → Option Given
  | param name fullName => some { name, fullName }
  | optionalParam name fullName defaultValue =>
    some { name, fullName, defaultValue := some defaultValue }
  | paramsArray name element => some { name, fullName := element ++ "[]", variadic := true }
  | returns _ => none

def returned? : Call → Option String
  | returns fullName => some fullName
  | _ => none

def isParam : Call → Bool
  | param .. => true
  | _ => false

end Call

def build (s : Start) (calls : List Call) : Method := calls.foldl Call.apply s.method

def returned (calls : List Call) : String :=
  (calls.filterMap Call.returned?).getLast?.getD "System.Void"

/-- The parameter stands at place `i` as it was asked for, and it is passed as it is. -/
structure Describes (g : Given) (i : Nat) (p : Parameter) : Prop where
  position : p.position = UInt64.ofNat i
  counted (fits : i < UInt64.size) : p.position.toNat = i
  name : p.name = g.name
  binaryType : p.binaryType = .ofFullName g.fullName
  logicalType : p.logicalType = p.binaryType.logicalName
  defaultValue : p.defaultValue = g.defaultValue
  hasDefault : p.hasDefault = p.defaultValue.isSome
  isParams : p.isParams = g.variadic
  plain : p.isRef = false ∧ p.isOut = false ∧ p.isIn = false ∧ p.isNullable = false

section Build

variable (s : Start) (calls : List Call)

def Given.parameter (g : Given) (i : Nat) : Parameter where
  position := UInt64.ofNat i
  name := g.name
  logicalType := (TypeRef.ofFullName g.fullName).logicalName
  binaryType := .ofFullName g.fullName
  hasDefault := g.defaultValue.isSome
  defaultValue := g.defaultValue
  isParams := g.variadic

theorem Given.describes_parameter (g : Given) (i : Nat) : Describes g i (g.parameter i) where
  position := rfl
  counted fits := UInt64.toNat_ofNat_of_lt' fits
  name := rfl
  binaryType := rfl
  logicalType := rfl
  defaultValue := rfl
  hasDefault := rfl
  isParams := rfl
  plain := ⟨rfl, rfl, rfl, rfl⟩

def parameters : List Parameter :=
  (calls.filterMap Call.given?).zipIdx.map fun e => e.1.parameter e.2

theorem length_parameters : (parameters calls).length = (calls.filterMap Call.given?).length := by
  simp [parameters]

theorem parameters_snoc (c : Call) : parameters (calls ++ [c]) =
    parameters calls ++ c.given?.toList.map (·.parameter (parameters calls).length) := by
  rw [length_parameters]
  unfold parameters
  cases given : c.given? with
  | none => simp [given]
  | some g => simp [given, List.zipIdx_append]

theorem returned_snoc (c : Call) :
    returned (calls ++ [c]) = c.returned?.getD (returned calls) := by
  unfold returned
  cases set : c.returned? <;> simp [set]

/-- A description that has come to its parameters and its return type goes on from both alone. -/
theorem Call.apply_eq (c : Call) (m : Method) (fullName : String) (ps : List Parameter) :
    c.apply { m.returning fullName with parameters := ps } =
      { m.returning (c.returned?.getD fullName) with
        parameters := ps ++ c.given?.toList.map (·.parameter ps.length) } := by
  cases c with
  | param | optionalParam | paramsArray => rfl
  | returns => simp [apply, given?, returned?, Method.returning]

theorem build_eq : build s calls =
    { s.method.returning (returned calls) with parameters := parameters calls } := by
  induction calls using List.reverseRecOn with
  | nil => cases s <;> rfl
  | append_singleton calls c ih =>
    have next : build s (calls ++ [c]) = c.apply (build s calls) := by simp [build]
    rw [next, ih, Call.apply_eq, parameters_snoc, returned_snoc]

theorem countP_isRequired_parameters :
    (parameters calls).countP (·.isRequired) = calls.countP Call.isParam := by
  induction calls using List.reverseRecOn with
  | nil => rfl
  | append_singleton calls c ih =>
    rw [parameters_snoc, List.countP_append, List.countP_append, ih]
    cases c <;> rfl

theorem forall₂_describes_parameters : List.Forall₂ (fun e p => Describes e.1 e.2 p)
    (calls.filterMap Call.given?).zipIdx (parameters calls) := by
  rw [parameters, List.forall₂_map_right_iff, List.forall₂_same]
  intro e _
  exact e.1.describes_parameter e.2

end Build

/-- Whatever calls a description is made of and in whatever order, its parameters are those asked
for, one behind the other, and the return type is the one set last, void if there is none. All else
is as the start has it. -/
theorem build_describes (s : Start) (calls : List Call) :
    let m := build s calls
    List.Forall₂ (fun e p => Describes e.1 e.2 p) (calls.filterMap Call.given?).zipIdx
        m.parameters ∧
      m.leastArguments = calls.countP Call.isParam ∧
      m.returnType = .ofFullName (returned calls) ∧
      m.logicalReturnType = m.returnType.logicalName ∧
      (m.returnsVoid = true ↔ returned calls = "System.Void") ∧
      ((∀ c ∈ calls, c.returned? = none) →
        m.returnType = .void ∧ m.logicalReturnType = "void" ∧ m.returnsVoid = true) ∧
      m = { s.method with
        parameters := m.parameters
        returnType := m.returnType
        logicalReturnType := m.logicalReturnType
        returnsVoid := m.returnsVoid } := by
  intro m
  have made : m = { s.method.returning (returned calls) with parameters := parameters calls } :=
    build_eq s calls
  have isVoid : m.returnsVoid = true ↔ returned calls = "System.Void" := by
    simp [made, Method.returning, TypeRef.isVoid, TypeRef.ofFullName]
  refine ⟨?_, ?_, ?_, ?_, isVoid, ?_, ?_⟩
  · rw [made]
    exact forall₂_describes_parameters calls
  · rw [made]
    exact countP_isRequired_parameters calls
  · rw [made]
    rfl
  · rw [made]
    rfl
  · intro unset
    have void : returned calls = "System.Void" := by
      rw [returned, List.filterMap_eq_nil_iff.mpr unset]
      rfl
    refine ⟨?_, ?_, isVoid.mpr void⟩
    · rw [made, void]
      rfl
    · rw [made, void]
      rfl
  · rw [made]
    rfl

-- A default and a rest of any length count for nothing; of two return types the later stands.
example :
    let m := build (.ofBinary "Lerp" "Mathf") [.returns "System.Int64",
      .param "from" "System.Single", .optionalParam "weight" "System.Single" "0.5",
      .paramsArray "rest" "System.Object", .returns "System.Single"]
    m.logicalName = "lerp" ∧ m.logicalReturnType = "float" ∧ m.leastArguments = 1 ∧
      m.parameters.map (·.logicalType) = ["float", "float", "Array"] := by decide +kernel

end Concordance.MethodDraft
