import Concordance.Proofs.Recovery
import Concordance.Proofs.Resolution.Constants
import Concordance.Proofs.Resolution.Join
/-!
The members of a type as a join of two sides: what the initializers of its name tables bind, and
what the type declares. A table that cannot be decoded loses its own members only; the initializer
of one makes no difference to those of another, nor to what is paired with the host.
-/
namespace Concordance.Resolution

open Compiled (TypeInfo)

section Tables

variable {α : Type} {own : α → String} {xs : List α} {name : String} {x : α}

def FirstNamed (own : α → String) (xs : List α) (name : String) (x : α) : Prop :=
  own x = name ∧ ∃ front back, xs = front ++ x :: back ∧ ∀ y ∈ front, own y ≠ name

theorem find?_eq_some_iff_firstNamed :
    xs.find? (fun x => own x = name) = some x ↔ FirstNamed own xs name x := by
  simp [List.find?_eq_some_iff_append, FirstNamed]

/-- What a name table binds. One that is missing, has no initializer or cannot be decoded binds
nothing. -/
inductive TableBinds (t : TypeInfo) (table : String) : List Binding → Prop where
  | missing (absent : ∀ n ∈ t.nestedTypes, n.name ≠ table) : TableBinds t table []
  | uninitialized {n : TypeInfo} (first : FirstNamed (·.name) t.nestedTypes table n)
      (bare : n.initializer = none) : TableBinds t table []
  | undecodable {n : TypeInfo} {i : Cil.Initializer} {fault : Cil.CodeFault}
      (first : FirstNamed (·.name) t.nestedTypes table n) (filled : n.initializer = some i)
      (fails : i.instructions? = .error fault) : TableBinds t table []
  | scanned {n : TypeInfo} {i : Cil.Initializer} {is : List Cil.Instruction}
      (first : FirstNamed (·.name) t.nestedTypes table n) (filled : n.initializer = some i)
      (decodes : i.instructions? = .ok is) : TableBinds t table (Binding.recover is)

variable {t : TypeInfo} {table : String} {bs : List Binding}

theorem tableBinds_iff : TableBinds t table bs ↔ bs = bindings t table := by
  rw [bindings_eq]
  unfold TypeInfo.nestedType? Binding.ofInitializer
  constructor
  · rintro (absent | ⟨first, bare⟩ | ⟨first, filled, fails⟩ | ⟨first, filled, decodes⟩)
    · rw [List.find?_eq_none.mpr (by simpa using absent)]
      rfl
    · simp [find?_eq_some_iff_firstNamed.mpr first, bare]
    · simp [find?_eq_some_iff_firstNamed.mpr first, filled, fails, Except.map]
    · simp [find?_eq_some_iff_firstNamed.mpr first, filled, decodes, Except.map]
  · rintro rfl
    cases found : t.nestedTypes.find? (·.name = table) with
    | none => exact .missing (by simpa using found)
    | some n =>
      have first := find?_eq_some_iff_firstNamed.mp found
      cases filled : n.initializer with
      | none => simpa [filled] using TableBinds.uninitialized first filled
      | some i =>
        cases code : i.instructions? with
        | error fault =>
          simpa [filled, code, Except.map] using TableBinds.undecodable first filled code
        | ok is => simpa [filled, code, Except.map] using TableBinds.scanned first filled code

theorem nodup_names_bindings (t : TypeInfo) (table : String) :
    ((bindings t table).map (·.logicalName)).Nodup := by
  have bound : TableBinds t table (bindings t table) := tableBinds_iff.mpr rfl
  generalize bindings t table = bs at bound
  cases bound with
  | missing | uninitialized | undecodable => exact .nil
  | scanned => exact Binding.nodup_names_recover _

end Tables

section Members

structure ParameterOf (d : Compiled.Parameter) (p : Parameter) : Prop where
  position : p.position = d.position
  name : p.name = d.name
  logicalType : p.logicalType = d.type.logicalName
  binaryType : p.binaryType = d.type
  hasDefault : p.hasDefault = d.hasDefault
  defaultValue : p.defaultValue = d.defaultValue
  isRef : p.isRef = d.isRef
  isOut : p.isOut = d.isOut
  isIn : p.isIn = d.isIn
  isParams : p.isParams = d.isParams
  isNullable : p.isNullable = d.isNullable

structure MethodOf (logicalName declaring : String) (d : Compiled.Method) (m : Method) : Prop where
  logicalName : m.logicalName = logicalName
  binaryName : m.binaryName = d.name
  returnType : m.returnType = d.returnType
  logicalReturnType : m.logicalReturnType = d.returnType.logicalName
  returnsVoid : m.returnsVoid = true ↔ d.returnType.fullName = "System.Void"
  returnsNullable : m.returnsNullable = d.returnsNullable
  parameters : List.Forall₂ ParameterOf d.parameters m.parameters
  isStatic : m.isStatic = d.isStatic
  isVirtual : m.isVirtual = d.isVirtual
  isAbstract : m.isAbstract = d.isAbstract
  isGeneric : m.isGeneric = d.isGeneric
  declaringType : m.declaringType = declaring

structure PropertyOf (logicalName declaring : String) (d : Compiled.Property) (p : Property) :
    Prop where
  logicalName : p.logicalName = logicalName
  binaryName : p.binaryName = d.name
  logicalType : p.logicalType = d.type.logicalName
  binaryType : p.binaryType = d.type
  canRead : p.canRead = d.canRead
  canWrite : p.canWrite = d.canWrite
  isStatic : p.isStatic = d.isStatic
  declaringType : p.declaringType = declaring

structure SignalOf (logicalName declaring : String) (d : Compiled.Event) (s : Signal) : Prop where
  logicalName : s.logicalName = logicalName
  binaryName : s.binaryName = d.name
  described (g : Compiled.Signature) (invoke : d.invoke = some g) :
    s.returnType = g.returnType ∧ s.parameterTypes = g.parameterTypes
  undescribed (invoke : d.invoke = none) :
    s.returnType.fullName = "System.Void" ∧ s.parameterTypes = []
  declaringType : s.declaringType = declaring

theorem methodOf_method (name declaring : String) (d : Compiled.Method) :
    MethodOf name declaring d (method name declaring d) where
  logicalName := rfl
  binaryName := rfl
  returnType := rfl
  logicalReturnType := rfl
  returnsVoid := by simp [method, TypeRef.isVoid]
  returnsNullable := rfl
  parameters := by
    rw [method, List.forall₂_map_right_iff, List.forall₂_same]
    intro p _
    constructor <;> rfl
  isStatic := rfl
  isVirtual := rfl
  isAbstract := rfl
  isGeneric := rfl
  declaringType := rfl

theorem propertyOf_property (name declaring : String) (d : Compiled.Property) :
    PropertyOf name declaring d (property name declaring d) := by
  constructor <;> rfl

theorem signalOf_signal (name declaring : String) (d : Compiled.Event) :
    SignalOf name declaring d (signal name declaring d) where
  logicalName := rfl
  binaryName := rfl
  described g invoke := by simp [signal, invoke]
  undescribed invoke := by simp [signal, invoke, TypeRef.void]
  declaringType := rfl

end Members

section Join

variable {α : Type} {bs : List Binding} {t : TypeInfo}

/-- The names of the table are those bound to what is declared, and what is bound is entered. -/
structure IsJoin (bs : List Binding) (Declared : String → Prop) (Entered : Binding → α → Prop)
    (table : NameMap α) : Prop where
  mem_keys (name : String) : name ∈ table.keys ↔
    ∃ b ∈ bs, b.logicalName = name ∧ Declared b.fieldName
  entered : ∀ b ∈ bs, ∀ x, table.get? b.logicalName = some x → Entered b x

variable (distinct : (bs.map (·.logicalName)).Nodup)

include distinct

theorem isJoin_joined {answer : Binding → Option α} {Declared : String → Prop}
    {Entered : Binding → α → Prop} (declared : ∀ b, (answer b).isSome = true ↔ Declared b.fieldName)
    (entered : ∀ b x, answer b = some x → Entered b x) :
    IsJoin bs Declared Entered (joined answer bs) where
  mem_keys name := by simp only [mem_keys_joined, declared]
  entered b hb x found := entered b x ((get?_joined distinct hb).symm.trans found)

theorem isJoin_methods : IsJoin bs (fun f => ∃ d ∈ t.methods, d.name = f)
    (fun b ms => List.Forall₂ (MethodOf b.logicalName t.fullName)
      (t.methods.filter (·.name = b.fieldName)) ms) (methods t bs) := by
  rw [methods_eq_joined]
  refine isJoin_joined distinct (fun b => ?_) fun b ms answered => ?_
  · simp [Option.isSome_iff_exists, overloads?_eq_some, TypeInfo.overloadsOf,
      List.filter_eq_nil_iff]
  · obtain ⟨-, rfl⟩ := overloads?_eq_some.mp answered
    rw [List.forall₂_map_right_iff]
    exact List.forall₂_same.mpr fun d _ => methodOf_method _ _ d

theorem isJoin_properties : IsJoin bs (fun f => ∃ d ∈ t.properties, d.name = f)
    (fun b p => ∃ d, FirstNamed (·.name) t.properties b.fieldName d ∧
      PropertyOf b.logicalName t.fullName d p) (properties t bs) := by
  rw [properties_eq_joined]
  refine isJoin_joined distinct (fun b => ?_) fun b p answered => ?_
  · simp [TypeInfo.property?]
  · obtain ⟨d, found, rfl⟩ := Option.map_eq_some_iff.mp answered
    exact ⟨d, find?_eq_some_iff_firstNamed.mp found, propertyOf_property _ _ d⟩

theorem isJoin_signals : IsJoin bs (fun f => ∃ d ∈ t.events, d.name = f)
    (fun b s => ∃ d, FirstNamed (·.name) t.events b.fieldName d ∧
      SignalOf b.logicalName t.fullName d s) (signals t bs) := by
  rw [signals_eq_joined]
  refine isJoin_joined distinct (fun b => ?_) fun b s answered => ?_
  · simp [TypeInfo.event?]
  · obtain ⟨d, found, rfl⟩ := Option.map_eq_some_iff.mp answered
    exact ⟨d, find?_eq_some_iff_firstNamed.mp found, signalOf_signal _ _ d⟩

end Join

section Reinitialized

variable {t : TypeInfo} {front back : List TypeInfo} {n : TypeInfo}

def bare (n : TypeInfo) : TypeInfo := { n with initializer := none }

theorem fullName_bare (b : TypeInfo) : (bare b).fullName = b.fullName := rfl

theorem pairing?_bare (owner name : String) (constants : List String) (b : TypeInfo) :
    pairing? owner name constants (bare b) = pairing? owner name constants b := rfl

def reinitialized (t : TypeInfo) (front : List TypeInfo) (n : TypeInfo) (back : List TypeInfo)
    (i : Option Cil.Initializer) : TypeInfo :=
  { t with nestedTypes := front ++ { n with initializer := i } :: back }

variable (nested : t.nestedTypes = front ++ n :: back) (i : Option Cil.Initializer)

include nested

theorem bindings_reinitialized {table : String} (other : n.name ≠ table) :
    bindings (reinitialized t front n back i) table = bindings t table := by
  have same : (reinitialized t front n back i).nestedType? table = t.nestedType? table := by
    simp [TypeInfo.nestedType?, reinitialized, nested, List.find?_append, other]
  rw [bindings_eq, same, bindings_eq]

theorem nestedEnum?_reinitialized (suffix name : String) :
    (nestedEnum? suffix (reinitialized t front n back i) name).map bare =
      (nestedEnum? suffix t name).map bare := by
  unfold nestedEnum? reinitialized
  rw [nested, List.find?_append, List.find?_append, List.find?_cons, List.find?_cons]
  cases front.find? _ with
  | some b => rfl
  | none =>
    dsimp only
    cases (n.isEnum && _) <;> rfl

theorem enumOutcome_reinitialized (host : Host) (settings : ExtractionSettings)
    (logicalName name : String) :
    enumOutcome host settings (reinitialized t front n back i) logicalName name =
      enumOutcome host settings t logicalName name := by
  have same := nestedEnum?_reinitialized nested i settings.enumSuffix name
  unfold enumOutcome
  cases before : nestedEnum? settings.enumSuffix t name with
  | none =>
    rw [before, Option.map_none, Option.map_eq_none_iff] at same
    rw [same]
    rfl
  | some b =>
    rw [before, Option.map_some, Option.map_eq_some_iff] at same
    obtain ⟨c, after, same⟩ := same
    rw [after]
    dsimp only
    rw [← pairing?_bare, ← fullName_bare c, same, pairing?_bare, fullName_bare]

theorem resolve_reinitialized (r : Resolver) (notEnum : t.isEnum = false) (logicalName : String) :
    let u := reinitialized t front n back i
    r.resolve u logicalName =
      ({ (r.resolve t logicalName).1 with
          methods := methods t (bindings u methodTable)
          properties := properties t (bindings u propertyTable)
          signals := signals t (bindings u signalTable) },
        (r.resolve t logicalName).2) := by
  intro u
  have outcomes : enumOutcomes r.host r.settings u logicalName =
      enumOutcomes r.host r.settings t logicalName :=
    List.map_congr_left fun name _ => enumOutcome_reinitialized nested i _ _ _ name
  have notEnum' : u.isEnum = false := notEnum
  simp only [Resolver.resolve_eq, notEnum, notEnum', outcomes]
  rfl

end Reinitialized

/-- The members of a type that is no enum are a join of what its tables bind with what it declares:
all overloads of a bound name, the first property and the first event. Another initializer in a
nested type changes the members of no table but its own, and nothing else of the entry. -/
theorem members_join_bindings (r : Resolver) (t : TypeInfo) (logicalName : String)
    (notEnum : t.isEnum = false) :
    let entry := (r.resolve t logicalName).1
    (∀ table, ∃! bs, TableBinds t table bs) ∧
    (∀ bs, TableBinds t methodTable bs → IsJoin bs (fun f => ∃ d ∈ t.methods, d.name = f)
      (fun b ms => List.Forall₂ (MethodOf b.logicalName t.fullName)
        (t.methods.filter (·.name = b.fieldName)) ms) entry.methods) ∧
    (∀ bs, TableBinds t propertyTable bs → IsJoin bs (fun f => ∃ d ∈ t.properties, d.name = f)
      (fun b p => ∃ d, FirstNamed (·.name) t.properties b.fieldName d ∧
        PropertyOf b.logicalName t.fullName d p) entry.properties) ∧
    (∀ bs, TableBinds t signalTable bs → IsJoin bs (fun f => ∃ d ∈ t.events, d.name = f)
      (fun b s => ∃ d, FirstNamed (·.name) t.events b.fieldName d ∧
        SignalOf b.logicalName t.fullName d s) entry.signals) ∧
    ∀ front n back i, t.nestedTypes = front ++ n :: back →
      let changed := r.resolve
        { t with nestedTypes := front ++ { n with initializer := i } :: back } logicalName
      changed.2 = (r.resolve t logicalName).2 ∧
      changed.1 = { entry with
        methods := changed.1.methods
        properties := changed.1.properties
        signals := changed.1.signals } ∧
      (n.name ≠ methodTable → changed.1.methods = entry.methods) ∧
      (n.name ≠ propertyTable → changed.1.properties = entry.properties) ∧
      (n.name ≠ signalTable → changed.1.signals = entry.signals) := by
  intro entry
  have tables : entry.methods = methods t (bindings t methodTable) ∧
      entry.properties = properties t (bindings t propertyTable) ∧
      entry.signals = signals t (bindings t signalTable) := by
    simp [entry, Resolver.resolve_eq, notEnum]
  obtain ⟨ofMethods, ofProperties, ofSignals⟩ := tables
  refine ⟨fun table => ⟨_, tableBinds_iff.mpr rfl, fun _ => tableBinds_iff.mp⟩, ?_, ?_, ?_, ?_⟩
  · intro bs bound
    obtain rfl := tableBinds_iff.mp bound
    exact ofMethods ▸ isJoin_methods (nodup_names_bindings t methodTable)
  · intro bs bound
    obtain rfl := tableBinds_iff.mp bound
    exact ofProperties ▸ isJoin_properties (nodup_names_bindings t propertyTable)
  · intro bs bound
    obtain rfl := tableBinds_iff.mp bound
    exact ofSignals ▸ isJoin_signals (nodup_names_bindings t signalTable)
  · intro front n back i nested changed
    have resolved : changed = _ := resolve_reinitialized nested i r notEnum logicalName
    rw [resolved]
    refine ⟨rfl, rfl, fun other => ?_, fun other => ?_, fun other => ?_⟩
    · rw [ofMethods, bindings_reinitialized nested i other]
    · rw [ofProperties, bindings_reinitialized nested i other]
    · rw [ofSignals, bindings_reinitialized nested i other]

theorem members_join_bindings_undecodable :
    let node : TypeInfo := {
      name := "Node"
      methods := [{ name := "Get", returnType := .void },
        { name := "Get", returnType := .ofFullName "T", isGeneric := true }]
      properties := [{ name := "Name", type := .ofFullName "System.String" }] }
    let names : TypeInfo := {
      name := "MethodName"
      initializer := some (.instructions [.loadString "get", .storeStaticField "Get",
        .loadString "gone", .storeStaticField "Gone"]) }
    let broken : TypeInfo := {
      name := "PropertyName"
      initializer := some (.code { code := [0x24] }) }
    let mended : Cil.Initializer := .instructions [.loadString "name", .storeStaticField "Name"]
    let resolve (nestedTypes : List TypeInfo) :=
      Resolver.resolve { host := {} } { node with nestedTypes } "Node"
    let before := resolve [names, broken]
    let after := resolve [names, { broken with initializer := some mended }]
    before.1.methods.keys = ["get"] ∧ before.1.properties.keys = [] ∧
      after.1.properties.keys = ["name"] ∧ after.1.methods = before.1.methods ∧
      after.2 = before.2 := by
  intro node names broken mended resolve before after
  obtain ⟨-, -, -, -, contained⟩ := members_join_bindings { host := {} }
    { node with nestedTypes := [names, broken] } "Node" rfl
  obtain ⟨recorded, -, methods, -⟩ := contained [names] broken [] (some mended) rfl
  exact ⟨by decide +kernel, by decide +kernel, by decide +kernel, methods (by decide), recorded⟩

end Concordance.Resolution
