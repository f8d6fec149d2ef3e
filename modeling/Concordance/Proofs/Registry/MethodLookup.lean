import Concordance.Proofs.Extraction.Publishing
import Concordance.Proofs.Override.Answers
import Concordance.Proofs.Resolution.Join
import Concordance.Registry.Lookup
/-!
Which stored methods a question finds. A name that starts with a capital is turned into a logical one
by the rule for names, without regard to the binary names that are stored, so a method is found if
the rule leads to a name that has overloads. Where the names given by a module and by the sets that
are merged follow the rule, every method is found by both of its names; of the standard set two
binary names do not.
-/
namespace Concordance

open Compiled (TypeInfo Module)
open MemberName (toSnake)
open Resolution

namespace MemberName

def startsUpper (s : String) : Bool := s.toList.head?.any Char.isUpper

/-- A logical name and a binary one that the rule leads back to it. -/
structure Regular (logical binary : String) : Prop where
  plain : startsUpper logical = false
  readBack : startsUpper binary = true → toSnake binary = logical

instance (logical binary : String) : Decidable (Regular logical binary) :=
  decidable_of_iff (startsUpper logical = false ∧
    (startsUpper binary = true → toSnake binary = logical)) ⟨fun h => ⟨h.1, h.2⟩, fun h => ⟨h.1, h.2⟩⟩

end MemberName

open MemberName (startsUpper Regular)

namespace Registry

theorem methodName_eq (name : String) :
    methodName name = if startsUpper name then toSnake name else name := by
  unfold methodName startsUpper
  split
  · next start => simp [start]
  · next start => simp [start]

def Stores (r : Registry) (type : Option String) (name : String) (d : Method) : Prop :=
  match type with
  | none => d ∈ r.global.methods.listAt name
  | some t => ∃ full e, r.entryAt? t full = some e ∧ d ∈ e.methods.listAt name

def Lists (r : Registry) (type : Option String) (name : String) : Prop :=
  ∃ d, r.Stores type name d

theorem hasOverload_iff {table : NameMap (List Method)} {name : String} :
    hasOverload table name = true ↔ ∃ d, d ∈ table.listAt name := by
  rw [hasOverload, decide_eq_true_iff, ne_eq, List.length_eq_zero_iff]
  exact ⟨List.exists_mem_of_ne_nil _, fun ⟨_, hd⟩ => List.ne_nil_of_mem hd⟩

section Questions

variable {r : Registry} (h : r.WellFormed)

include h

theorem WellFormed.mem_typesNamed {name : String} {e : TypeEntry} :
    e ∈ r.typesNamed name ↔ ∃ full, r.entryAt? name full = some e := by
  unfold typesNamed variants? entryAt?
  cases group : r.types.get? name with
  | none => simp
  | some vs =>
    rw [Option.filter_some_pos (h.files.isVisible group)]
    exact SortedMap.mem_values_iff

/-- A method is known if the name that the question is read as has overloads. -/
theorem WellFormed.knowsMethod_iff {type : Option String} {name : String} :
    r.knowsMethod type name = true ↔ r.Lists type (methodName name) := by
  unfold knowsMethod Lists Stores
  cases type with
  | none => exact hasOverload_iff
  | some t =>
    simp only [List.any_eq_true, hasOverload_iff, h.mem_typesNamed]
    constructor
    · rintro ⟨e, ⟨full, found⟩, d, hd⟩
      exact ⟨d, full, e, found, hd⟩
    · rintro ⟨d, full, e, found, hd⟩
      exact ⟨e, ⟨full, found⟩, d, hd⟩

/-- A stored method is found by its logical name unless that is taken for a binary one. -/
theorem WellFormed.knowsMethod_logical_iff {type : Option String} {name : String}
    (stored : r.Lists type name) : r.knowsMethod type name = true ↔
      (startsUpper name = true → r.Lists type (toSnake name)) := by
  rw [h.knowsMethod_iff, methodName_eq]
  cases startsUpper name <;> simp [stored]

theorem WellFormed.knowsMethod_binary_iff {type : Option String} {name : String}
    (upper : startsUpper name = true) :
    r.knowsMethod type name = true ↔ r.Lists type (toSnake name) := by
  rw [h.knowsMethod_iff, methodName_eq, if_pos upper]

end Questions

-- A logical name that starts with a capital is read as a binary one, and so is not found.
example :
    let r : Registry := { global := {
      methods := .ofList [("Translate", [.named "Translate" "Translate" "Godot.GD"])] } }
    r.knowsMethod none "Translate" = false := by
  decide +kernel

end Registry

namespace Overrides

def methodsAt (o : Overrides) (name : String) : List Method :=
  o.methods.listAt name ++ o.builtins.listAt name

def RegularNames (o : Overrides) : Prop :=
  ∀ name, ∀ d ∈ o.methodsAt name, Regular name d.binaryName

/-- Binary names in the standard set that do not lead to a name of the set. -/
def oddNames : List String := ["RandRange", "ClassExists"]

theorem standard_answers {name : String} {d : Method} (h : d ∈ standard.methodsAt name) :
    startsUpper name = false ∧ (startsUpper d.binaryName = true → d.binaryName ∉ oddNames →
      standard.methodsAt (toSnake d.binaryName) ≠ []) := by
  have all : ∀ e ∈ standard.methods.entries ++ standard.builtins.entries, ∀ d ∈ e.2,
      startsUpper e.1 = false ∧ (startsUpper d.binaryName = true → d.binaryName ∉ oddNames →
        (standard.methodsAt (toSnake d.binaryName)).isEmpty = false) := by
    decide +kernel
  have entry : ∃ ms, (name, ms) ∈ standard.methods.entries ++ standard.builtins.entries ∧
      d ∈ ms := by
    simp only [List.mem_append, SortedMap.mem_entries_iff]
    rcases List.mem_append.mp h with h | h
    · obtain ⟨ms, found, hd⟩ := SortedMap.exists_get?_of_mem_listAt h
      exact ⟨ms, .inl found, hd⟩
    · obtain ⟨ms, found, hd⟩ := SortedMap.exists_get?_of_mem_listAt h
      exact ⟨ms, .inr found, hd⟩
  obtain ⟨ms, he, hd⟩ := entry
  obtain ⟨plain, answered⟩ := all (name, ms) he d hd
  exact ⟨plain, fun upper regular => List.isEmpty_eq_false_iff.mp (answered upper regular)⟩

end Overrides

section History

variable {r : Registry} {history : List Overrides}

theorem Registry.types_mergeAll : (r.mergeAll history).types = r.types := by
  induction history generalizing r with
  | nil => rfl
  | cons o history ih => exact ih.trans (r.merge_effect o).entries

theorem Registry.mem_of_mem_mergeAll {name : String} {d : Method}
    (h : d ∈ (r.mergeAll history).global.methods.listAt name) :
    d ∈ r.global.methods.listAt name ∨ ∃ o ∈ history, d ∈ o.methodsAt name := by
  induction history generalizing r with
  | nil => exact .inl h
  | cons o history ih =>
    rcases ih h with h | ⟨later, hl, hd⟩
    · rw [(r.merge_effect o).methods] at h
      rcases List.mem_append.mp h with h | h
      · exact .inl h
      · exact .inr ⟨o, List.mem_cons_self, mem_of_mem_newcomers h⟩
    · exact .inr ⟨later, List.mem_cons_of_mem _ hl, hd⟩

theorem Registry.lists_mergeAll {o : Overrides} (merged : o ∈ history) {name : String}
    (nonempty : o.methodsAt name ≠ []) : (r.mergeAll history).Lists none name := by
  have covers := Registry.covers_mergeAll merged r
  obtain ⟨d, hd⟩ := List.exists_mem_of_ne_nil _ nonempty
  rcases List.mem_append.mp hd with hd | hd
  · exact (covers.methods.exists_mem hd).imp fun _ h => h.1
  · exact (covers.builtins.exists_mem hd).imp fun _ h => h.1

end History

namespace Visit

def RegularNames (v : Visit) : Prop :=
  v.type.isEnum = false → ∀ b ∈ bindings v.type methodTable, v.type.overloadsOf b.fieldName ≠ [] →
    Regular b.logicalName b.fieldName

instance (v : Visit) : Decidable v.RegularNames := inferInstanceAs (Decidable (_ → _))

theorem RegularNames.regular {v : Visit} (h : v.RegularNames) {r : Resolver} {name : String}
    {d : Method} (listed : d ∈ (v.entry r).methods.listAt name) : Regular name d.binaryName := by
  rw [entry, Resolver.resolve_eq] at listed
  split at listed
  · simp [SortedMap.listAt, Resolver.bareEntry] at listed
  · next notEnum =>
    obtain ⟨b, hb, rfl, c, hc, rfl⟩ := exists_binding_of_mem_methods listed
    have declared : c.name = b.fieldName := by simpa using (List.mem_filter.mp hc).2
    have regular := h (Bool.eq_false_iff.mpr notEnum) b hb (List.ne_nil_of_mem hc)
    rwa [← declared] at regular

end Visit

namespace Extraction

variable {m : Module} {host : Host} {settings : ExtractionSettings} {now : Instant}

theorem exists_visit_of_stores {type : Option String} {name : String} {d : Method}
    (h : (ofModule m host settings now).registry.Stores type name d) :
    ∃ v ∈ Visit.ofModule settings m,
      d ∈ (v.entry (resolver m host settings)).methods.listAt name := by
  cases type with
  | none =>
    have listed : d ∈ (publishedScope m host settings).methods.listAt name := by
      rw [Registry.Stores, global_ofModule] at h
      exact h
    rw [publishedScope, GlobalScope.listAt_foldl_publish_methods] at listed
    have published := (List.mem_append.mp listed).resolve_left (by simp [SortedMap.listAt])
    obtain ⟨e, he, hd⟩ := List.mem_flatMap.mp published
    obtain ⟨v, hv, rfl⟩ := List.mem_map.mp he
    exact ⟨v, List.mem_of_mem_filter hv, hd⟩
  | some t =>
    obtain ⟨full, e, found, hd⟩ := h
    obtain ⟨he, -⟩ := ((files_ofModule m host settings now).entryAt t full e).mp found
    obtain ⟨v, hv, rfl⟩ := List.mem_map.mp he
    exact ⟨v, List.mem_of_mem_filter hv, hd⟩

variable {history : List Overrides}

/-- After merges a stored method is one that a visited type resolves to, or one that a merged set
has for methods without a receiver. -/
theorem origin_of_stores {type : Option String} {name : String} {d : Method}
    (h : ((ofModule m host settings now).registry.mergeAll history).Stores type name d) :
    (∃ v ∈ Visit.ofModule settings m,
        d ∈ (v.entry (resolver m host settings)).methods.listAt name) ∨
      type = none ∧ ∃ o ∈ history, d ∈ o.methodsAt name := by
  cases type with
  | none =>
    refine (Registry.mem_of_mem_mergeAll h).imp (fun extracted => ?_) fun merged => ⟨rfl, merged⟩
    have stored : (ofModule m host settings now).registry.Stores none name d := extracted
    exact exists_visit_of_stores stored
  | some t =>
    obtain ⟨full, e, found, hd⟩ := h
    rw [Registry.entryAt?, Registry.types_mergeAll] at found
    have stored : (ofModule m host settings now).registry.Stores (some t) name d :=
      ⟨full, e, found, hd⟩
    exact .inl (exists_visit_of_stores stored)

/-- A stored method is found by a name exactly if the rule for names leads from it to one that has
overloads. Where modules and sets name methods by the rule, each is found by both of its names, and
so is each of the standard set but for two binary names. -/
theorem stored_methods_found (m : Module) (host : Host) (settings : ExtractionSettings)
    (now : Instant) (history : List Overrides) :
    let r := (ofModule m host settings now).registry.mergeAll history
    (∀ type name d, r.Stores type name d →
      (r.knowsMethod type name = true ↔
        (startsUpper name = true → r.Lists type (toSnake name))) ∧
      (startsUpper d.binaryName = true →
        (r.knowsMethod type d.binaryName = true ↔ r.Lists type (toSnake d.binaryName)))) ∧
    ((∀ v ∈ Visit.ofModule settings m, v.RegularNames) →
      (∀ o ∈ history, o = .standard ∨ o.RegularNames) →
      ∀ type name d, r.Stores type name d →
        r.knowsMethod type name = true ∧
        (startsUpper d.binaryName = true → (type = none → d.binaryName ∉ Overrides.oddNames) →
          r.knowsMethod type d.binaryName = true)) := by
  intro r
  have form : r.WellFormed := (wellFormed_ofModule m host settings now).mergeAll history
  refine ⟨fun type name d stored => ⟨form.knowsMethod_logical_iff ⟨d, stored⟩,
    form.knowsMethod_binary_iff⟩, fun visits sets type name d stored => ?_⟩
  -- A method whose names follow the rule is found by itself.
  have ofRegular (regular : Regular name d.binaryName) : r.knowsMethod type name = true ∧
      (startsUpper d.binaryName = true → r.knowsMethod type d.binaryName = true) := by
    constructor
    · rw [form.knowsMethod_logical_iff ⟨d, stored⟩, regular.plain]
      simp
    · intro upper
      rw [form.knowsMethod_binary_iff upper, regular.readBack upper]
      exact ⟨d, stored⟩
  rcases origin_of_stores stored with ⟨v, hv, listed⟩ | ⟨rfl, o, ho, listed⟩
  · exact (ofRegular ((visits v hv).regular listed)).imp_right fun binary upper _ => binary upper
  · rcases sets o ho with rfl | regular
    · obtain ⟨plain, answered⟩ := Overrides.standard_answers listed
      refine ⟨?_, fun upper even => ?_⟩
      · rw [form.knowsMethod_logical_iff ⟨d, stored⟩, plain]
        simp
      · rw [form.knowsMethod_binary_iff upper]
        exact Registry.lists_mergeAll ho (answered upper (even rfl))
    · exact (ofRegular (regular name d listed)).imp_right fun binary upper _ => binary upper

theorem stored_methods_found_standard :
    let table : TypeInfo := {
      name := "MethodName"
      declaringType := some "Godot.Node"
      initializer := some (.instructions
        [.loadString "add_child", .storeStaticField "AddChild"]) }
    let node : TypeInfo := {
      name := "Node"
      namespaceName := "Godot"
      methods := [{ name := "AddChild", returnType := .void }]
      nestedTypes := [table] }
    let r := (ofModule { types := [node] } {} {} .epoch).registry.mergeAll [.standard]
    (∃ d, r.Stores (some "Node") "add_child" d ∧ d.binaryName = "AddChild" ∧
      r.knowsMethod (some "Node") "add_child" = true ∧
      r.knowsMethod (some "Node") "AddChild" = true) ∧
    (∃ d, r.Stores none "preload" d ∧ d.binaryName = "Load" ∧
      r.knowsMethod none "preload" = true ∧ r.knowsMethod none "Load" = true) ∧
    ∃ d, r.Stores none "randf_range" d ∧ d.binaryName = "RandRange" ∧
      r.knowsMethod none "randf_range" = true ∧ r.knowsMethod none "RandRange" = false := by
  intro table node r
  obtain ⟨-, found⟩ := stored_methods_found { types := [node] } {} {} .epoch [.standard]
  have visits : ∀ v ∈ Visit.ofModule {} { types := [node] }, v.RegularNames := by decide +kernel
  have named := found visits (by simp)
  obtain ⟨own, preload, randf, unknown⟩ :
      ((r.entryAt? "Node" "Godot.Node").map fun e =>
        (e.methods.listAt "add_child").map (·.binaryName)) = some ["AddChild"] ∧
      (r.global.methods.listAt "preload").map (·.binaryName) = ["Load"] ∧
      (r.global.methods.listAt "randf_range").map (·.binaryName) = ["RandRange"] ∧
      r.knowsMethod none "RandRange" = false := by
    decide +kernel
  refine ⟨?_, ?_, ?_⟩
  · obtain ⟨e, filed, names⟩ := Option.map_eq_some_iff.mp own
    obtain ⟨d, hd, binary⟩ : ∃ d ∈ e.methods.listAt "add_child", d.binaryName = "AddChild" :=
      List.mem_map.mp (names ▸ List.mem_cons_self)
    have stored : r.Stores (some "Node") "add_child" d := ⟨"Godot.Node", e, filed, hd⟩
    obtain ⟨byLogical, byBinary⟩ := named _ _ d stored
    rw [binary] at byBinary
    exact ⟨d, stored, binary, byLogical, byBinary (by decide) (by simp)⟩
  · obtain ⟨d, stored, binary⟩ : ∃ d, r.Stores none "preload" d ∧ d.binaryName = "Load" :=
      List.mem_map.mp (preload ▸ List.mem_cons_self)
    obtain ⟨byLogical, byBinary⟩ := named _ _ d stored
    rw [binary] at byBinary
    exact ⟨d, stored, binary, byLogical, byBinary (by decide) (by decide)⟩
  · obtain ⟨d, stored, binary⟩ : ∃ d, r.Stores none "randf_range" d ∧ d.binaryName = "RandRange" :=
      List.mem_map.mp (randf ▸ List.mem_cons_self)
    exact ⟨d, stored, binary, (named _ _ d stored).1, unknown⟩

end Extraction
end Concordance
