import Concordance.Proofs.Resolution.Accounting
/-!
Account of the constants of a type. What an enum of the host owns is taken out first, whether or not
the enum could be paired, so no constant goes by the name of a member. What is left is paired with
the literal fields, position by position, if the two count alike; else the type has no constants and
is recorded once.
-/
namespace Concordance

/-- The constant is one of an enum that the host lists for the type. -/
def Host.EnumOwned (h : Host) (type constant : String) : Prop :=
  ∃ enum ∈ h.enumNames type, constant ∈ h.enumConstants type enum

instance (h : Host) (type constant : String) : Decidable (h.EnumOwned type constant) :=
  inferInstanceAs (Decidable (∃ enum ∈ h.enumNames type, _))

def Compiled.Literal.asConstant (l : Compiled.Literal) (name declaring : String) : Constant :=
  ⟨name, l.name, l.type.fullName, declaring, l.value⟩

namespace Resolution

open Compiled (TypeInfo Literal)

/-- In the last of the pairs that `name` is in, it stands beside `l`. -/
def LastPair (names : List String) (literals : List Literal) (name : String) (l : Literal) : Prop :=
  ∃ front back, names.zip literals = front ++ (name, l) :: back ∧ ∀ p ∈ back, p.1 ≠ name

/-- The map is what the names and the literal fields of the type make, pair by pair. -/
structure MadeOfPairs (names : List String) (t : TypeInfo) (cs : NameMap Constant) : Prop where
  get?_iff (name : String) (c : Constant) : cs.get? name = some c ↔
    ∃ l, LastPair names t.literals name l ∧ c = l.asConstant name t.fullName
  mem_keys (name : String) : name ∈ cs.keys ↔ name ∈ names
  /-- Where no name comes twice, no pair is lost. -/
  inOrder (distinct : names.Nodup) : cs.keys.Perm names ∧
    List.Forall₂ (fun name l => cs.get? name = some (l.asConstant name t.fullName))
      names t.literals

section Pairs

variable {host : Host} {t : TypeInfo} {logicalName : String} {names : List String}

theorem looseConstants_eq (host : Host) (logicalName : String) : looseConstants host logicalName =
    (host.integerConstants logicalName).filter fun c => ¬host.EnumOwned logicalName c := by
  simp [looseConstants, Host.EnumOwned]

theorem mem_looseConstants {c : String} : c ∈ looseConstants host logicalName ↔
    c ∈ host.integerConstants logicalName ∧ ¬host.EnumOwned logicalName c := by
  rw [looseConstants_eq, List.mem_filter, decide_eq_true_eq]

def literalPairs (names : List String) (t : TypeInfo) : List (String × Constant) :=
  (names.zip t.literals).map fun p => (p.1, p.2.asConstant p.1 t.fullName)

theorem map_fst_literalPairs (same : names.length = t.literals.length) :
    (literalPairs names t).map (·.1) = names := by
  rw [literalPairs, List.map_map]
  exact List.map_fst_zip (Nat.le_of_eq same)

theorem constants?_eq_ite : constants? host t logicalName =
    if (looseConstants host logicalName).length = t.literals.length then
      some (.ofList (literalPairs (looseConstants host logicalName) t)) else none := by
  rw [literalPairs, List.map_zip_eq_zipWith]
  rfl

theorem get?_literalPairs {name : String} {c : Constant} :
    (SortedMap.ofList (literalPairs names t)).get? name = some c ↔
      ∃ l, LastPair names t.literals name l ∧ c = l.asConstant name t.fullName := by
  rw [SortedMap.get?_ofList_eq_some_iff_append]
  constructor
  · rintro ⟨_, _, parts, other⟩
    obtain ⟨front, rest, zipped, rfl, behind⟩ := List.map_eq_append_iff.mp parts
    obtain ⟨⟨n, l⟩, back, rfl, pair, rfl⟩ := List.map_eq_cons_iff.mp behind
    obtain ⟨rfl, rfl⟩ := Prod.mk.inj pair
    exact ⟨l, ⟨front, back, zipped, fun p hp => other _ (List.mem_map_of_mem hp)⟩, rfl⟩
  · rintro ⟨l, ⟨front, back, zipped, other⟩, rfl⟩
    refine ⟨_, _, by rw [literalPairs, zipped, List.map_append, List.map_cons], ?_⟩
    intro e he
    obtain ⟨p, hp, rfl⟩ := List.mem_map.mp he
    exact other p hp

theorem madeOfPairs (same : names.length = t.literals.length) :
    MadeOfPairs names t (.ofList (literalPairs names t)) := by
  have keys (name : String) : name ∈ (SortedMap.ofList (literalPairs names t)).keys ↔
      name ∈ names := by
    rw [SortedMap.mem_keys_iff, SortedMap.contains_ofList, ← List.mem_map,
      map_fst_literalPairs same]
  refine ⟨fun _ _ => get?_literalPairs, keys, fun distinct => ⟨?_, ?_⟩⟩
  · exact (List.perm_ext_iff_of_nodup (SortedMap.nodup_keys _) distinct).mpr keys
  · refine List.forall₂_iff_zip.mpr ⟨same, fun pair => ?_⟩
    rw [← map_fst_literalPairs same] at distinct
    exact (SortedMap.get?_ofList_eq_some distinct).mpr (List.mem_map_of_mem pair)

theorem enumOwned_of_get?_enums {settings : ExtractionSettings} {name : String} {d : EnumType}
    (kept : (enums (enumOutcomes host settings t logicalName)).get? name = some d)
    {m : EnumMember} (hm : m ∈ d.members) : host.EnumOwned logicalName m.logicalName := by
  obtain ⟨listed, outcome⟩ := outcome_of_get?_enums kept
  obtain ⟨b, -, paired⟩ := enum?_enumOutcome.mp outcome
  refine ⟨name, listed, ?_⟩
  rw [← (pairing?_eq_some_iff.mp paired).constants]
  exact List.mem_map_of_mem hm

end Pairs

section Left

variable {r : Resolver} {t : TypeInfo} {logicalName : String}

def leftOfEnums (r : Resolver) (t : TypeInfo) (logicalName : String) : List Unresolved :=
  (r.host.enumNames logicalName).filterMap fun name =>
    (enumOutcome r.host r.settings t logicalName name).unresolved?

theorem exists_of_mismatch_mem_leftOfEnums {logical full : String}
    (left : .constantsMismatch logical full ∈ leftOfEnums r t logicalName) :
    ∃ b ∈ t.nestedTypes, b.isEnum = true ∧ b.fullName = full := by
  obtain ⟨name, -, outcome⟩ := List.mem_filterMap.mp left
  obtain ⟨-, b, found, same, -⟩ := unresolved?_enumOutcome.mp outcome
  obtain ⟨nested, isEnum⟩ := List.mem_filter.mp (mem_of_nestedEnum? found)
  exact ⟨b, nested, isEnum, same⟩

end Left

section Resolve

variable (r : Resolver) {t : TypeInfo} (notEnum : t.isEnum = false) (logicalName : String)

include notEnum

theorem constants_resolve : (r.resolve t logicalName).1.constants =
    (constants? r.host t logicalName).getD .empty := by
  simp [Resolver.resolve_eq, notEnum]

theorem unresolved_eq_leftOfEnums_append : (r.resolve t logicalName).2 =
    leftOfEnums r t logicalName ++
      if (looseConstants r.host logicalName).length = t.literals.length then []
      else [.constantsMismatch logicalName t.fullName] := by
  rw [unresolved_resolve r notEnum, constants?_eq_ite, leftOfEnums, List.filterMap_map]
  split <;> rfl

variable {r logicalName}

theorem madeOfPairs_resolve
    (same : (looseConstants r.host logicalName).length = t.literals.length) :
    MadeOfPairs (looseConstants r.host logicalName) t (r.resolve t logicalName).1.constants := by
  rw [constants_resolve r notEnum, constants?_eq_ite, if_pos same]
  exact madeOfPairs same

theorem constants_resolve_eq_empty
    (differs : (looseConstants r.host logicalName).length ≠ t.literals.length) :
    (r.resolve t logicalName).1.constants = .empty := by
  rw [constants_resolve r notEnum, constants?_eq_ite, if_neg differs]
  rfl

theorem not_enumOwned_of_mem_keys {name : String}
    (key : name ∈ (r.resolve t logicalName).1.constants.keys) :
    ¬r.host.EnumOwned logicalName name := by
  by_cases same : (looseConstants r.host logicalName).length = t.literals.length
  · exact (mem_looseConstants.mp (((madeOfPairs_resolve notEnum same).mem_keys name).mp key)).2
  · rw [constants_resolve_eq_empty notEnum same] at key
    cases key

end Resolve

/-- Either the constants that no enum owns are paired with all literal fields, or the type has no
constants and that is recorded, once and for the type itself. A member of an enum is never among
them, and the host lists no constant that is lost without a record. -/
theorem constants_all_or_nothing (r : Resolver) (t : TypeInfo) (logicalName : String)
    (before : Tracker) (notEnum : t.isEnum = false) :
    let entry := (r.resolve t logicalName).1
    let listed := r.host.integerConstants logicalName
    let loose := listed.filter fun c => ¬r.host.EnumOwned logicalName c
    let mismatch := Unresolved.constantsMismatch logicalName t.fullName
    ∃ own, (before.add (r.resolve t logicalName).2).entries =
        before.entries ++ (leftOfEnums r t logicalName ++ own) ∧
      (loose.length ≠ t.literals.length → entry.constants = .empty ∧ own = [mismatch]) ∧
      (loose.length = t.literals.length → MadeOfPairs loose t entry.constants ∧ own = []) ∧
      (∀ logical full, .constantsMismatch logical full ∈ leftOfEnums r t logicalName →
        ∃ b ∈ t.nestedTypes, b.isEnum = true ∧ b.fullName = full) ∧
      ((∀ b ∈ t.nestedTypes, b.isEnum = true → b.fullName ≠ t.fullName) →
        (r.resolve t logicalName).2.count mismatch = own.length) ∧
      (∀ name d, entry.enums.get? name = some d →
        ∀ m ∈ d.members, m.logicalName ∉ entry.constants.keys) ∧
      ∀ c ∈ listed, r.host.EnumOwned logicalName c ∨ c ∈ entry.constants.keys ∨
        own = [mismatch] := by
  intro entry listed loose mismatch
  have ofLoose : looseConstants r.host logicalName = loose := looseConstants_eq r.host logicalName
  have recorded := unresolved_eq_leftOfEnums_append r notEnum logicalName
  rw [ofLoose] at recorded
  refine ⟨_, congrArg (before.entries ++ ·) recorded, fun differs => ⟨?_, if_neg differs⟩,
    fun same => ⟨?_, if_pos same⟩, fun _ _ => exists_of_mismatch_mem_leftOfEnums, fun apart => ?_,
    fun name d kept m hm key => ?_, fun c hc => ?_⟩
  · exact constants_resolve_eq_empty notEnum (ofLoose ▸ differs)
  · exact ofLoose ▸ madeOfPairs_resolve notEnum (ofLoose ▸ same)
  · have others : (leftOfEnums r t logicalName).count mismatch = 0 := by
      rw [List.count_eq_zero]
      intro left
      obtain ⟨b, nested, isEnum, same⟩ := exists_of_mismatch_mem_leftOfEnums left
      exact apart b nested isEnum same
    rw [recorded, List.count_append, others]
    split <;> simp [mismatch]
  · rw [show entry.enums = _ from enums_resolve r notEnum logicalName] at kept
    exact not_enumOwned_of_mem_keys notEnum key (enumOwned_of_get?_enums kept hm)
  · by_cases owned : r.host.EnumOwned logicalName c
    · exact .inl owned
    by_cases same : loose.length = t.literals.length
    · have made := madeOfPairs_resolve notEnum (ofLoose ▸ same)
      exact .inr (.inl ((made.mem_keys c).mpr (mem_looseConstants.mpr ⟨hc, owned⟩)))
    · exact .inr (.inr (if_neg same))

theorem constants_all_or_nothing_repeated :
    let mode : TypeInfo := { name := "Mode", declaringType := some "Node", isEnum := true }
    let node (literals : List Literal) : TypeInfo :=
      { name := "Node", nestedTypes := [mode], literals }
    let low : Literal := ⟨"Low", .ofFullName "System.Int64", "1"⟩
    let high : Literal := ⟨"High", .ofFullName "System.Int32", "9"⟩
    let least : Literal := ⟨"Least", .ofFullName "System.Int64", "0"⟩
    let host : Host := { classes := .ofList [("Node", {
      enums := [⟨"Mode", ["ON"]⟩]
      integerConstants := ["MIN", "ON", "MAX", "MIN"] })] }
    let all := Resolver.resolve { host } (node [low, high, least]) "Node"
    let few := Resolver.resolve { host } (node [low, high]) "Node"
    all.1.constants.entries = [("MAX", high.asConstant "MAX" "Node"),
        ("MIN", least.asConstant "MIN" "Node")] ∧
      all.2 = [.constantsMismatch "Node" "Node+Mode"] ∧
      MadeOfPairs ["MIN", "MAX", "MIN"] (node [low, high, least]) all.1.constants ∧
      few.1.constants = .empty ∧ few.2.count (.constantsMismatch "Node" "Node") = 1 := by
  intro mode node low high least host all few
  have loose : ((host.integerConstants "Node").filter fun c => ¬host.EnumOwned "Node" c) =
      ["MIN", "MAX", "MIN"] := by decide +kernel
  obtain ⟨_, -, -, paired, -⟩ :=
    constants_all_or_nothing { host } (node [low, high, least]) "Node" {} rfl
  obtain ⟨own, -, dropped, -, -, once, -⟩ :=
    constants_all_or_nothing { host } (node [low, high]) "Node" {} rfl
  have differs : (((host.integerConstants "Node").filter fun c =>
      ¬host.EnumOwned "Node" c)).length ≠ [low, high].length := by
    rw [loose]
    decide
  obtain ⟨none, mismatch⟩ := dropped differs
  have apart : ∀ b ∈ [mode], b.isEnum = true → b.fullName ≠ "Node" := by decide +kernel
  refine ⟨by decide +kernel, by decide +kernel, ?_, none, ?_⟩
  · exact loose ▸ (paired (by rw [loose]; rfl)).1
  · exact (once apart).trans (by rw [mismatch]; rfl)

end Resolution
end Concordance
