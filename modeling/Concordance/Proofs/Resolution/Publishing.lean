import Concordance.Proofs.Override.Merge
import Concordance.Resolution.Resolver
/-!
What publishing an entry does to the global scope, name by name. Overloads and enums go behind those
of their name, and an empty list of overloads leaves no trace.
-/
namespace Concordance

namespace SortedMap

/-- A table of lists with entries added behind those of a name, if there are any to add. -/
def appendAt (table : NameMap (List α)) (name : String) (xs : List α) : NameMap (List α) :=
  if xs.isEmpty then table else table.alter name fun old => old.getD [] ++ xs

def appendBinding (xs : List α) (found : Option (List α)) : Option (List α) :=
  if xs.isEmpty then found else some (found.getD [] ++ xs)

theorem get?_appendAt (table : NameMap (List α)) (name : String) (xs : List α) (n : String) :
    (table.appendAt name xs).get? n =
      if n = name then appendBinding xs (table.get? n) else table.get? n := by
  unfold appendAt appendBinding
  by_cases nothing : xs.isEmpty
  · simp [nothing]
  · rw [if_neg nothing, if_neg nothing, get?_alter]
    by_cases here : n = name
    · rw [if_pos here, if_pos here, here]
    · rw [if_neg here, if_neg here]

theorem getD_appendBinding (xs : List α) (found : Option (List α)) :
    (appendBinding xs found).getD [] = found.getD [] ++ xs := by
  unfold appendBinding
  split
  · next nothing => rw [List.isEmpty_iff.mp nothing, List.append_nil]
  · rfl

theorem listAt_appendAt (table : NameMap (List α)) (name : String) (xs : List α) (n : String) :
    (table.appendAt name xs).listAt n = table.listAt n ++ if n = name then xs else [] := by
  unfold listAt
  rw [get?_appendAt]
  split
  · exact getD_appendBinding xs _
  · rw [List.append_nil]

theorem appendBinding_ne_nil {found : Option (List α)} (kept : found ≠ some []) (xs : List α) :
    appendBinding xs found ≠ some [] := by
  unfold appendBinding
  split
  · exact kept
  · next some => simp_all

end SortedMap

open SortedMap

namespace GlobalScope

variable (g : GlobalScope)

theorem addOverloads_eq (name : String) (ms : List Method) :
    g.addOverloads name ms = { g with methods := g.methods.appendAt name ms } := by
  unfold addOverloads appendAt
  split <;> rfl

theorem foldl_addOverloads (es : List (String × List Method)) :
    es.foldl (fun g e => g.addOverloads e.1 e.2) g =
      { g with methods := es.foldl (fun table e => table.appendAt e.1 e.2) g.methods } := by
  induction es generalizing g with
  | nil => rfl
  | cons e es ih => rw [List.foldl_cons, ih, addOverloads_eq, List.foldl_cons]

variable (t : TypeEntry)

theorem publish_eq : g.publish t = { g with
    methods := t.methods.entries.foldl (fun table e => table.appendAt e.1 e.2) g.methods
    properties := g.properties.union t.properties
    constants := g.constants.union t.constants
    enums := t.enums.entries.foldl (fun table e => table.appendAt e.1 [e.2]) g.enums } := by
  unfold publish
  rw [foldl_addOverloads]
  rfl

@[simp] theorem enumsOfConstant_publish : (g.publish t).enumsOfConstant = g.enumsOfConstant := by
  rw [publish_eq]

theorem properties_publish : (g.publish t).properties = g.properties.union t.properties := by
  rw [publish_eq]

theorem constants_publish : (g.publish t).constants = g.constants.union t.constants := by
  rw [publish_eq]

@[simp] theorem types_publish : (g.publish t).types = g.types := by
  rw [publish_eq]

theorem get?_publish_methods (n : String) : (g.publish t).methods.get? n =
    (t.methods.get? n).elim (g.methods.get? n) fun ms => appendBinding ms (g.methods.get? n) := by
  rw [publish_eq]
  exact get?_foldl appendBinding (fun table e k => get?_appendAt table e.1 e.2 k) _ _ n

theorem get?_publish_enums (n : String) : (g.publish t).enums.get? n =
    (t.enums.get? n).elim (g.enums.get? n) fun e => appendBinding [e] (g.enums.get? n) := by
  rw [publish_eq]
  exact get?_foldl (fun e => appendBinding [e]) (fun table e k => get?_appendAt table e.1 [e.2] k)
    _ _ n

theorem listAt_publish_methods (n : String) :
    (g.publish t).methods.listAt n = g.methods.listAt n ++ t.methods.listAt n := by
  unfold listAt
  rw [get?_publish_methods]
  cases t.methods.get? n with
  | none => simp
  | some ms => exact getD_appendBinding ms _

theorem listAt_publish_enums (n : String) :
    (g.publish t).enums.listAt n = g.enums.listAt n ++ (t.enums.get? n).toList := by
  unfold listAt
  rw [get?_publish_enums]
  cases t.enums.get? n with
  | none => simp
  | some e => exact getD_appendBinding [e] _

variable {g}

theorem get?_publish_methods_ne_nil {n : String} (kept : g.methods.get? n ≠ some []) :
    (g.publish t).methods.get? n ≠ some [] := by
  rw [get?_publish_methods]
  cases t.methods.get? n with
  | none => exact kept
  | some ms => exact appendBinding_ne_nil kept ms

theorem get?_publish_enums_ne_nil {n : String} (kept : g.enums.get? n ≠ some []) :
    (g.publish t).enums.get? n ≠ some [] := by
  rw [get?_publish_enums]
  cases t.enums.get? n with
  | none => exact kept
  | some e => exact appendBinding_ne_nil kept [e]

section Entries

variable (g : GlobalScope) (ts : List TypeEntry) (n : String)

/-- The list of a name that grows with each entry has what each adds, in their order. -/
theorem listAt_foldl_publish (table : GlobalScope → NameMap (List α))
    (own : TypeEntry → List α)
    (published : ∀ g t, (table (publish g t)).listAt n = (table g).listAt n ++ own t) :
    (table (ts.foldl publish g)).listAt n = (table g).listAt n ++ ts.flatMap own := by
  induction ts generalizing g with
  | nil => simp
  | cons t ts ih => rw [List.foldl_cons, ih, published, List.flatMap_cons, List.append_assoc]

/-- What replaces its namesake is that of the last entry that has one. -/
theorem get?_foldl_publish (table : GlobalScope → NameMap α) (own : TypeEntry → NameMap α)
    (published : ∀ g t, table (publish g t) = (table g).union (own t)) :
    (table (ts.foldl publish g)).get? n =
      (ts.reverse.findSome? fun t => (own t).get? n).or ((table g).get? n) := by
  induction ts generalizing g with
  | nil => rfl
  | cons t ts ih =>
    rw [List.foldl_cons, ih, published, get?_union, List.reverse_cons, List.findSome?_append,
      List.findSome?_singleton, Option.or_assoc]

theorem contains_foldl_publish (table : GlobalScope → NameMap α) (own : TypeEntry → NameMap α)
    (published : ∀ g t, table (publish g t) = (table g).union (own t)) :
    (table (ts.foldl publish g)).contains n =
      ((table g).contains n || ts.any fun t => (own t).contains n) := by
  rw [contains, get?_foldl_publish g ts n table own published, Option.isSome_or,
    List.isSome_findSome?, List.any_reverse, Bool.or_comm]
  rfl

theorem listAt_foldl_publish_methods : (ts.foldl publish g).methods.listAt n =
    g.methods.listAt n ++ ts.flatMap (·.methods.listAt n) :=
  listAt_foldl_publish g ts n (·.methods) _ fun g t => g.listAt_publish_methods t n

theorem listAt_foldl_publish_enums : (ts.foldl publish g).enums.listAt n =
    g.enums.listAt n ++ ts.flatMap fun t => (t.enums.get? n).toList :=
  listAt_foldl_publish g ts n (·.enums) _ fun g t => g.listAt_publish_enums t n

theorem get?_foldl_publish_properties : (ts.foldl publish g).properties.get? n =
    (ts.reverse.findSome? (·.properties.get? n)).or (g.properties.get? n) :=
  get?_foldl_publish g ts n (·.properties) _ properties_publish

theorem get?_foldl_publish_constants : (ts.foldl publish g).constants.get? n =
    (ts.reverse.findSome? (·.constants.get? n)).or (g.constants.get? n) :=
  get?_foldl_publish g ts n (·.constants) _ constants_publish

theorem contains_foldl_publish_properties : (ts.foldl publish g).properties.contains n =
    (g.properties.contains n || ts.any (·.properties.contains n)) :=
  contains_foldl_publish g ts n (·.properties) _ properties_publish

theorem contains_foldl_publish_constants : (ts.foldl publish g).constants.contains n =
    (g.constants.contains n || ts.any (·.constants.contains n)) :=
  contains_foldl_publish g ts n (·.constants) _ constants_publish

theorem types_foldl_publish : (ts.foldl publish g).types = g.types := by
  induction ts generalizing g with
  | nil => rfl
  | cons t ts ih => rw [List.foldl_cons, ih, types_publish]

end Entries

end GlobalScope

end Concordance
