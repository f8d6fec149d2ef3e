import Concordance.Proofs.Json.Layout
/-!
Laws of records that are told apart by a tag. The members are kept until the tag is known and then
fill the fields of its variant. All that is written for such a record here are texts.
-/
namespace Concordance.Json

mutual

theorem skim_node : ∀ j : Json, j.node.skim = .ok ()
  | .null | .bool _ | .int _ | .string _ => rfl
  | .array items => by
    rw [node, Node.skim, skimItems_nodeItems items]
    rfl
  | .object members => by
    rw [node, Node.skim, skimMembers_nodeMembers members]
    rfl

theorem skimItems_nodeItems : ∀ js : List Json, skimItems (nodeItems js) = .ok ()
  | [] => rfl
  | j :: js => by
    rw [nodeItems, skimItems, skim_node j]
    exact skimItems_nodeItems js

theorem skimMembers_nodeMembers :
    ∀ ms : List (String × Json), skimMembers (nodeMembers ms) = .ok ()
  | [] => rfl
  | (k, j) :: ms => by
    rw [nodeMembers, skimMembers]
    simp only [QuotedText.ofString, skim_node j]
    exact skimMembers_nodeMembers ms

end

namespace Tagged

variable {l : Layout δ ρ} {pack : ρ → α}

def keptMembers (ms : List (String × Json)) : List (String × Node) := ms.map fun m => (m.1, m.2.node)

/-- Members that were kept fill the fields as they would have at once. -/
theorem fromMembers_kept (depth : Nat) (ms : List (String × Json)) :
    fromMembers l pack depth (keptMembers ms) =
      (l.fill depth l.start (nodeMembers ms) >>= l.finish).map pack := by
  have filled (draft : δ) : fromMembers.go l depth draft (keptMembers ms) =
      l.fill depth draft (nodeMembers ms) := by
    induction ms generalizing draft with
    | nil => rfl
    | cons m ms ih =>
      simp only [keptMembers, List.map_cons, fromMembers.go, nodeMembers, Layout.fill, Node.key,
        QuotedText.ofString, skim_node, bind, Except.bind]
      cases l.put m.1 depth m.2.node draft with
      | none => exact ih draft
      | some r => cases r with
        | error e => rfl
        | ok draft => exact ih draft
  unfold fromMembers
  rw [filled]
  cases l.fill depth l.start (nodeMembers ms) with
  | error e => rfl
  | ok draft => cases l.finish draft <;> rfl

/-- Once the variant is known, texts under other names are kept. -/
theorem collect_texts {t : Tagged α} {depth : Nat} {ms : List (String × Json)}
    (texts : ∀ m ∈ ms, m.1 ≠ t.tag ∧ ∃ s, m.2 = .string s)
    (found : Option ((List (String × Node) → Except Fault α) × (List Node → Except Fault α))) :
    t.collect depth found (nodeMembers ms) = .ok (found, keptMembers ms) := by
  induction ms with
  | nil => rfl
  | cons m ms ih =>
    obtain ⟨name, j⟩ := m
    obtain ⟨other, s, text⟩ := texts (name, j) List.mem_cons_self
    have rest := ih fun m hm => texts m (List.mem_cons_of_mem _ hm)
    dsimp only at other text
    subst text
    simp [nodeMembers, collect, Node.key, QuotedText.ofString, other, node, Node.readAny, rest,
      keptMembers, bind, Except.bind, pure, Except.pure]

theorem reads_object {t : Tagged α} {name : String} {p : ρ}
    (variant : t.cases.lookup name = some (case name l pack).2)
    (texts : ∀ m ∈ l.members p, m.1 ≠ t.tag ∧ ∃ s, m.2 = .string s)
    (read : l.Reads maxDepth p) (depth : Nat) :
    t.decode.Reads depth (.object ((t.tag, .string name) :: l.members p)) (pack p) := by
  have flat : depthMembers (l.members p) = 0 := by
    rw [← Nat.le_zero, depthMembers_le_iff]
    intro m hm
    obtain ⟨-, s, text⟩ := texts m hm
    rw [text, Json.depth]
  cases depth with
  | zero => simp [Decoder.Reads, decode, node, Json.depth]
  | succ k =>
    obtain ⟨draft, finish, fill⟩ := read.fills
    have built : (case name l pack).2.1 (keptMembers (l.members p)) = .ok (pack p) := by
      refine (fromMembers_kept maxDepth (l.members p)).trans ?_
      rw [fill, if_pos (by omega)]
      simp [bind, Except.bind, finish, Except.map]
    have kept : t.collect k _ (nodeMembers (l.members p)) = .ok (some (case name l pack).2, _) :=
      collect_texts texts _
    simp [Decoder.Reads, decode, collect, node, nodeMembers, Node.key, QuotedText.ofString,
      Decoder.string, find, variant, kept, built, Json.depth, depthMembers, flat, Ending.check,
      Ending.stop?, bind, Except.bind]

end Tagged
end Concordance.Json
