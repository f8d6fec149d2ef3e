import Concordance.Json.Node
import Concordance.Json.Printer
import Concordance.Proofs.Json.Numeral
import Concordance.Proofs.Json.Quoted
/-!
Scanning of written values. The compact text of a value scans to the tree of the value without any
fault in it; readers can then be judged by what they make of that tree.
-/
namespace Concordance.Json

mutual

def depth : Json → Nat
  | .null | .bool _ | .int _ | .string _ => 0
  | .array items => depthItems items + 1
  | .object members => depthMembers members + 1

def depthItems : List Json → Nat
  | [] => 0
  | j :: js => max j.depth (depthItems js)

def depthMembers : List (String × Json) → Nat
  | [] => 0
  | (_, j) :: ms => max j.depth (depthMembers ms)

end

def QuotedText.ofString (s : String) : QuotedText where
  value := .ok s
  skimmed := none
  token := readToken (Quoted.escapeAll s.toList ++ ['"'])

mutual

/-- The tree that the text of a value scans to. -/
def node : Json → Node
  | .null => .null
  | .bool b => .bool b
  | .int n => .number (Numeral.ofInt n)
  | .string s => .string (QuotedText.ofString s)
  | .array items => .array (nodeItems items) .closed
  | .object members => .object (nodeMembers members) .closed

def nodeItems : List Json → List Node
  | [] => []
  | j :: js => j.node :: nodeItems js

def nodeMembers : List (String × Json) → List (Node × Node)
  | [] => []
  | (k, j) :: ms => (.string (QuotedText.ofString k), j.node) :: nodeMembers ms

end

@[simp] theorem nodeItems_map (f : α → Json) (as : List α) :
    nodeItems (as.map f) = as.map fun a => (f a).node := by
  induction as with
  | nil => rfl
  | cons a as ih => simp [nodeItems, ih]

theorem nodeMembers_append (ms ns : List (String × Json)) :
    nodeMembers (ms ++ ns) = nodeMembers ms ++ nodeMembers ns := by
  induction ms with
  | nil => rfl
  | cons m ms ih => simp [nodeMembers, ih]

theorem depthMembers_append (ms ns : List (String × Json)) :
    depthMembers (ms ++ ns) = max (depthMembers ms) (depthMembers ns) := by
  induction ms with
  | nil => simp [depthMembers]
  | cons m ms ih => simp [depthMembers, ih, Nat.max_assoc]

theorem depthItems_le_iff {js : List Json} {n : Nat} :
    depthItems js ≤ n ↔ ∀ j ∈ js, j.depth ≤ n := by
  induction js with
  | nil => simp [depthItems]
  | cons j js ih => rw [depthItems, Nat.max_le, ih, List.forall_mem_cons]

theorem depthMembers_le_iff {ms : List (String × Json)} {n : Nat} :
    depthMembers ms ≤ n ↔ ∀ m ∈ ms, m.2.depth ≤ n := by
  induction ms with
  | nil => simp [depthMembers]
  | cons m ms ih => rw [depthMembers, Nat.max_le, ih, List.forall_mem_cons]

section Strings

/-- Whether a token is read does not depend on the text behind the closing quote. -/
theorem readToken_inside (front rest : List Char) :
    readToken (front ++ '"' :: rest) = readToken (front ++ ['"']) := by
  match front with
  | [] => rfl
  | c :: front =>
    simp only [readToken, List.cons_append]
    rcases Numeral.staysInside_read (c :: front) with ⟨e, h⟩ | ⟨n, front', h⟩
    · simp only [← List.cons_append, h]
    · simp only [← List.cons_append, h]
      cases front' <;> rfl

theorem scanQuoted_escapeAll (s : String) (rest : List Char) :
    scanQuoted (Quoted.escapeAll s.toList ++ '"' :: rest) =
      (.string (QuotedText.ofString s), some rest) := by
  simp [scanQuoted, Quoted.skim_escapeAll, Quoted.read_escapeAll, readToken_inside _ rest,
    QuotedText.ofString, Except.map]

end Strings

section Heads

theorem skipSpace_cons {c : Char} (h : isSpace c = false) (r : List Char) :
    skipSpace (c :: r) = c :: r := by
  simp [skipSpace, h]

private theorem exists_head_renderInt (n : Int) :
    ∃ c r, Numeral.renderInt n = c :: r ∧ (c = '-' ∨ c.isDigit = true) := by
  unfold Numeral.renderInt
  split
  · exact ⟨'-', _, rfl, .inl rfl⟩
  · obtain ⟨c, r, h⟩ := List.exists_cons_of_ne_nil (Numeral.digits_ne_nil n.natAbs)
    exact ⟨c, r, h, .inr (Numeral.isDigit_of_mem_digits (n := n.natAbs) (by simp [h]))⟩

private theorem ne_of_numeral {c d : Char} (h : c = '-' ∨ c.isDigit = true) (minus : d ≠ '-')
    (digit : d.isDigit = false) : c ≠ d := by
  rintro rfl
  rcases h with h | h
  · exact minus h
  · simp [digit] at h

theorem exists_head_render (j : Json) :
    ∃ c r, j.render = c :: r ∧ isSpace c = false ∧ c ≠ ']' ∧ c ≠ '}' := by
  match j with
  | .null => exact ⟨'n', _, rfl, by decide⟩
  | .bool true => exact ⟨'t', _, rfl, by decide⟩
  | .bool false => exact ⟨'f', _, rfl, by decide⟩
  | .string s => exact ⟨'"', _, rfl, by decide⟩
  | .array items => exact ⟨'[', _, by rw [render], by decide⟩
  | .object members => exact ⟨'{', _, by rw [render], by decide⟩
  | .int n =>
    obtain ⟨c, r, h, start⟩ := exists_head_renderInt n
    refine ⟨c, r, by rw [render, h], ?_, ?_, ?_⟩
    · simp [isSpace, ne_of_numeral start (d := ' ') (by decide) (by decide),
        ne_of_numeral start (d := '\n') (by decide) (by decide),
        ne_of_numeral start (d := '\t') (by decide) (by decide),
        ne_of_numeral start (d := '\r') (by decide) (by decide)]
    · exact ne_of_numeral start (by decide) (by decide)
    · exact ne_of_numeral start (by decide) (by decide)

theorem length_render_pos (j : Json) : 0 < j.render.length := by
  obtain ⟨c, r, h, -⟩ := exists_head_render j
  simp [h]

theorem skipSpace_render (j : Json) (rest : List Char) :
    skipSpace (j.render ++ rest) = j.render ++ rest := by
  obtain ⟨c, r, h, space, -⟩ := exists_head_render j
  rw [h, List.cons_append, skipSpace_cons space]

end Heads

section Scanning

theorem scanValue_string (s : String) (fuel : Nat) (rest : List Char) :
    scanValue (fuel + 1) (Quoted.render s ++ rest) =
      (.string (QuotedText.ofString s), some rest) := by
  rw [scanValue, Quoted.render, List.cons_append, List.cons_append, skipSpace_cons (by decide)]
  simp [scanQuoted_escapeAll]

theorem scanValue_int (n : Int) (fuel : Nat) {rest : List Char} (stop : Numeral.StopsAt rest) :
    scanValue (fuel + 1) (Numeral.renderInt n ++ rest) =
      (.number (Numeral.ofInt n), some rest) := by
  have scanned := Numeral.read_renderInt n stop
  have skipped := skipSpace_render (.int n) rest
  obtain ⟨c, r, h, start⟩ := exists_head_renderInt n
  rw [render] at skipped
  rw [scanValue, skipped]
  simp only [h, List.cons_append] at scanned ⊢
  rw [if_neg (ne_of_numeral start (by decide) (by decide)),
    if_neg (ne_of_numeral start (by decide) (by decide)),
    if_neg (ne_of_numeral start (by decide) (by decide)),
    if_neg (ne_of_numeral start (by decide) (by decide)), if_pos (by simpa using start),
    scanNumber, scanned]

private theorem stopsAt_moreItems (js : List Json) (rest : List Char) :
    Numeral.StopsAt (renderMoreItems js ++ rest) := by
  cases js <;> exact Numeral.stopsAt_cons (by decide)

private theorem stopsAt_moreMembers (ms : List (String × Json)) (rest : List Char) :
    Numeral.StopsAt (renderMoreMembers ms ++ rest) := by
  rcases ms with _ | ⟨⟨k, j⟩, ms⟩ <;> exact Numeral.stopsAt_cons (by decide)

mutual

/-- Three steps of scanning for each character are enough. -/
theorem scanValue_render : ∀ (j : Json) (fuel : Nat) (rest : List Char),
    3 * j.render.length ≤ fuel → Numeral.StopsAt rest →
    scanValue fuel (j.render ++ rest) = (j.node, some rest)
  | j, 0, rest, enough, _ => by
    obtain ⟨c, r, h, -⟩ := exists_head_render j
    simp [h] at enough
  | .null, fuel + 1, rest, _, _ => by
    simp [render, scanValue, skipSpace_cons, isSpace, scanWord, node]
  | .bool true, fuel + 1, rest, _, _ => by
    simp [render, scanValue, skipSpace_cons, isSpace, scanWord, node]
  | .bool false, fuel + 1, rest, _, _ => by
    simp [render, scanValue, skipSpace_cons, isSpace, scanWord, node]
  | .int n, fuel + 1, rest, _, stop => by
    rw [render, node, scanValue_int n fuel stop]
  | .string s, fuel + 1, rest, _, _ => by
    rw [render, node, scanValue_string]
  | .array items, fuel + 1, rest, enough, _ => by
    simp only [render, List.length_cons] at enough
    have scanned := scanItems_renderItems items fuel rest (by omega)
    rw [scanValue, render, List.cons_append, skipSpace_cons (by decide)]
    simp [scanned, node]
  | .object members, fuel + 1, rest, enough, _ => by
    simp only [render, List.length_cons] at enough
    have scanned := scanMembers_renderMembers members fuel rest (by omega)
    rw [scanValue, render, List.cons_append, skipSpace_cons (by decide)]
    simp [scanned, node]

theorem scanItems_renderItems : ∀ (js : List Json) (fuel : Nat) (rest : List Char),
    3 * (renderItems js).length ≤ fuel →
    scanItems fuel true (renderItems js ++ rest) = (nodeItems js, .closed, some rest)
  | [], 0, rest, enough => by simp [renderItems] at enough
  | [], fuel + 1, rest, _ => by
    rw [renderItems, scanItems, List.singleton_append, skipSpace_cons (by decide)]
    simp [nodeItems]
  | j :: js, 0, rest, enough => by
    have := length_render_pos j
    simp only [renderItems, List.length_append] at enough
    omega
  | j :: js, fuel + 1, rest, enough => by
    simp only [renderItems, List.length_append] at enough
    have scanned := scanItem_render j js fuel rest (by omega)
    obtain ⟨c, r, h, space, bracket, -⟩ := exists_head_render j
    rw [renderItems, scanItems, List.append_assoc, skipSpace_render]
    simpa [h, bracket, nodeItems] using scanned

theorem scanItem_render : ∀ (j : Json) (js : List Json) (fuel : Nat) (rest : List Char),
    3 * (j.render.length + (renderMoreItems js).length) ≤ fuel + 1 →
    scanItem fuel (j.render ++ (renderMoreItems js ++ rest)) =
      (j.node :: nodeItems js, .closed, some rest)
  | j, js, 0, rest, enough => by
    have := length_render_pos j
    omega
  | j, js, fuel + 1, rest, enough => by
    have := length_render_pos j
    have : 1 ≤ (renderMoreItems js).length := by cases js <;> simp [renderMoreItems]
    have value := scanValue_render j fuel (renderMoreItems js ++ rest) (by omega)
      (stopsAt_moreItems js rest)
    have others := scanItems_renderMoreItems js fuel rest (by omega)
    rw [scanItem, value]
    simp [others]

theorem scanItems_renderMoreItems : ∀ (js : List Json) (fuel : Nat) (rest : List Char),
    3 * (renderMoreItems js).length ≤ fuel →
    scanItems fuel false (renderMoreItems js ++ rest) = (nodeItems js, .closed, some rest)
  | [], 0, rest, enough => by simp [renderMoreItems] at enough
  | [], fuel + 1, rest, _ => by
    rw [renderMoreItems, scanItems, List.singleton_append, skipSpace_cons (by decide)]
    simp [nodeItems]
  | j :: js, 0, rest, enough => by simp [renderMoreItems] at enough
  | j :: js, fuel + 1, rest, enough => by
    simp only [renderMoreItems, List.length_cons, List.length_append] at enough
    have scanned := scanItem_render j js fuel rest (by omega)
    obtain ⟨c, r, h, space, bracket, -⟩ := exists_head_render j
    rw [renderMoreItems, scanItems, List.cons_append, skipSpace_cons (by decide),
      List.append_assoc]
    simpa [h, skipSpace_cons space, bracket, nodeItems] using scanned

theorem scanMembers_renderMembers : ∀ (ms : List (String × Json)) (fuel : Nat) (rest : List Char),
    3 * (renderMembers ms).length ≤ fuel →
    scanMembers fuel true (renderMembers ms ++ rest) = (nodeMembers ms, .closed, some rest)
  | [], 0, rest, enough => by simp [renderMembers] at enough
  | [], fuel + 1, rest, _ => by
    rw [renderMembers, scanMembers, List.singleton_append, skipSpace_cons (by decide)]
    simp [nodeMembers]
  | (k, j) :: ms, 0, rest, enough => by simp [renderMembers] at enough
  | (k, j) :: ms, fuel + 1, rest, enough => by
    simp only [renderMembers, List.length_cons, List.length_append] at enough
    have scanned := scanMember_render k j ms fuel rest (by omega)
    rw [renderMembers, scanMembers]
    simp only [Quoted.render, List.cons_append, List.append_assoc] at scanned ⊢
    rw [skipSpace_cons (by decide)]
    simpa [nodeMembers] using scanned

theorem scanMember_render : ∀ (k : String) (j : Json) (ms : List (String × Json)) (fuel : Nat)
    (rest : List Char),
    3 * ((Quoted.render k).length + j.render.length + (renderMoreMembers ms).length) ≤ fuel + 1 →
    scanMember fuel (Quoted.render k ++ ':' :: (j.render ++ (renderMoreMembers ms ++ rest))) =
      ((.string (QuotedText.ofString k), j.node) :: nodeMembers ms, .closed, some rest)
  | k, j, ms, 0, rest, enough => by
    have := length_render_pos j
    omega
  | k, j, ms, 1, rest, enough => by
    have := length_render_pos j
    omega
  | k, j, ms, fuel + 2, rest, enough => by
    have := length_render_pos j
    have : 1 ≤ (renderMoreMembers ms).length := by
      rcases ms with _ | ⟨⟨k, j⟩, ms⟩ <;> simp [renderMoreMembers]
    have value := scanValue_render j (fuel + 1) (renderMoreMembers ms ++ rest) (by omega)
      (stopsAt_moreMembers ms rest)
    have others := scanMembers_renderMoreMembers ms (fuel + 1) rest (by omega)
    rw [scanMember, scanValue_string]
    simp only []
    rw [skipSpace_cons (by decide)]
    simp [value, others]

theorem scanMembers_renderMoreMembers : ∀ (ms : List (String × Json)) (fuel : Nat)
    (rest : List Char),
    3 * (renderMoreMembers ms).length ≤ fuel →
    scanMembers fuel false (renderMoreMembers ms ++ rest) = (nodeMembers ms, .closed, some rest)
  | [], 0, rest, enough => by simp [renderMoreMembers] at enough
  | [], fuel + 1, rest, _ => by
    rw [renderMoreMembers, scanMembers, List.singleton_append, skipSpace_cons (by decide)]
    simp [nodeMembers]
  | (k, j) :: ms, 0, rest, enough => by simp [renderMoreMembers] at enough
  | (k, j) :: ms, fuel + 1, rest, enough => by
    simp only [renderMoreMembers, List.length_cons, List.length_append] at enough
    have scanned := scanMember_render k j ms fuel rest (by omega)
    rw [renderMoreMembers, scanMembers, List.cons_append, skipSpace_cons (by decide)]
    simp only [Quoted.render, List.cons_append, List.append_assoc] at scanned ⊢
    rw [skipSpace_cons (by decide)]
    simpa [nodeMembers] using scanned

end

/-- The text of a value scans to its tree, with nothing left behind it. -/
theorem scan_toText (j : Json) : scan j.toText = (j.node, some []) := by
  have scanned := scanValue_render j (3 * j.render.length + 3) [] (by omega) Numeral.stopsAt_nil
  simpa [scan, toText] using scanned

end Scanning

end Concordance.Json
