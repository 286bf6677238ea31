import TwoWay.Forward.Failure

/-!
The trace of a failure read line by line. Where no failure has a line break in its text, the lines
are the failures of the tree with parents first, each behind two blanks for each level above it,
and the last line is that of the innermost failure. The text of a failure begins with no blank, so
a line tells how deep its failure stands; and the depths tell which failure stands below which. A
trace so shows the whole outline of a tree, and nothing else of it.
-/

namespace TwoWay.Forward

/-- What a trace shows of a failure tree: the text of each failure, and those nested in it. -/
inductive Outline where
  | mk (text : String) (below : List Outline)

namespace Outline

def entries (depth : Nat) : Outline → List (Nat × String)
  | .mk text below => (depth, text) :: entriesAll (depth + 1) below
where
  entriesAll (depth : Nat) : List Outline → List (Nat × String)
    | [] => []
    | o :: rest => o.entries depth ++ entriesAll depth rest

/-- What stands in a list behind the entries of a tree at a depth: nothing, or first an entry no
deeper than that. -/
def Closes (depth : Nat) (rest : List (Nat × String)) : Prop := ∀ x ∈ rest.head?, x.1 ≤ depth

theorem closes_nil (depth : Nat) : Closes depth [] := by simp [Closes]

theorem Closes.mono {depth depth' : Nat} {rest : List (Nat × String)} (h : Closes depth rest)
    (hle : depth ≤ depth') : Closes depth' rest := fun x hx => Nat.le_trans (h x hx) hle

theorem closes_entriesAll {depth : Nat} {rest : List (Nat × String)} (below : List Outline)
    (h : Closes depth rest) : Closes depth (entries.entriesAll depth below ++ rest) := by
  cases below with
  | nil => exact h
  | cons o below =>
      cases o with
      | mk text under => simp [Closes, entries.entriesAll, entries]

theorem not_closes_entriesAll {depth : Nat} {s : List (Nat × String)} {o : Outline}
    {below : List Outline} :
    ¬ Closes depth (entries.entriesAll (depth + 1) (o :: below) ++ s) := by
  cases o with
  | mk text under => simp [Closes, entries.entriesAll, entries]

mutual

/-- The entries of an outline tell it, whatever stands behind them, since what stands behind them
is no deeper. By induction on the outline. -/
theorem eq_of_entries_append : ∀ (o p : Outline) {depth : Nat} {s t : List (Nat × String)},
    Closes depth s → Closes depth t → o.entries depth ++ s = p.entries depth ++ t →
    o = p ∧ s = t
  | .mk text below, .mk text' below', depth, s, t, hs, ht, h => by
      simp only [entries, List.cons_append, List.cons.injEq, Prod.mk.injEq, true_and] at h
      obtain ⟨rfl, hbelow⟩ := h
      obtain ⟨rfl, rfl⟩ := eq_of_entriesAll_append below below' hs ht hbelow
      exact ⟨rfl, rfl⟩

theorem eq_of_entriesAll_append : ∀ (os ps : List Outline) {depth : Nat}
    {s t : List (Nat × String)}, Closes depth s → Closes depth t →
    entries.entriesAll (depth + 1) os ++ s = entries.entriesAll (depth + 1) ps ++ t →
    os = ps ∧ s = t
  | [], [], _, _, _, _, _, h => ⟨rfl, h⟩
  | [], p :: ps, _, s, t, hs, _, h => by
      rw [entries.entriesAll, List.nil_append] at h
      exact absurd (h ▸ hs) not_closes_entriesAll
  | o :: os, [], _, s, t, _, ht, h => by
      rw [entries.entriesAll.eq_def _ [], List.nil_append] at h
      exact absurd (h ▸ ht) not_closes_entriesAll
  | o :: os, p :: ps, depth, s, t, hs, ht, h => by
      rw [entries.entriesAll, entries.entriesAll, List.append_assoc, List.append_assoc] at h
      have hs' := hs.mono (Nat.le_succ depth)
      have ht' := ht.mono (Nat.le_succ depth)
      obtain ⟨rfl, hrest⟩ := eq_of_entries_append o p (closes_entriesAll os hs')
        (closes_entriesAll ps ht') h
      obtain ⟨rfl, rfl⟩ := eq_of_entriesAll_append os ps hs ht hrest
      exact ⟨rfl, rfl⟩

end

theorem entries_inj {o p : Outline} {depth : Nat} (h : o.entries depth = p.entries depth) :
    o = p :=
  (eq_of_entries_append o p (closes_nil depth) (closes_nil depth) (by rw [h])).1

end Outline

namespace Failure

def outline : Failure → Outline
  | .mk step cause nested => .mk (Failure.mk step cause nested).text (outlines nested)
where
  outlines : List Failure → List Outline
    | [] => []
    | f :: rest => f.outline :: outlines rest

def line (entry : Nat × String) : List Char :=
  List.replicate (2 * entry.1) ' ' ++ entry.2.toList

def readLine (chars : List Char) : Nat × String :=
  ((chars.takeWhile (· == ' ')).length / 2, String.ofList (chars.dropWhile (· == ' ')))

/-- No failure of the tree has a line break in its text. -/
def OnOneLine (f : Failure) : Prop := ∀ e ∈ f.preorder 0, '\n' ∉ e.2.text.toList

theorem toList_text (f : Failure) : ∃ chars, f.text.toList = 's' :: chars := by
  have hword : "step ".toList = 's' :: ['t', 'e', 'p', ' '] := by decide
  rw [text, String.append_assoc, String.append_assoc, String.toList_append, hword]
  exact ⟨_, rfl⟩

theorem readLine_line (depth : Nat) (f : Failure) :
    readLine (line (depth, f.text)) = (depth, f.text) := by
  obtain ⟨chars, htext⟩ := toList_text f
  have hblank : ∀ c ∈ List.replicate (2 * depth) ' ', (c == ' ') = true := by simp
  have htaken : (line (depth, f.text)).takeWhile (· == ' ') = List.replicate (2 * depth) ' ' := by
    rw [line, List.takeWhile_append_of_pos hblank, htext]
    simp
  have hleft : (line (depth, f.text)).dropWhile (· == ' ') = f.text.toList := by
    rw [line, List.dropWhile_append_of_pos hblank, htext]
    rfl
  simp [readLine, htaken, hleft]

mutual

theorem map_preorder : ∀ (f : Failure) (depth : Nat),
    (f.preorder depth).map (fun e => (e.1, e.2.text)) = f.outline.entries depth
  | .mk step cause nested, depth => by
      rw [preorder, outline, Outline.entries, List.map_cons, map_preorderAll]

theorem map_preorderAll : ∀ (failures : List Failure) (depth : Nat),
    (preorder.preorderAll depth failures).map (fun e => (e.1, e.2.text)) =
      Outline.entries.entriesAll depth (outline.outlines failures)
  | [], _ => rfl
  | f :: rest, depth => by
      rw [preorder.preorderAll, outline.outlines, Outline.entries.entriesAll, List.map_append,
        map_preorder, map_preorderAll]

end

theorem preorder_ne_nil (f : Failure) (depth : Nat) : f.preorder depth ≠ [] := by
  cases f with
  | mk step cause nested => simp [preorder]

mutual

theorem getLast?_preorder : ∀ (f : Failure) (depth : Nat),
    ∃ level, (f.preorder depth).getLast? = some (level, f.innermost)
  | .mk step cause nested, depth =>
      getLast?_preorderAll nested (depth + 1) [(depth, .mk step cause nested)] rfl

/-- What is found last in some trees that stand behind others, of which the last is known. -/
theorem getLast?_preorderAll : ∀ (failures : List Failure) (depth : Nat)
    (before : List (Nat × Failure)) {level : Nat} {found : Failure},
    before.getLast? = some (level, found) →
    ∃ level, (before ++ preorder.preorderAll depth failures).getLast? =
      some (level, innermost.lastOf found failures)
  | [], _, before, level, found, hfound => ⟨level, by
      rw [preorder.preorderAll, List.append_nil, hfound, innermost.lastOf]⟩
  | f :: rest, depth, before, _, found, _ => by
      obtain ⟨level, hlast⟩ := getLast?_preorder f depth
      rw [preorder.preorderAll, ← List.append_assoc, innermost.lastOf]
      have hfound : (before ++ f.preorder depth).getLast? = some (level, f.innermost) := by
        rw [List.getLast?_append, hlast]
        rfl
      exact getLast?_preorderAll rest depth _ hfound

end

mutual

/-- A trace with a line break before it is the lines of its failures, each with a line break before
it. -/
theorem toList_trace_go : ∀ (f : Failure) (depth : Nat),
    '\n' :: (trace.go depth f).toList =
      (f.preorder depth).flatMap fun e => '\n' :: line (e.1, e.2.text)
  | .mk step cause nested, depth => by
      rw [preorder, List.flatMap_cons, ← toList_trace_goAll nested, trace.go, line]
      simp only [String.toList_append, String.toList_ofList, List.cons_append]

theorem toList_trace_goAll : ∀ (failures : List Failure) (depth : Nat),
    (trace.goAll depth failures).toList =
      (preorder.preorderAll depth failures).flatMap fun e => '\n' :: line (e.1, e.2.text)
  | [], _ => by simp [trace.goAll, preorder.preorderAll]
  | f :: rest, depth => by
      rw [preorder.preorderAll, List.flatMap_append, ← toList_trace_go f,
        ← toList_trace_goAll rest, trace.goAll]
      simp [String.toList_append]

end

theorem cons_intercalate {sep : Char} : ∀ {parts : List (List Char)}, parts ≠ [] →
    sep :: [sep].intercalate parts = parts.flatMap (sep :: ·)
  | [], h => absurd rfl h
  | [part], _ => by simp
  | part :: next :: rest, _ => by
      rw [List.intercalate_cons_cons, List.flatMap_cons,
        ← cons_intercalate (List.cons_ne_nil next rest)]
      simp

theorem toList_trace (f : Failure) :
    f.trace.toList = ['\n'].intercalate ((f.outline.entries 0).map line) := by
  have hne : (f.outline.entries 0).map line ≠ [] := by
    rw [← map_preorder]
    simpa using preorder_ne_nil f 0
  have hlines : '\n' :: f.trace.toList =
      '\n' :: ['\n'].intercalate ((f.outline.entries 0).map line) := by
    rw [cons_intercalate hne, trace, toList_trace_go, ← map_preorder, List.flatMap_map,
      List.flatMap_map]
  exact (List.cons.inj hlines).2

/-- No text of the tree having a line break, the lines of a trace are the failures of the tree. -/
theorem splitOn_trace {f : Failure} (hf : f.OnOneLine) :
    f.trace.toList.splitOn '\n' = (f.outline.entries 0).map line := by
  rw [toList_trace, ← map_preorder]
  refine List.splitOn_intercalate _ ?_ (by simpa using preorder_ne_nil f 0)
  simp only [List.map_map, List.mem_map]
  rintro _ ⟨e, he, rfl⟩
  simpa [line] using hf e he

theorem map_readLine (f : Failure) :
    ((f.outline.entries 0).map line).map readLine = f.outline.entries 0 := by
  rw [← map_preorder, List.map_map, List.map_map]
  exact List.map_congr_left fun e _ => readLine_line e.1 e.2

/-- A trace is a picture of the failure tree. Cut at its line breaks it is a line for each failure,
parents first, behind two blanks for each level; the last line is that of the innermost failure; and
two trees have the same trace if and only if they have the same outline. -/
theorem trace_legible {f : Failure} (hf : f.OnOneLine) :
    f.trace.toList.splitOn '\n' = (f.preorder 0).map (fun e => line (e.1, e.2.text)) ∧
      (∃ level, (f.preorder 0).getLast? = some (level, f.innermost) ∧
        (f.trace.toList.splitOn '\n').getLast? = some (line (level, f.innermost.text))) ∧
      ∀ {g : Failure}, g.OnOneLine → (f.trace = g.trace ↔ f.outline = g.outline) := by
  have hlines : f.trace.toList.splitOn '\n' =
      (f.preorder 0).map (fun e => line (e.1, e.2.text)) := by
    rw [splitOn_trace hf, ← map_preorder, List.map_map]
    rfl
  obtain ⟨level, hlast⟩ := getLast?_preorder f 0
  refine ⟨hlines, ⟨level, hlast, ?_⟩, ?_⟩
  · rw [hlines, List.getLast?_map, hlast]
    rfl
  intro g hg
  constructor
  · intro htrace
    have hsame : (f.outline.entries 0).map line = (g.outline.entries 0).map line := by
      rw [← splitOn_trace hf, ← splitOn_trace hg, htrace]
    apply Outline.entries_inj
    rw [← map_readLine f, hsame, map_readLine g]
  · intro houtline
    rw [← String.toList_inj, toList_trace, toList_trace, houtline]

/-- A failure on three levels, two failures deep at its first place and one at its second. Its trace
has four lines, and the tree with another rule of the same name in it has the same. -/
theorem trace_legible_nested :
    let tree (id : Nat) : Failure :=
      .mk 1 (.unmatched (.rule ⟨id, "pair"⟩))
        [.mk 0 (.rejected "too long") [.mk 2 (.unmatched (.literal "\n")) []],
          .mk 3 (.rejected "") []]
    (tree 0).OnOneLine ∧ (tree 1).OnOneLine ∧
      (tree 0).trace.toList.splitOn '\n' =
        ["step 1: expected <pair>".toList, "  step 0: rejected: too long".toList,
          "    step 2: expected \"\\n\"".toList, "  step 3: rejected: ".toList] ∧
      (tree 0).innermost = .mk 3 (.rejected "") [] ∧
      ((tree 0).trace.toList.splitOn '\n').getLast? = some (line (1, "step 3: rejected: ")) ∧
      (tree 0).trace = (tree 1).trace := by
  intro tree
  have hfirst : (tree 0).OnOneLine := by unfold OnOneLine; decide +kernel
  have hsecond : (tree 1).OnOneLine := by unfold OnOneLine; decide +kernel
  obtain ⟨hlines, ⟨level, hlast, hline⟩, hsame⟩ := trace_legible hfirst
  obtain ⟨rfl, _⟩ : 1 = level ∧ Failure.mk 3 (.rejected "") [] = (tree 0).innermost :=
    Prod.mk.inj (Option.some.inj hlast)
  exact ⟨hfirst, hsecond, hlines.trans (by decide +kernel), rfl, hline.trans (by decide +kernel),
    (hsame hsecond).2 rfl⟩

end Failure

end TwoWay.Forward
