import Mathlib.Data.List.Infix
import TwoWay.Proofs.Regex.Leftmost

/-!
How expressions open that are put together of others. A sequence loses its empty parts and the
sequences inside it; an alternation loses those inside it, becomes a set when its branches are
single characters, and has what all branches begin with taken out in front. None of this moves
a condition behind a character: a sequence opens as its list of parts does, and an alternation
as all of its branches do.

There are two ways to ask how an expression opens, with one condition or with one of several,
and what is said here holds for both.
-/

namespace TwoWay.Regex.Expr

/-- A question of how expressions open: the empty text opens with nothing, a sequence as its
first part does, or as the second if the first is for the empty text alone, and an alternation
as both branches do. -/
structure Opening (P : Expr → Bool) : Prop where
  empty : P .empty = false
  seq : ∀ a b, P (.seq a b) = (P a || (a.isVoid && P b))
  alt : ∀ a b, P (.alt a b) = (P a && P b)

theorem opening_opensAmong (looks : Look → Bool) : Opening (opensAmong looks) :=
  ⟨rfl, fun _ _ => rfl, fun _ _ => rfl⟩

theorem opening_opensWith (l : Look) : Opening (opensWith l) :=
  ⟨rfl, fun _ _ => rfl, fun _ _ => rfl⟩

section Sequences

variable {P : Expr → Bool} {e left : Expr} {es start : List Expr}

def partsOpen (P : Expr → Bool) : List Expr → Bool
  | [] => false
  | e :: es => P e || (e.isVoid && partsOpen P es)

theorem partsOpen_append (as bs : List Expr) :
    partsOpen P (as ++ bs) = (partsOpen P as || (as.all isVoid && partsOpen P bs)) := by
  induction as with
  | nil => simp [partsOpen]
  | cons a as ih =>
      rw [List.cons_append, partsOpen, ih]
      simp only [partsOpen, List.all_cons]
      cases P a <;> cases a.isVoid <;> simp

theorem isVoid_ofParts (es : List Expr) : (ofParts es).isVoid = es.all isVoid := by
  induction es with
  | nil => rfl
  | cons e rest ih =>
      cases rest with
      | nil => simp [ofParts]
      | cons e' rest => simp only [ofParts, isVoid, ih, List.all_cons]

theorem all_isVoid_parts (e : Expr) : e.parts.all isVoid = e.isVoid := by
  induction e with
  | empty => rfl
  | seq a b iha ihb => simp only [parts, List.all_append, iha, ihb, isVoid]
  | chars _ | look _ | repeats _ _ _ _ _ | group _ _ _ | alt _ _ _ _ => simp [parts]

theorem isVoid_concat (es : List Expr) : (concat es).isVoid = es.all isVoid := by
  simp only [concat, isVoid_ofParts, List.all_flatMap, all_isVoid_parts]

theorem Opening.ofParts (hP : Opening P) (es : List Expr) :
    P (ofParts es) = partsOpen P es := by
  induction es with
  | nil => exact hP.empty
  | cons e rest ih =>
      cases rest with
      | nil => simp [Expr.ofParts, partsOpen]
      | cons e' rest => simp only [Expr.ofParts, hP.seq, ih, partsOpen]

theorem Opening.parts (hP : Opening P) (e : Expr) : partsOpen P e.parts = P e := by
  induction e with
  | empty => exact hP.empty.symm
  | seq a b iha ihb => rw [Expr.parts, partsOpen_append, iha, ihb, all_isVoid_parts, hP.seq]
  | chars _ | look _ | repeats _ _ _ _ _ | group _ _ _ | alt _ _ _ _ =>
      simp [Expr.parts, partsOpen]

theorem Opening.concat (hP : Opening P) (es : List Expr) : P (concat es) = partsOpen P es := by
  rw [Expr.concat, hP.ofParts]
  induction es with
  | nil => rfl
  | cons e rest ih =>
      rw [List.flatMap_cons, partsOpen_append, hP.parts, all_isVoid_parts, ih]
      rfl

theorem all_congr_mem {Q Q' : Expr → Bool} (h : ∀ e ∈ es, Q e = Q' e) : es.all Q = es.all Q' := by
  induction es with
  | nil => rfl
  | cons e rest ih =>
      obtain ⟨hfirst, hrest⟩ := List.forall_mem_cons.1 h
      rw [List.all_cons, List.all_cons, hfirst, ih hrest]

theorem all_or_and {Q : Expr → Bool} (hne : es ≠ []) (a b : Bool) :
    (es.all fun e => a || (b && Q e)) = (a || (b && es.all Q)) := by
  obtain ⟨e, rest, rfl⟩ := List.exists_cons_of_ne_nil hne
  cases a <;> cases b <;> simp

/-- What all of some branches begin with may be taken out in front: they all open if that opens,
or if it is for the empty text alone and what is left of each opens. -/
theorem Opening.all_factored (hP : Opening P) (hne : es ≠ [])
    (hstart : ∀ e ∈ es, start <+: e.parts) :
    es.all P = (partsOpen P start ||
      (start.all isVoid && es.all fun e => P (Expr.ofParts (e.parts.drop start.length)))) := by
  rw [← all_or_and hne]
  refine all_congr_mem fun e he => ?_
  obtain ⟨rest, hrest⟩ := hstart e he
  rw [← hP.parts e, ← hrest, partsOpen_append, hP.ofParts, List.drop_left]

theorem all_isVoid_factored (hne : es ≠ []) (hstart : ∀ e ∈ es, start <+: e.parts) :
    es.all isVoid = (start.all isVoid &&
      es.all fun e => (Expr.ofParts (e.parts.drop start.length)).isVoid) := by
  have hfactor := all_or_and (Q := fun e => (Expr.ofParts (e.parts.drop start.length)).isVoid) hne
    false (start.all isVoid)
  simp only [Bool.false_or] at hfactor
  rw [← hfactor]
  refine all_congr_mem fun e he => ?_
  obtain ⟨rest, hrest⟩ := hstart e he
  rw [← all_isVoid_parts e, ← hrest, List.all_append, isVoid_ofParts, List.drop_left]

end Sequences

section Alternations

variable {P : Expr → Bool} {looks : Look → Bool} {e : Expr} {es : List Expr}

theorem Opening.branches (hP : Opening P) (e : Expr) : e.branches.all P = P e := by
  induction e with
  | alt a b iha ihb => simp only [Expr.branches, List.all_append, iha, ihb, hP.alt]
  | empty | chars _ | look _ | repeats _ _ _ _ _ | group _ _ _ | seq _ _ _ _ =>
      simp [Expr.branches]

theorem all_isVoid_branches (e : Expr) : e.branches.all isVoid = e.isVoid := by
  induction e with
  | alt a b iha ihb => simp only [branches, List.all_append, iha, ihb, isVoid]
  | empty | chars _ | look _ | repeats _ _ _ _ _ | group _ _ _ | seq _ _ _ _ => simp [branches]

/-- An alternation opens as all its branches do, but for that of no branches, which takes a
character of no set. -/
theorem Opening.ofBranches (hP : Opening P) (hes : es ≠ [] ∨ P (.chars .empty) = true) :
    P (ofBranches es) = es.all P := by
  induction es with
  | nil => simpa [Expr.ofBranches] using hes
  | cons e rest ih =>
      cases rest with
      | nil => simp [Expr.ofBranches]
      | cons e' rest => simp only [Expr.ofBranches, hP.alt, ih (Or.inl (by simp)), List.all_cons]

theorem isVoid_ofBranches (hne : es ≠ []) : (ofBranches es).isVoid = es.all isVoid := by
  induction es with
  | nil => exact absurd rfl hne
  | cons e rest ih =>
      cases rest with
      | nil => simp [Expr.ofBranches]
      | cons e' rest => simp only [Expr.ofBranches, isVoid, ih (by simp), List.all_cons]

theorem commonStart_prefix (as bs : List Expr) :
    commonStart as bs <+: as ∧ commonStart as bs <+: bs := by
  induction as generalizing bs with
  | nil => simp [commonStart]
  | cons a as ih =>
      cases bs with
      | nil => simp [commonStart]
      | cons b bs =>
          unfold commonStart
          split
          · rename_i heq
            obtain rfl := heq
            obtain ⟨has, hbs⟩ := ih bs
            exact ⟨(List.prefix_cons_inj a).2 has, (List.prefix_cons_inj a).2 hbs⟩
          · exact ⟨List.nil_prefix, List.nil_prefix⟩

theorem foldl_commonStart_prefix (first : List Expr) (rest : List (List Expr)) :
    rest.foldl commonStart first <+: first ∧ ∀ s ∈ rest, rest.foldl commonStart first <+: s := by
  induction rest generalizing first with
  | nil => simp
  | cons s rest ih =>
      obtain ⟨hstart, hothers⟩ := ih (commonStart first s)
      obtain ⟨hfirst, hs⟩ := commonStart_prefix first s
      refine ⟨hstart.trans hfirst, ?_⟩
      intro s' hs'
      rcases List.mem_cons.1 hs' with rfl | hs'
      · exact hstart.trans hs
      · exact hothers s' hs'

theorem sharedStart_prefix {sequences : List (List Expr)} {s : List Expr} (hs : s ∈ sequences) :
    sharedStart sequences <+: s := by
  unfold sharedStart
  split
  · rename_i first second rest
    split
    · obtain ⟨hfirst, hothers⟩ := foldl_commonStart_prefix first (second :: rest)
      rcases List.mem_cons.1 hs with rfl | hs
      · exact hfirst
      · exact hothers s hs
    · exact List.nil_prefix
  · exact List.nil_prefix

/-- The forms that an alternation can take: it is put together of its branches, or is the union
of sets when each is a set, or has a common start taken out. -/
theorem alternationWithin_cases (fuel : Nat) (es : List Expr) {Q : Expr → Prop}
    (hbranches : Q (ofBranches (es.flatMap branches)))
    (hsets : ∀ sets, es.flatMap branches ≠ [] → (es.flatMap branches).mapM charSet? = some sets →
      Q (.chars (sets.foldl CharSet.union .empty)))
    (hfactored : ∀ fuel' start, fuel = fuel' + 1 → es.flatMap branches ≠ [] →
      (∀ e ∈ es.flatMap branches, start <+: e.parts) →
      Q (concat (start ++ [alternationWithin fuel'
        ((es.flatMap branches).map fun e => ofParts (e.parts.drop start.length))]))) :
    Q (alternationWithin fuel es) := by
  cases fuel with
  | zero => exact hbranches
  | succ fuel =>
      simp only [alternationWithin]
      generalize es.flatMap branches = flat at hbranches hsets hfactored ⊢
      split
      · exact hbranches
      · exact hbranches
      · rename_i hne _
        split
        · rename_i sets hsome
          exact hsets sets hne hsome
        · split
          · exact hbranches
          · have h := hfactored fuel (sharedStart (flat.map parts)) rfl hne fun e he =>
              sharedStart_prefix (List.mem_map_of_mem he)
            rw [List.map_map]
            exact h

theorem branches_ne_nil (e : Expr) : e.branches ≠ [] := by
  induction e with
  | alt a b iha ihb => simp [branches, iha]
  | empty | chars _ | look _ | repeats _ _ _ _ _ | group _ _ _ | seq _ _ _ _ => simp [branches]

theorem flatMap_branches_ne_nil (hne : es ≠ []) : es.flatMap branches ≠ [] := by
  obtain ⟨e, rest, rfl⟩ := List.exists_cons_of_ne_nil hne
  simp [branches_ne_nil]

theorem Opening.all_flatMap_branches (hP : Opening P) (es : List Expr) :
    (es.flatMap Expr.branches).all P = es.all P := by
  simp only [List.all_flatMap, hP.branches]

theorem eq_map_of_mapM {sets : List CharSet} (hsets : es.mapM charSet? = some sets) :
    es = sets.map .chars := by
  induction es generalizing sets with
  | nil =>
      obtain rfl : sets = [] := by simpa using hsets.symm
      rfl
  | cons e rest ih =>
      cases e with
      | chars set =>
          obtain ⟨sets', hrest, rfl⟩ : ∃ sets', rest.mapM charSet? = some sets' ∧
              set :: sets' = sets := by
            simpa [List.mapM_cons, charSet?, Option.bind_eq_some_iff] using hsets
          rw [ih hrest, List.map_cons]
      | empty | look _ | repeats _ _ _ _ | group _ _ | seq _ _ | alt _ _ =>
          simp [List.mapM_cons, charSet?] at hsets

theorem foldl_union_empty {sets : List CharSet} (hempty : ∀ set ∈ sets, set = .empty) :
    sets.foldl CharSet.union .empty = .empty := by
  induction sets with
  | nil => rfl
  | cons set rest ih =>
      obtain ⟨rfl, hrest⟩ := List.forall_mem_cons.1 hempty
      have hunion := ih hrest
      exact hunion

/-- Branches that all open with one of some conditions have an alternation that does. By
induction on how often a common start is taken out. -/
theorem opensAmong_alternation (hopens : es.all (opensAmong looks) = true) :
    (alternation es).opensAmong looks = true := by
  unfold alternation
  generalize es.foldl (fun n e => n + e.size) 1 = fuel
  have hP := opening_opensAmong looks
  induction fuel using Nat.strong_induction_on generalizing es with
  | _ fuel ih =>
    have hflat := hopens
    rw [← hP.all_flatMap_branches] at hflat
    refine alternationWithin_cases fuel es (Q := fun e => e.opensAmong looks = true) ?_ ?_ ?_
    · rw [hP.ofBranches (Or.inr rfl)]
      exact hflat
    · intro sets _ hsets
      rw [eq_map_of_mapM hsets] at hflat
      have hempty : ∀ set ∈ sets, set = .empty := by simpa [opensAmong] using hflat
      simp [opensAmong, foldl_union_empty hempty]
    · rintro fuel' start rfl hne hstart
      rw [hP.all_factored hne hstart] at hflat
      rw [hP.concat, partsOpen_append]
      simp only [Bool.or_eq_true, Bool.and_eq_true] at hflat ⊢
      rcases hflat with hfront | ⟨hvoid, hrest⟩
      · exact Or.inl hfront
      · refine Or.inr ⟨hvoid, ?_⟩
        -- The branches begin alike: what stands behind the common start is alternated again.
        have hends : ((es.flatMap branches).map fun e => ofParts (e.parts.drop start.length)).all
            (opensAmong looks) = true := by
          rw [List.all_map]
          exact hrest
        simp [partsOpen, ih fuel' (Nat.lt_succ_self _) hends]

/-- What holds of an alternation just when it holds of all its branches: it does for the flat
list of branches, for no set, and behind a common start as for the branches that begin with it.
By induction on how often a common start is taken out. -/
theorem alternation_eq_all {Q : Expr → Bool}
    (hflat : ∀ es : List Expr, (es.flatMap branches).all Q = es.all Q)
    (hbranches : ∀ es : List Expr, es ≠ [] → Q (ofBranches es) = es.all Q)
    (hset : ∀ set, Q (.chars set) = false)
    (hstart : ∀ (es start : List Expr) (e : Expr), es ≠ [] → (∀ e ∈ es, start <+: e.parts) →
      Q e = es.all (fun e => Q (ofParts (e.parts.drop start.length))) →
      Q (concat (start ++ [e])) = es.all Q)
    (hne : es ≠ []) : Q (alternation es) = es.all Q := by
  unfold alternation
  generalize es.foldl (fun n e => n + e.size) 1 = fuel
  induction fuel using Nat.strong_induction_on generalizing es with
  | _ fuel ih =>
    rw [← hflat]
    refine alternationWithin_cases fuel es
      (Q := fun e => Q e = (es.flatMap branches).all Q) ?_ ?_ ?_
    · exact hbranches _ (flatMap_branches_ne_nil hne)
    · intro sets hne' hsets
      rw [eq_map_of_mapM hsets] at hne' ⊢
      obtain ⟨set, rest, rfl⟩ := List.exists_cons_of_ne_nil (by simpa using hne')
      rw [hset, List.map_cons, List.all_cons, hset, Bool.false_and]
    · rintro fuel' start rfl hne' hbegin
      have hends :
          (es.flatMap branches).map (fun e => ofParts (e.parts.drop start.length)) ≠ [] := by
        simpa using hne'
      refine hstart _ start _ hne' hbegin ?_
      rw [ih fuel' (Nat.lt_succ_self _) hends, List.all_map]
      rfl

theorem opensWith_alternation {l : Look} (hne : es ≠ []) :
    (alternation es).opensWith l = es.all (opensWith l) := by
  have hP := opening_opensWith l
  refine alternation_eq_all (Q := opensWith l) hP.all_flatMap_branches
    (fun _ hne => hP.ofBranches (Or.inl hne)) (fun _ => rfl) ?_ hne
  intro es start e hne hstart he
  rw [hP.all_factored hne hstart, hP.concat, partsOpen_append]
  simp [partsOpen, he]

theorem isVoid_alternation (hne : es ≠ []) : (alternation es).isVoid = es.all isVoid := by
  refine alternation_eq_all (Q := isVoid) ?_ (fun _ => isVoid_ofBranches) (fun _ => rfl) ?_ hne
  · intro es
    simp only [List.all_flatMap, all_isVoid_branches]
  · intro es start e hne hstart he
    rw [all_isVoid_factored hne hstart, isVoid_concat, List.all_append]
    simp [he]

end Alternations

end TwoWay.Regex.Expr
