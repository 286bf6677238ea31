import Mathlib.Data.List.Nodup
import Mathlib.Data.List.Perm.Subperm
import TwoWay.Value.Basic

/-!
Equality of maps, place by place. Two lists of bindings whose names increase
have the same names at the same places as soon as they are equally long and one
has all the names of the other; so a map equals another when it has as many
fields and an equal value under each name of the other.
-/

namespace TwoWay

namespace Bindings

variable {α β : Type}

theorem Ordered.nodup {bindings : List (String × α)} (h : Ordered bindings) :
    (keys bindings).Nodup := by
  have hsorted : (keys bindings).Pairwise (· < ·) := List.pairwise_map.2 h
  refine hsorted.imp ?_
  intro a b hlt heq
  rw [heq] at hlt
  exact String.lt_irrefl b hlt

theorem keys_eq_of_perm {as : List (String × α)} {bs : List (String × β)} (has : Ordered as)
    (hbs : Ordered bs) (hperm : (keys as).Perm (keys bs)) : keys as = keys bs := by
  have has' : (keys as).Pairwise (· < ·) := List.pairwise_map.2 has
  have hbs' : (keys bs).Pairwise (· < ·) := List.pairwise_map.2 hbs
  refine hperm.eq_of_pairwise ?_ has' hbs'
  intro a b _ _ hab hba
  exact absurd (String.lt_trans hab hba) (String.lt_irrefl a)

/-- Names in order that are all among as many other names in order are those. -/
theorem keys_eq_of_subset {as : List (String × α)} {bs : List (String × β)} (has : Ordered as)
    (hbs : Ordered bs) (hlength : as.length = bs.length) (hsub : keys bs ⊆ keys as) :
    keys as = keys bs := by
  have hle : (keys as).length ≤ (keys bs).length := by
    simp only [keys, List.length_map]
    omega
  have hperm : (keys bs).Perm (keys as) :=
    (List.subperm_of_subset hbs.nodup hsub).perm_of_length_le hle
  exact keys_eq_of_perm has hbs hperm.symm

theorem keys_eq_of_mem_iff {as : List (String × α)} {bs : List (String × β)} (has : Ordered as)
    (hbs : Ordered bs) (hmem : ∀ key, key ∈ keys as ↔ key ∈ keys bs) : keys as = keys bs :=
  keys_eq_of_perm has hbs ((List.perm_ext_iff_of_nodup has.nodup hbs.nodup).2 hmem)

theorem lookup_eq_some_of_nodup {bindings : List (String × α)} (hnodup : (keys bindings).Nodup)
    {key : String} {value : α} :
    bindings.lookup key = some value ↔ (key, value) ∈ bindings := by
  induction bindings with
  | nil => simp
  | cons binding rest ih =>
      obtain ⟨k, v⟩ := binding
      obtain ⟨hk, hrest⟩ := List.nodup_cons.1 hnodup
      by_cases h : key = k
      · subst h
        have hnone : (key, value) ∉ rest := fun hmem =>
          hk (List.mem_map.2 ⟨_, hmem, rfl⟩)
        simp [hnone, eq_comm]
      · simp [List.lookup_cons, beq_eq_false_iff_ne.2 h, h, ih hrest]

theorem lookup_ofEntries_eq_some {entries : List (String × α)} (hnodup : (keys entries).Nodup)
    {key : String} {value : α} :
    (ofEntries entries).lookup key = some value ↔ (key, value) ∈ entries := by
  have hreverse : (keys entries.reverse).Nodup := by
    rw [keys, List.map_reverse]
    exact List.nodup_reverse.2 hnodup
  rw [ofEntries, lookup_normal, lookup_eq_some_of_nodup hreverse, List.mem_reverse]

theorem mem_keys_ofEntries {entries : List (String × α)} {key : String} :
    key ∈ keys (ofEntries entries) ↔ key ∈ keys entries := by
  rw [ofEntries, mem_keys_normal, keys, List.map_reverse, List.mem_reverse]
  rfl

theorem mem_keys_of_lookup {bindings : List (String × α)} {key : String} {value : α}
    (h : bindings.lookup key = some value) : key ∈ keys bindings := by
  obtain ⟨before, after, rfl, _⟩ := List.lookup_eq_some_iff.1 h
  simp [keys]

theorem put_map (f : α → β) (key : String) (value : α) (bindings : List (String × α)) :
    put key (f value) (bindings.map fun b => (b.1, f b.2)) =
      (put key value bindings).map fun b => (b.1, f b.2) := by
  induction bindings with
  | nil => rfl
  | cons binding rest ih =>
      obtain ⟨k, v⟩ := binding
      simp only [List.map_cons, put]
      split
      · rfl
      · split
        · rfl
        · simp only [List.map_cons, ih]

theorem normal_map (f : α → β) (bindings : List (String × α)) :
    normal (bindings.map fun b => (b.1, f b.2)) =
      (normal bindings).map fun b => (b.1, f b.2) := by
  induction bindings with
  | nil => rfl
  | cons binding rest ih => simp only [List.map_cons, normal, ih, put_map]

/-- Tests agree with bindings when the names are the same in each place and the
test accepts the value. -/
theorem agree_map_iff {as : List (String × α)} {bs : List (String × β)} {test : α → β → Bool} :
    agree (as.map fun a => (a.1, test a.2)) bs = true ↔
      List.Forall₂ (fun a b => a.1 = b.1 ∧ test a.2 b.2 = true) as bs := by
  induction as generalizing bs with
  | nil =>
      cases bs with
      | nil => simp [agree]
      | cons b bs => exact ⟨nofun, nofun⟩
  | cons a as ih =>
      cases bs with
      | nil => exact ⟨nofun, nofun⟩
      | cons b bs => simp [agree, ih, and_assoc]

/-- Lists of bindings with the same names agree in each place as soon as what one
binds agrees with the binding in the other. -/
theorem forall₂_of_lookup (R : α → β → Prop) {as : List (String × α)} {bs : List (String × β)}
    (hbs : Ordered bs) (hkeys : keys as = keys bs)
    (hlookup : ∀ b ∈ bs, ∃ value, as.lookup b.1 = some value ∧ R value b.2) :
    List.Forall₂ (fun a b => a.1 = b.1 ∧ R a.2 b.2) as bs := by
  induction bs generalizing as with
  | nil =>
      obtain rfl : as = [] := List.map_eq_nil_iff.1 hkeys
      exact .nil
  | cons b bs ih =>
      cases as with
      | nil => cases hkeys
      | cons a as =>
          have hname : a.1 = b.1 := (List.cons.inj hkeys).1
          have hrest : keys as = keys bs := (List.cons.inj hkeys).2
          obtain ⟨hfirst, hbs⟩ := List.pairwise_cons.1 hbs
          refine .cons ⟨hname, ?_⟩ (ih hbs hrest ?_)
          · obtain ⟨value, hfound, hvalue⟩ := hlookup b List.mem_cons_self
            rw [List.lookup_cons, hname, beq_self_eq_true] at hfound
            obtain rfl : a.2 = value := Option.some.inj hfound
            exact hvalue
          · intro b' hb'
            obtain ⟨value, hfound, hvalue⟩ := hlookup b' (List.mem_cons_of_mem _ hb')
            have hne : b'.1 ≠ a.1 := by
              intro heq
              have hlt := hfirst b' hb'
              rw [heq, hname] at hlt
              exact String.lt_irrefl _ hlt
            rw [List.lookup_cons, beq_eq_false_iff_ne.2 hne] at hfound
            exact ⟨value, hfound, hvalue⟩

theorem lookup_of_forall₂ {R : α → β → Prop} {as : List (String × α)} {bs : List (String × β)}
    (h : List.Forall₂ (fun a b => a.1 = b.1 ∧ R a.2 b.2) as bs) {key : String} {value : α}
    (hlookup : as.lookup key = some value) :
    ∃ other, bs.lookup key = some other ∧ R value other := by
  induction h with
  | nil => cases hlookup
  | @cons a b as bs hfirst _ ih =>
      obtain ⟨hname, hvalue⟩ := hfirst
      rw [List.lookup_cons] at hlookup ⊢
      rw [← hname]
      cases hkey : key == a.1 with
      | true =>
          rw [hkey] at hlookup
          obtain rfl : a.2 = value := Option.some.inj hlookup
          exact ⟨b.2, rfl, hvalue⟩
      | false =>
          rw [hkey] at hlookup
          exact ih hlookup

end Bindings

namespace Value

theorem slot?_eq_some {value : Value} {handle : Handle} :
    value.slot? = some handle ↔ value = .slot handle := by
  cases value <;> simp [slot?]

theorem beq_string {value : Value} {text : String} :
    (value == .string text) = true ↔ value = .string text := by
  cases value with
  | string s =>
      show (s == text) = true ↔ _
      simp
  | nil | number _ | bool _ | list _ | map _ | slot _ => exact ⟨nofun, nofun⟩

theorem tests_eq_map (bindings : List (String × Value)) :
    Value.beq.tests bindings = bindings.map fun b => (b.1, Value.beq b.2) := by
  induction bindings with
  | nil => rfl
  | cons binding rest ih => simp only [Value.beq.tests, List.map_cons, ih]

theorem map_beq_map {as bs : List (String × Value)} :
    (Value.map as == Value.map bs) = true ↔
      List.Forall₂ (fun a b => a.1 = b.1 ∧ (a.2 == b.2) = true) (Bindings.normal as)
        (Bindings.normal bs) := by
  show Bindings.agree (Bindings.normal (Value.beq.tests as)) (Bindings.normal bs) = true ↔ _
  rw [tests_eq_map, Bindings.normal_map, Bindings.agree_map_iff]
  rfl

theorem lookup_of_map_beq {as bs : List (String × Value)}
    (h : (Value.map as == Value.map bs) = true) {key : String} {value : Value}
    (hlookup : as.lookup key = some value) :
    ∃ other, bs.lookup key = some other ∧ (value == other) = true := by
  rw [← Bindings.lookup_normal] at hlookup ⊢
  exact Bindings.lookup_of_forall₂ (R := fun a b => (a == b) = true) (map_beq_map.1 h) hlookup

/-- A map that has as many fields as some in order, and an equal value under
each name of these, equals the map of them. -/
theorem map_beq_of_lookup {as bs : List (String × Value)} (hbs : Bindings.Ordered bs)
    (hlength : (Bindings.normal as).length = bs.length)
    (hlookup : ∀ b ∈ bs, ∃ value, as.lookup b.1 = some value ∧ (value == b.2) = true) :
    (Value.map as == Value.map bs) = true := by
  have hfound : ∀ b ∈ bs, ∃ value,
      (Bindings.normal as).lookup b.1 = some value ∧ (value == b.2) = true := by
    intro b hb
    rw [Bindings.lookup_normal]
    exact hlookup b hb
  have hsub : Bindings.keys bs ⊆ Bindings.keys (Bindings.normal as) := by
    intro key hkey
    obtain ⟨b, hb, rfl⟩ := List.mem_map.1 hkey
    obtain ⟨value, hvalue, _⟩ := hfound b hb
    exact Bindings.mem_keys_of_lookup hvalue
  have hkeys := Bindings.keys_eq_of_subset (Bindings.ordered_normal as) hbs hlength hsub
  rw [map_beq_map, Bindings.normal_eq_self hbs]
  exact Bindings.forall₂_of_lookup (fun a b => (a == b) = true) hbs hkeys hfound

end Value

end TwoWay
