/-!
Values bound to names, kept as a list of pairs. In a list with several
bindings of one name the first one counts. `normal` gives each name one binding
and puts the names in increasing order, so that two lists that bind the same
names to the same values have one normal form.
-/

namespace TwoWay.Bindings

variable {α : Type}

def keys (bindings : List (String × α)) : List String := bindings.map (·.1)

/-- Binds `key` in a list whose names increase, in place of an earlier
binding. -/
def put (key : String) (value : α) : List (String × α) → List (String × α)
  | [] => [(key, value)]
  | (k, v) :: rest =>
      if key < k then (key, value) :: (k, v) :: rest
      else if key = k then (key, value) :: rest
      else (k, v) :: put key value rest

def normal : List (String × α) → List (String × α)
  | [] => []
  | (k, v) :: rest => put k v (normal rest)

/-- The bindings made one after another, a later one in place of an earlier. -/
def ofEntries (entries : List (String × α)) : List (String × α) :=
  normal entries.reverse

/-- Whether two lists have the same names at the same places and each test
accepts the value it meets. -/
def agree : List (String × (α → Bool)) → List (String × α) → Bool
  | [], [] => true
  | (k, test) :: tests, (k', v) :: bindings => k = k' && test v && agree tests bindings
  | _, _ => false

theorem lookup_put (key k : String) (value : α) (bindings : List (String × α)) :
    (put key value bindings).lookup k =
      if k = key then some value else bindings.lookup k := by
  induction bindings with
  | nil =>
      by_cases h : k = key <;> simp [put, List.lookup_cons, h]
      simp [beq_eq_false_iff_ne.2 h]
  | cons binding rest ih =>
      obtain ⟨k', v⟩ := binding
      unfold put
      split
      · by_cases h : k = key
        · simp [h]
        · simp [List.lookup_cons, beq_eq_false_iff_ne.2 h, h]
      · split
        · rename_i h
          subst h
          by_cases h : k = key
          · simp [h]
          · simp [List.lookup_cons, beq_eq_false_iff_ne.2 h, h]
        · rename_i _ hne
          by_cases h : k = k'
          · subst h
            simp [Ne.symm hne]
          · simp [List.lookup_cons, beq_eq_false_iff_ne.2 h, ih]

theorem lookup_normal (bindings : List (String × α)) (k : String) :
    (normal bindings).lookup k = bindings.lookup k := by
  induction bindings with
  | nil => rfl
  | cons binding rest ih =>
      obtain ⟨k', v⟩ := binding
      rw [normal, lookup_put, ih]
      by_cases h : k = k'
      · simp [h]
      · simp [List.lookup_cons, beq_eq_false_iff_ne.2 h, h]

theorem mem_keys_put {key k : String} {value : α} {bindings : List (String × α)} :
    k ∈ keys (put key value bindings) ↔ k = key ∨ k ∈ keys bindings := by
  induction bindings with
  | nil => simp [put, keys]
  | cons binding rest ih =>
      obtain ⟨k', v⟩ := binding
      unfold put
      split
      · simp [keys]
      · split
        · rename_i h
          subst h
          simp [keys]
        · simp only [keys, List.map_cons, List.mem_cons] at ih ⊢
          rw [ih]
          constructor
          · rintro (h | h | h) <;> simp [h]
          · rintro (h | h | h) <;> simp [h]

theorem mem_keys_normal {k : String} {bindings : List (String × α)} :
    k ∈ keys (normal bindings) ↔ k ∈ keys bindings := by
  induction bindings with
  | nil => rfl
  | cons binding rest ih =>
      obtain ⟨k', v⟩ := binding
      rw [normal, mem_keys_put, ih]
      simp [keys]

def Ordered (bindings : List (String × α)) : Prop :=
  bindings.Pairwise fun a b => a.1 < b.1

instance (bindings : List (String × α)) : Decidable (Ordered bindings) :=
  inferInstanceAs (Decidable (bindings.Pairwise fun a b => a.1 < b.1))

theorem ordered_put {key : String} {value : α} {bindings : List (String × α)}
    (h : Ordered bindings) : Ordered (put key value bindings) := by
  induction bindings with
  | nil => simp [put, Ordered]
  | cons binding rest ih =>
      obtain ⟨k, v⟩ := binding
      obtain ⟨hk, hrest⟩ := List.pairwise_cons.1 h
      unfold put
      split
      · rename_i hlt
        refine List.pairwise_cons.2 ⟨fun b hb => ?_, h⟩
        rcases List.mem_cons.1 hb with rfl | hb
        · exact hlt
        · exact String.lt_trans hlt (hk b hb)
      · split
        · rename_i heq
          subst heq
          exact List.pairwise_cons.2 ⟨hk, hrest⟩
        · rename_i hnlt hne
          refine List.pairwise_cons.2 ⟨fun b hb => ?_, ih hrest⟩
          have hmem : b.1 ∈ keys (put key value rest) := List.mem_map_of_mem hb
          rcases mem_keys_put.1 hmem with h | h
          · rw [h]
            exact Std.lt_of_le_of_ne (Std.not_lt.1 hnlt) (Ne.symm hne)
          · obtain ⟨b', hb', heq⟩ := List.mem_map.1 h
            rw [← heq]
            exact hk b' hb'

/-- A normal form has each name once and its names in order. -/
theorem ordered_normal (bindings : List (String × α)) : Ordered (normal bindings) := by
  induction bindings with
  | nil => simp [normal, Ordered]
  | cons binding rest ih => exact ordered_put ih

theorem normal_eq_self {bindings : List (String × α)} (h : Ordered bindings) :
    normal bindings = bindings := by
  induction bindings with
  | nil => rfl
  | cons binding rest ih =>
      obtain ⟨k, v⟩ := binding
      obtain ⟨hk, hrest⟩ := List.pairwise_cons.1 h
      rw [normal, ih hrest]
      cases rest with
      | nil => rfl
      | cons next rest => simp [put, hk next (by simp)]

theorem normal_normal (bindings : List (String × α)) :
    normal (normal bindings) = normal bindings :=
  normal_eq_self (ordered_normal bindings)

end TwoWay.Bindings
