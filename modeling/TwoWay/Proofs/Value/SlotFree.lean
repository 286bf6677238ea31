import TwoWay.Grammar.Body

/-!
Values without slots. A slot may stand anywhere within a value; a value is free of slots when
none of its parts is one. What is looked up in such values is free of slots, and so is what is
put together from them.
-/

namespace TwoWay

namespace Bindings

variable {α : Type}

theorem mem_of_mem_put {key : String} {value : α} {bindings : List (String × α)} {b : String × α}
    (h : b ∈ put key value bindings) : b = (key, value) ∨ b ∈ bindings := by
  induction bindings with
  | nil => simpa [put] using h
  | cons binding rest ih =>
      unfold put at h
      split at h
      · simpa using h
      · split at h
        · rcases List.mem_cons.1 h with rfl | h
          · exact Or.inl rfl
          · exact Or.inr (List.mem_cons_of_mem _ h)
        · rcases List.mem_cons.1 h with rfl | h
          · exact Or.inr List.mem_cons_self
          · exact (ih h).imp_right (List.mem_cons_of_mem _)

theorem mem_of_mem_normal {bindings : List (String × α)} {b : String × α}
    (h : b ∈ normal bindings) : b ∈ bindings := by
  induction bindings with
  | nil => exact h
  | cons binding rest ih =>
      rcases mem_of_mem_put h with rfl | h
      · exact List.mem_cons_self
      · exact List.mem_cons_of_mem _ (ih h)

theorem mem_of_mem_ofEntries {entries : List (String × α)} {b : String × α}
    (h : b ∈ ofEntries entries) : b ∈ entries :=
  List.mem_reverse.1 (mem_of_mem_normal h)

theorem mem_of_lookup {bindings : List (String × α)} {key : String} {value : α}
    (h : bindings.lookup key = some value) : (key, value) ∈ bindings := by
  obtain ⟨before, after, rfl, _⟩ := List.lookup_eq_some_iff.1 h
  simp

end Bindings

namespace Value

/-- A value that is found in another, however deep in its lists and maps. -/
inductive Part : Value → Value → Prop where
  | self (v : Value) : Part v v
  | item {v w : Value} {items : List Value} : w ∈ items → Part v w → Part v (.list items)
  | field {v w : Value} {key : String} {bindings : List (String × Value)} :
      (key, w) ∈ bindings → Part v w → Part v (.map bindings)

/-- Whether no part of the value is a slot. -/
def SlotFree (v : Value) : Prop := ∀ handle, ¬ Part (.slot handle) v

theorem slotFree_of_isPrimitive {v : Value} (hv : v.isPrimitive = true) : v.SlotFree := by
  intro handle hpart
  cases hpart <;> cases hv

@[simp] theorem slotFree_nil : nil.SlotFree := slotFree_of_isPrimitive rfl

@[simp] theorem slotFree_number (n : Float) : (number n).SlotFree := slotFree_of_isPrimitive rfl

@[simp] theorem slotFree_string (s : String) : (string s).SlotFree := slotFree_of_isPrimitive rfl

@[simp] theorem slotFree_bool (b : Bool) : (bool b).SlotFree := slotFree_of_isPrimitive rfl

@[simp] theorem slotFree_list {items : List Value} :
    (list items).SlotFree ↔ ∀ v ∈ items, v.SlotFree := by
  constructor
  · exact fun h v hv handle hpart => h handle (.item hv hpart)
  · intro h handle hpart
    cases hpart with
    | item hv hpart => exact h _ hv handle hpart

@[simp] theorem slotFree_map {bindings : List (String × Value)} :
    (map bindings).SlotFree ↔ ∀ b ∈ bindings, b.2.SlotFree := by
  constructor
  · exact fun h b hb handle hpart => h handle (.field hb hpart)
  · intro h handle hpart
    cases hpart with
    | field hb hpart => exact h _ hb handle hpart

theorem slotFree_record {entries : List (String × Value)} (h : ∀ b ∈ entries, b.2.SlotFree) :
    (record entries).SlotFree :=
  slotFree_map.2 fun b hb => h b (Bindings.mem_of_mem_ofEntries hb)

theorem SlotFree.get? {v w : Value} {key : String} (hv : v.SlotFree) (h : v.get? key = some w) :
    w.SlotFree := by
  cases v with
  | map bindings => exact slotFree_map.1 hv _ (Bindings.mem_of_lookup h)
  | nil | number _ | string _ | bool _ | list _ | slot _ => cases h

theorem SlotFree.items {v : Value} (hv : v.SlotFree) : ∀ w ∈ v.list?.getD [], w.SlotFree := by
  cases v with
  | list items => exact slotFree_list.1 hv
  | nil | number _ | string _ | bool _ | map _ | slot _ => simp [list?]

end Value

def Answer.SlotFree (answer : Answer) : Prop := answer.value.SlotFree

theorem Answer.slotFree_rule {value : Value} : (Answer.rule value).SlotFree ↔ value.SlotFree :=
  Iff.rfl

def Reply.SlotFree (reply : Reply) : Prop := ∀ answer, reply = .ok answer → answer.SlotFree

def Outcome.SlotFree (outcome : Outcome) : Prop := ∀ value, outcome = .ok value → value.SlotFree

@[simp] theorem Reply.slotFree_ok {answer : Answer} :
    Reply.SlotFree (.ok answer) ↔ answer.SlotFree :=
  ⟨fun h => h answer rfl, fun h _ heq => Except.ok.inj heq ▸ h⟩

@[simp] theorem Reply.slotFree_error (halt : Halt) : Reply.SlotFree (.error halt) := by
  intro answer heq
  cases heq

@[simp] theorem Outcome.slotFree_ok {value : Value} :
    Outcome.SlotFree (.ok value) ↔ value.SlotFree :=
  ⟨fun h => h value rfl, fun h _ heq => Except.ok.inj heq ▸ h⟩

@[simp] theorem Outcome.slotFree_error (halt : Halt) : Outcome.SlotFree (.error halt) := by
  intro value heq
  cases heq

end TwoWay
