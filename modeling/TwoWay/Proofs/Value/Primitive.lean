import Mathlib
import TwoWay.Needle
import TwoWay.Proofs.Value.Equality

/-!
Equality of the values that a needle may hold. They are equal when they are the same, but for
numbers, which are compared as numbers: the two zeros are different and equal. So values are
told apart by equality as by their texts, except for the zeros, of which one is written with a
sign.

Needles are equal when they have equal values under the same keys, in order.
-/

namespace TwoWay

namespace Value

variable {a b v : Value}

/-- Whether two values are the two zeros, one of each sign. -/
def OppositeZeros (a b : Value) : Prop :=
  (a = .number 0 ∧ b = .number (-0)) ∨ (a = .number (-0) ∧ b = .number 0)

/-- All the ways in which a value equals one that a needle may hold. -/
theorem cases_of_beq (hprimitive : b.isPrimitive = true) (h : (a == b) = true) :
    a = b ∨ ∃ m n, a = .number m ∧ b = .number n ∧ (m == n) = true := by
  cases b with
  | nil =>
      cases a with
      | nil => exact Or.inl rfl
      | number _ | string _ | bool _ | list _ | map _ | slot _ => exact Bool.noConfusion h
  | number n =>
      cases a with
      | number m => exact Or.inr ⟨m, n, rfl, rfl, h⟩
      | nil | string _ | bool _ | list _ | map _ | slot _ => exact Bool.noConfusion h
  | string s => exact Or.inl (beq_string.1 h)
  | bool c =>
      cases a with
      | bool c' =>
          have hsame : (c' == c) = true := h
          exact Or.inl (congrArg bool (eq_of_beq hsame))
      | nil | number _ | string _ | list _ | map _ | slot _ => exact Bool.noConfusion h
  | list _ | map _ | slot _ => cases hprimitive

/-- Equal values that a needle may hold are the same, or they are the two zeros. -/
theorem eq_or_oppositeZeros_of_beq (hprimitive : b.isPrimitive = true) (h : (a == b) = true) :
    a = b ∨ OppositeZeros a b := by
  rcases cases_of_beq hprimitive h with heq | ⟨m, n, rfl, rfl, hmn⟩
  · exact Or.inl heq
  · obtain ⟨_, _, heq | ⟨hm, hn⟩ | ⟨hm, hn⟩⟩ := Float.beq_iff_ne_nan_and_eq.1 hmn
    · exact Or.inl (congrArg number heq)
    · exact Or.inr (Or.inl ⟨congrArg number hm, congrArg number hn⟩)
    · exact Or.inr (Or.inr ⟨congrArg number hm, congrArg number hn⟩)

theorem beq_symm (hprimitive : b.isPrimitive = true) (h : (a == b) = true) : (b == a) = true := by
  rcases cases_of_beq hprimitive h with rfl | ⟨m, n, rfl, rfl, hmn⟩
  · exact h
  · have hnm : (n == m) = true := BEq.symm hmn
    exact hnm

theorem beq_trans (ha : a.isPrimitive = true) (hb : b.isPrimitive = true)
    (hva : (v == a) = true) (hab : (a == b) = true) : (v == b) = true := by
  rcases cases_of_beq hb hab with rfl | ⟨m, n, rfl, rfl, hmn⟩
  · exact hva
  · rcases cases_of_beq ha hva with rfl | ⟨l, m', rfl, hm, hlm⟩
    · exact hab
    · obtain rfl := number.inj hm
      have hln : (l == n) = true := BEq.trans hlm hmn
      exact hln

/-- Equal values have different texts in a needle just when they are the two zeros. -/
theorem needleText?_eq_iff_of_beq (hprimitive : b.isPrimitive = true) (h : (a == b) = true) :
    a.needleText? = b.needleText? ↔ ¬ OppositeZeros a b := by
  constructor
  · have hunlike : needleText? (.number 0) ≠ needleText? (.number (-0)) := by decide +kernel
    rintro htexts (⟨rfl, rfl⟩ | ⟨rfl, rfl⟩)
    · exact hunlike htexts
    · exact hunlike htexts.symm
  · intro hzeros
    rcases eq_or_oppositeZeros_of_beq hprimitive h with rfl | hopposite
    · rfl
    · exact absurd hopposite hzeros

end Value

namespace Needle

variable {needle needle' : Needle}

theorem beq_iff :
    (needle == needle') = true ↔
      List.Forall₂ (fun a b => a.1 = b.1 ∧ (a.2 == b.2) = true) needle.fields needle'.fields := by
  show (Value.map needle.fields == Value.map needle'.fields) = true ↔ _
  rw [Value.map_beq_map, Bindings.normal_eq_self needle.ordered,
    Bindings.normal_eq_self needle'.ordered]

theorem keys_eq_of_beq (h : (needle == needle') = true) : needle.keys = needle'.keys := by
  have hkeys : List.Forall₂ (· = ·) needle.keys needle'.keys :=
    List.forall₂_map_left_iff.2 (List.forall₂_map_right_iff.2
      ((beq_iff.1 h).imp fun _ _ hfields => hfields.1))
  rwa [List.forall₂_eq_eq_eq] at hkeys

theorem field_of_beq (h : (needle == needle') = true) {field : String × Value}
    (hfield : field ∈ needle.fields) :
    ∃ value, (field.1, value) ∈ needle'.fields ∧ (field.2 == value) = true := by
  obtain ⟨value, hvalue, heq⟩ :=
    Bindings.lookup_of_forall₂ (R := fun a b => (a == b) = true) (beq_iff.1 h)
      ((Bindings.lookup_eq_some_of_nodup needle.ordered.nodup).2 hfield)
  exact ⟨value, (Bindings.lookup_eq_some_of_nodup needle'.ordered.nodup).1 hvalue, heq⟩

protected theorem beq_symm (h : (needle == needle') = true) : (needle' == needle) = true := by
  obtain ⟨hlength, hfields⟩ := List.forall₂_iff_zip.1 (beq_iff.1 h)
  refine beq_iff.2 (.flip (List.forall₂_iff_zip.2 ⟨hlength, ?_⟩))
  intro a b hplace
  obtain ⟨hkey, hequal⟩ := hfields hplace
  obtain ⟨_, hb⟩ := List.of_mem_zip hplace
  exact ⟨hkey.symm, Value.beq_symm (needle'.primitive b hb) hequal⟩

end Needle

end TwoWay
