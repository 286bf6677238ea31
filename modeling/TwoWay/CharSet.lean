/-!
Sets of characters, held as increasing, disjoint ranges of code points with a
gap between any two neighbours. Every operation below keeps that form, so two
sets that cover the same code points are the same list of ranges.

A range may run across the surrogate block; no character lies there, so it
adds no member.
-/

namespace TwoWay

/-- A set of characters as closed ranges of code points, in increasing order. -/
structure CharSet where
  ranges : List (Nat × Nat)
  deriving DecidableEq, Repr

namespace CharSet

def last : Nat := 0x10FFFF

def empty : CharSet := ⟨[]⟩

/-- Whether a code point lies in one of some increasing ranges. The search
stops at the first range that begins above it. -/
def covers : List (Nat × Nat) → Nat → Bool
  | [], _ => false
  | (lo, hi) :: rest, n => if n < lo then false else n ≤ hi || covers rest n

def contains (s : CharSet) (c : Char) : Bool := covers s.ranges c.toNat

instance : Membership Char CharSet where
  mem s c := s.contains c = true

instance (c : Char) (s : CharSet) : Decidable (c ∈ s) :=
  inferInstanceAs (Decidable (s.contains c = true))

/-- Joins ranges that are sorted by their lower ends wherever two of them
overlap or touch. `lo` and `hi` bound the range under construction. -/
def joinFrom (lo hi : Nat) : List (Nat × Nat) → List (Nat × Nat)
  | [] => [(lo, hi)]
  | (lo', hi') :: rest =>
      if lo' ≤ hi + 1 then joinFrom lo (max hi hi') rest
      else (lo, hi) :: joinFrom lo' hi' rest

def join : List (Nat × Nat) → List (Nat × Nat)
  | [] => []
  | (lo, hi) :: rest => joinFrom lo hi rest

/-- Merges a list that begins with `first` into one sorted by lower ends, where
`merged` does so for what follows `first`. -/
def mergeAfter (first : Nat × Nat) (merged : List (Nat × Nat) → List (Nat × Nat)) :
    List (Nat × Nat) → List (Nat × Nat)
  | [] => first :: merged []
  | r :: rest =>
      if first.1 ≤ r.1 then first :: merged (r :: rest)
      else r :: mergeAfter first merged rest

def merge : List (Nat × Nat) → List (Nat × Nat) → List (Nat × Nat)
  | [], others => others
  | r :: rest, others => mergeAfter r (merge rest) others

def union (s t : CharSet) : CharSet := ⟨join (merge s.ranges t.ranges)⟩

def range (lo hi : Nat) : CharSet := if lo ≤ hi then ⟨[(lo, hi)]⟩ else empty

def interval (a b : Char) : CharSet := range a.toNat b.toNat

def singleton (c : Char) : CharSet := ⟨[(c.toNat, c.toNat)]⟩

def ofCodes (codes : List Nat) : CharSet :=
  ⟨join ((codes.map fun n => (n, n)).foldr (fun r sorted => merge [r] sorted) [])⟩

def ofList (cs : List Char) : CharSet := ofCodes (cs.map Char.toNat)

/-- The gaps between increasing ranges, from `start` on. -/
def gapsFrom (start : Nat) : List (Nat × Nat) → List (Nat × Nat)
  | [] => if start ≤ last then [(start, last)] else []
  | (lo, hi) :: rest =>
      if start < lo then (start, lo - 1) :: gapsFrom (hi + 1) rest
      else gapsFrom (hi + 1) rest

def complement (s : CharSet) : CharSet := ⟨gapsFrom 0 s.ranges⟩

def intersection (s t : CharSet) : CharSet :=
  (s.complement.union t.complement).complement

def difference (s t : CharSet) : CharSet := s.intersection t.complement

def symmetricDifference (s t : CharSet) : CharSet :=
  (s.union t).difference (s.intersection t)

end CharSet

end TwoWay
