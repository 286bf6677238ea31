/-!
Text as a list of characters, measured in bytes of UTF-8, the bytes at the ends of
a character, what follows an offset in bytes, and the removal of a fixed text from
the front of another.
-/

namespace TwoWay.Text

/-- The length of a text in bytes of UTF-8. -/
def byteLength : List Char → Nat
  | [] => 0
  | c :: cs => c.utf8Size + byteLength cs

@[simp] theorem byteLength_nil : byteLength [] = 0 := rfl

@[simp] theorem byteLength_cons (c : Char) (cs : List Char) :
    byteLength (c :: cs) = c.utf8Size + byteLength cs := rfl

@[simp] theorem byteLength_append (s t : List Char) :
    byteLength (s ++ t) = byteLength s + byteLength t := by
  induction s with
  | nil => simp
  | cons c cs ih => simp [ih, Nat.add_assoc]

theorem byteLength_eq_zero {s : List Char} : byteLength s = 0 ↔ s = [] := by
  cases s with
  | nil => simp
  | cons c cs =>
      have := Char.utf8Size_pos c
      simp only [byteLength_cons, reduceCtorEq, iff_false]
      omega

/-- What follows the first `n` bytes of a text, when a character ends there. -/
def afterBytes? : (n : Nat) → List Char → Option (List Char)
  | 0, text => some text
  | _ + 1, [] => none
  | n + 1, c :: cs =>
      if c.utf8Size ≤ n + 1 then afterBytes? (n + 1 - c.utf8Size) cs else none

theorem afterBytes?_byteLength (s t : List Char) :
    afterBytes? (byteLength s) (s ++ t) = some t := by
  induction s with
  | nil => simp [afterBytes?]
  | cons c cs ih =>
      have hpos := Char.utf8Size_pos c
      have hlength : byteLength (c :: cs) = c.utf8Size - 1 + byteLength cs + 1 := by
        simp only [byteLength_cons]
        omega
      have hrest : c.utf8Size - 1 + byteLength cs + 1 - c.utf8Size = byteLength cs := by omega
      rw [hlength, List.cons_append, afterBytes?, if_pos (by omega), hrest]
      exact ih

def firstByte? (c : Char) : Option UInt8 := (String.utf8EncodeChar c).head?

def lastByte? (c : Char) : Option UInt8 := (String.utf8EncodeChar c).getLast?

/-- A byte of ASCII begins the one character that it is. -/
theorem firstByte?_eq_some {c : Char} {byte : UInt8} (hascii : byte.toNat < 0x80) :
    firstByte? c = some byte ↔ c.toNat = byte.toNat := by
  have hval : c.val.toNat = c.toNat := rfl
  simp only [firstByte?, String.utf8EncodeChar, hval]
  repeat' split
  all_goals
    simp only [List.head?_cons, Option.some.injEq, ← UInt8.toNat_inj, UInt8.toNat_ofNat']
    omega

theorem lastByte?_eq_some {c : Char} {byte : UInt8} (hascii : byte.toNat < 0x80) :
    lastByte? c = some byte ↔ c.toNat = byte.toNat := by
  have hval : c.val.toNat = c.toNat := rfl
  simp only [lastByte?, String.utf8EncodeChar, hval]
  repeat' split
  all_goals
    simp only [List.getLast?_cons, List.getLast?_nil, Option.getD_some, Option.getD_none,
      Option.some.injEq, ← UInt8.toNat_inj, UInt8.toNat_ofNat']
    omega

/-- What follows `literal` in `input`, when `input` begins with it. -/
def dropLiteral? : (literal input : List Char) → Option (List Char)
  | [], input => some input
  | _ :: _, [] => none
  | c :: literal, d :: input => if c = d then dropLiteral? literal input else none

theorem dropLiteral?_eq_some {literal input rest : List Char} :
    dropLiteral? literal input = some rest ↔ input = literal ++ rest := by
  induction literal generalizing input with
  | nil => simp [dropLiteral?]
  | cons c cs ih =>
      cases input with
      | nil => simp [dropLiteral?]
      | cons d ds =>
          simp only [dropLiteral?, List.cons_append, List.cons.injEq]
          split
          · rename_i h
            simp [ih, h]
          · rename_i h
            simp [Ne.symm h]

end TwoWay.Text
