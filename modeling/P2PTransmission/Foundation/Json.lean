import Mathlib.Algebra.Order.BigOperators.Group.List
import Mathlib.Algebra.Order.Ring.Nat

/-!
# Writing JSON

A text in JSON is put together from the texts of its parts: strings with the characters escaped that have to be, numbers,
arrays, and objects whose members stand in the order in which they are given, without white space.

The lemmas count bytes. A string takes its own bytes, two quotation marks and what escaping adds (`size_writeString`), an
object its frame, which depends on the keys alone, and its values (`size_writeObject`). Where every control character has a
short escape, escaping at most doubles a string (`escapes_le`).
-/

set_option autoImplicit false

namespace P2PTransmission.Json

/-! ## Characters -/

def quotationMark : Char := Char.ofNat 0x22

def reverseSolidus : Char := Char.ofNat 0x5c

def hexDigit (n : Nat) : Char := if n < 10 then Char.ofNat (0x30 + n) else Char.ofNat (0x61 + (n - 10))

/-- The letter after the reverse solidus, for the characters that have one. -/
def shortEscape (c : Char) : Option Char :=
  match c.toNat with
  | 0x08 => some 'b'
  | 0x09 => some 't'
  | 0x0a => some 'n'
  | 0x0c => some 'f'
  | 0x0d => some 'r'
  | 0x22 => some quotationMark
  | 0x5c => some reverseSolidus
  | _ => none

/-- A character inside a string. -/
def escape (c : Char) : List Char :=
  match shortEscape c with
  | some letter => [reverseSolidus, letter]
  | none =>
    if c.toNat < 0x20 then [reverseSolidus, 'u', '0', '0', hexDigit (c.toNat / 16), hexDigit (c.toNat % 16)] else [c]

/-- The bytes that escaping the character adds. -/
def escapeCost (c : Char) : Nat :=
  match shortEscape c with
  | some _ => 1
  | none => if c.toNat < 0x20 then 5 else 0

/-- The bytes that escaping the string adds. -/
def escapes (s : String) : Nat := (s.toList.map escapeCost).sum

/-! ## Texts -/

def writeString (s : String) : String :=
  String.singleton quotationMark ++ String.ofList (s.toList.flatMap escape) ++ String.singleton quotationMark

def writeNat (n : Nat) : String := toString n

def writeBool (b : Bool) : String := if b then "true" else "false"

def writeOption {α : Type} (write : α → String) : Option α → String
  | none => "null"
  | some value => write value

/-- The texts with commas between them. -/
def separated : List String → String
  | [] => ""
  | [text] => text
  | text :: next :: texts => text ++ "," ++ separated (next :: texts)

def writeArray (elements : List String) : String := "[" ++ separated elements ++ "]"

def writeMember (member : String × String) : String := writeString member.1 ++ ":" ++ member.2

def writeObject (members : List (String × String)) : String :=
  "\x7b" ++ separated (members.map writeMember) ++ "\x7d"

/-! ## Bytes -/

/-- The bytes of a text. -/
def byteLength (text : String) : Nat := text.utf8ByteSize

/-- The bytes of an object with these keys, without its values. -/
def frameSize (keys : List String) : Nat := (keys.map fun key => byteLength (writeString key) + 1).sum + (keys.length - 1) + 2

section Sizes

variable {s t : String}

theorem size_append : byteLength (s ++ t) = byteLength s + byteLength t := String.utf8ByteSize_append

theorem size_singleton (c : Char) : byteLength (String.singleton c) = c.utf8Size := String.utf8ByteSize_singleton

theorem size_ofList (cs : List Char) : byteLength (String.ofList cs) = (cs.map Char.utf8Size).sum := by
  induction cs with
  | nil => rfl
  | cons c cs ih =>
    have hcons : String.ofList (c :: cs) = String.singleton c ++ String.ofList cs := by
      rw [String.singleton_eq_ofList, ← String.ofList_append]
      rfl
    rw [hcons, size_append, size_singleton, ih]
    rfl

theorem size_eq_sum (s : String) : byteLength s = (s.toList.map Char.utf8Size).sum := by
  rw [← size_ofList, String.ofList_toList]

/-! ### Strings -/

theorem utf8Size_of_lt {c : Char} (h : c.toNat < 0x80) : c.utf8Size = 1 := by
  apply Char.utf8Size_eq_one_iff.mpr
  show c.val.toNat ≤ 127
  exact Nat.le_of_lt_succ h

theorem hexDigit_toNat {n : Nat} (h : n < 16) : (hexDigit n).toNat < 0x80 := by
  have hall : ∀ m < 16, (hexDigit m).toNat < 0x80 := by decide
  exact hall n h

theorem shortEscape_toNat {c letter : Char} (h : shortEscape c = some letter) : c.toNat < 0x80 ∧ letter.toNat < 0x80 := by
  unfold shortEscape at h
  split at h
  all_goals first | cases h | skip
  all_goals exact ⟨by omega, by decide⟩

/-- An escaped character takes its own bytes and what escaping adds. -/
theorem size_escape (c : Char) : ((escape c).map Char.utf8Size).sum = c.utf8Size + escapeCost c := by
  unfold escape escapeCost
  cases hshort : shortEscape c with
  | some letter =>
    obtain ⟨hc, hletter⟩ := shortEscape_toNat hshort
    simp [utf8Size_of_lt hc, utf8Size_of_lt hletter, utf8Size_of_lt (show reverseSolidus.toNat < 0x80 by decide)]
  | none =>
    by_cases hcontrol : c.toNat < 0x20
    · have hc : c.utf8Size = 1 := utf8Size_of_lt (by omega)
      have hhigh : (hexDigit (c.toNat / 16)).utf8Size = 1 := utf8Size_of_lt (hexDigit_toNat (by omega))
      have hlow : (hexDigit (c.toNat % 16)).utf8Size = 1 := utf8Size_of_lt (hexDigit_toNat (by omega))
      have hrest : reverseSolidus.utf8Size = 1 ∧ 'u'.utf8Size = 1 ∧ '0'.utf8Size = 1 := by decide
      simp [hcontrol, hc, hhigh, hlow, hrest]
    · simp [hcontrol]

theorem size_escaped (cs : List Char) :
    ((cs.flatMap escape).map Char.utf8Size).sum = (cs.map Char.utf8Size).sum + (cs.map escapeCost).sum := by
  induction cs with
  | nil => rfl
  | cons c cs ih =>
    simp only [List.flatMap_cons, List.map_append, List.sum_append, List.map_cons, List.sum_cons, ih, size_escape]
    omega

theorem size_writeString (s : String) : byteLength (writeString s) = byteLength s + escapes s + 2 := by
  have hquote : quotationMark.utf8Size = 1 := by decide
  unfold writeString escapes
  rw [size_append, size_append, size_ofList, size_escaped, size_singleton, hquote, size_eq_sum]
  omega

/-- A string of which no character has to be escaped. -/
theorem escapes_eq_zero (h : ∀ c ∈ s.toList, escapeCost c = 0) : escapes s = 0 := by
  apply List.sum_eq_zero
  intro cost hcost
  obtain ⟨c, hc, rfl⟩ := List.mem_map.mp hcost
  exact h c hc

/-- Escaping at most doubles a string whose control characters all have a short escape. -/
theorem escapes_le (h : ∀ c ∈ s.toList, escapeCost c ≤ 1) : escapes s ≤ byteLength s := by
  rw [size_eq_sum]
  apply List.sum_le_sum
  intro c hc
  exact (h c hc).trans c.utf8Size_pos

theorem escapeCost_of_not_control {c : Char} (h : 0x20 ≤ c.toNat) : escapeCost c ≤ 1 := by
  unfold escapeCost
  cases shortEscape c with
  | some letter => exact Nat.le_refl 1
  | none => simp [Nat.not_lt.mpr h]

/-- Letters and digits, and the like, stand for themselves. -/
theorem escapeCost_eq_zero {c : Char} (hcontrol : 0x20 ≤ c.toNat) (hquote : c.toNat ≠ 0x22) (hsolidus : c.toNat ≠ 0x5c) :
    escapeCost c = 0 := by
  unfold escapeCost shortEscape
  split
  · rename_i letter hshort
    split at hshort
    all_goals first | omega | cases hshort
  · rw [if_neg (by omega)]

/-! ### Numbers -/

theorem isDigit_toNat {c : Char} (h : c.isDigit = true) : c.toNat < 0x80 := by
  simp only [Char.isDigit, Bool.and_eq_true, decide_eq_true_eq] at h
  have hle : c.val.toNat ≤ 57 := h.2
  show c.val.toNat < 0x80
  omega

/-- A number takes a byte for each digit. -/
theorem size_writeNat (n : Nat) : byteLength (writeNat n) = n.repr.length := by
  show byteLength n.repr = _
  rw [size_eq_sum, Nat.toList_repr, ← String.length_toList, Nat.toList_repr]
  have hdigits : ∀ c ∈ Nat.toDigits 10 n, c.utf8Size = 1 := by
    intro c hc
    exact utf8Size_of_lt (isDigit_toNat (Nat.isDigit_of_mem_toDigits (by omega) (by omega) hc))
  rw [List.map_congr_left hdigits]
  simp

theorem size_writeNat_le {n k : Nat} (hk : 0 < k) (h : n < 10 ^ k) : byteLength (writeNat n) ≤ k := by
  rw [size_writeNat]
  exact (Nat.length_repr_le_iff hk).mpr h

/-! ### Arrays and objects -/

theorem size_writeBool (b : Bool) : byteLength (writeBool b) ≤ 5 := by
  cases b
  · decide
  · decide

theorem size_separated : ∀ texts : List String, byteLength (separated texts) = (texts.map byteLength).sum + (texts.length - 1)
  | [] => rfl
  | [text] => by simp [separated]
  | text :: next :: texts => by
    have hcomma : byteLength "," = 1 := by decide
    rw [separated, size_append, size_append, size_separated (next :: texts), hcomma]
    simp only [List.map_cons, List.sum_cons, List.length_cons]
    omega

theorem size_writeArray (elements : List String) :
    byteLength (writeArray elements) = (elements.map byteLength).sum + (elements.length - 1) + 2 := by
  have hopen : byteLength "[" = 1 := by decide
  have hclose : byteLength "]" = 1 := by decide
  rw [writeArray, size_append, size_append, size_separated, hopen, hclose]
  omega

/-- An array of elements of bounded size. -/
theorem size_writeArray_le {elements : List String} {count bound : Nat} (hcount : elements.length ≤ count)
    (hbound : ∀ element ∈ elements, byteLength element ≤ bound) : byteLength (writeArray elements) ≤ count * (bound + 1) + 2 := by
  have hsum : (elements.map byteLength).sum ≤ (elements.map byteLength).length * bound := by
    apply List.sum_le_card_nsmul
    intro size hsize
    obtain ⟨element, helement, rfl⟩ := List.mem_map.mp hsize
    exact hbound element helement
  have hmul : elements.length * bound ≤ count * bound := Nat.mul_le_mul_right bound hcount
  rw [size_writeArray, Nat.mul_add]
  rw [List.length_map] at hsum
  omega

/-- An object takes its frame and its values. -/
theorem size_writeObject (members : List (String × String)) :
    byteLength (writeObject members) =
      frameSize (members.map (·.1)) + (members.map fun member => byteLength member.2).sum := by
  have hopen : byteLength "\x7b" = 1 := by decide
  have hclose : byteLength "\x7d" = 1 := by decide
  have hcolon : byteLength ":" = 1 := by decide
  have hmembers : ((members.map writeMember).map byteLength).sum =
      ((members.map (·.1)).map fun key => byteLength (writeString key) + 1).sum +
        (members.map fun member => byteLength member.2).sum := by
    induction members with
    | nil => rfl
    | cons member members ih =>
      simp only [List.map_cons, List.sum_cons, ih, writeMember, size_append, hcolon]
      omega
  rw [writeObject, size_append, size_append, size_separated, hopen, hclose, hmembers, frameSize]
  simp only [List.length_map]
  omega

end Sizes

end P2PTransmission.Json
