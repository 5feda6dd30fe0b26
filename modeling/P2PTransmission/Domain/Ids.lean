import Mathlib
import P2PTransmission.Foundation.TreeMap

/-!
# Identifiers, room codes and time

An identifier is a text that `validateId` accepts, and a `RoomCode` is a normalised text of six characters; both carry
the proof, so a value of the type is well formed and parsing its text again gives it back (`Identifier.parse_value`,
`RoomCode.parse_value`).

Times (`EpochMillis`) and revisions are `Nat` for the `u64` of the program: their order is that of `Nat`, and the only
arithmetic is checked, so the bound shows in `Revision.next` and `EpochMillis.checkedAdd` alone.
-/

set_option autoImplicit false

namespace P2PTransmission

/-! ## Identifiers -/

def MAX_ID_BYTES : Nat := 64

inductive IdError where
  | empty (kind : String)
  | tooLong (kind : String)
  | invalidCharacter (kind : String) (character : Char)
  deriving DecidableEq, Repr

/-- A character an identifier may hold. -/
def isIdCharacter (character : Char) : Bool :=
  character.isAlphanum || character == '_' || character == '-'

def validateId (value : String) (kind : String) : Except IdError Unit :=
  if value.isEmpty then .error (.empty kind)
  else if value.utf8ByteSize > MAX_ID_BYTES then .error (.tooLong kind)
  else match value.toList.find? (fun character => !isIdCharacter character) with
    | some character => .error (.invalidCharacter kind character)
    | none => .ok ()

/-- The identifier types of the program differ in the `kind` that their errors name. -/
structure Identifier (kind : String) where
  value : String
  valid : validateId value kind = .ok ()
  deriving DecidableEq

namespace Identifier

variable {kind : String}

@[ext] theorem ext {a b : Identifier kind} (h : a.value = b.value) : a = b := by
  cases a; cases b; cases h; rfl

instance : Ord (Identifier kind) := ⟨fun a b => compare a.value b.value⟩

instance : Std.TransOrd (Identifier kind) :=
  inferInstanceAs (Std.TransCmp (compareOn Identifier.value))

instance : Std.LawfulEqOrd (Identifier kind) where
  eq_of_compare h := Identifier.ext (Std.LawfulEqOrd.eq_of_compare (α := String) h)

def parse (kind : String) (value : String) : Except IdError (Identifier kind) :=
  match h : validateId value kind with
  | .ok () => .ok ⟨value, h⟩
  | .error error => .error error

theorem parse_value (a : Identifier kind) : parse kind a.value = .ok a := by
  unfold parse
  split
  · rfl
  · rename_i h
    rw [a.valid] at h
    cases h

/-- The identifier with a literal text. -/
abbrev of {kind : String} (value : String) (valid : validateId value kind = .ok () := by decide) : Identifier kind :=
  ⟨value, valid⟩

end Identifier

abbrev SessionId := Identifier "session id"
abbrev RoomId := Identifier "room id"
abbrev PeerId := Identifier "peer id"
abbrev RequestId := Identifier "request id"

/-! ## Room codes -/

/-- The characters with the Unicode property `White_Space`, which `trim` removes. -/
def isWhitespace (c : Char) : Bool :=
  let n := c.toNat
  (9 ≤ n && n ≤ 13) || n == 0x20 || n == 0x85 || n == 0xA0 || n == 0x1680 || (0x2000 ≤ n && n ≤ 0x200A) ||
    n == 0x2028 || n == 0x2029 || n == 0x202F || n == 0x205F || n == 0x3000

/-- `str::trim` on the characters of a text. -/
def trim (value : List Char) : List Char :=
  ((value.dropWhile isWhitespace).reverse.dropWhile isWhitespace).reverse

inductive RoomCodeError where
  | invalidLength
  | invalidCharacter (character : Char)
  deriving DecidableEq, Repr

def RoomCode.LENGTH : Nat := 6

/-- A character of a normalised room code. -/
def isCodeCharacter (c : Char) : Bool := c.isDigit || c.isUpper

theorem isCodeCharacter_iff {c : Char} : isCodeCharacter c = true ↔
    (48 ≤ c.toNat ∧ c.toNat ≤ 57) ∨ (65 ≤ c.toNat ∧ c.toNat ≤ 90) := by
  simp [isCodeCharacter, Char.isDigit, Char.isUpper, UInt32.le_iff_toNat_le, ← Char.toNat_val]

theorem isWhitespace_of_code {c : Char} (h : isCodeCharacter c = true) : isWhitespace c = false := by
  rw [isCodeCharacter_iff] at h
  simp only [isWhitespace, Bool.or_eq_false_iff, Bool.and_eq_false_iff, decide_eq_false_iff_not, beq_eq_false_iff_ne]
  omega

theorem toUpper_of_code {c : Char} (h : isCodeCharacter c = true) : c.toUpper = c := by
  apply Char.toUpper_eq_of_not_isLower
  rw [isCodeCharacter_iff] at h
  simp only [Char.isLower, Bool.and_eq_true, decide_eq_true_eq, ge_iff_le, UInt32.le_iff_toNat_le, Char.toNat_val]
  have : 'a'.toNat = 97 := rfl
  omega

theorem isAlphanum_of_code {c : Char} (h : isCodeCharacter c = true) : c.isAlphanum = true := by
  simp only [isCodeCharacter, Bool.or_eq_true] at h
  simp only [Char.isAlphanum, Char.isAlpha, Bool.or_eq_true]
  tauto

/-- An ASCII letter or digit in upper case is a digit or a capital letter. -/
theorem isCodeCharacter_toUpper {c : Char} (h : c.toUpper.isAlphanum = true) : isCodeCharacter c.toUpper = true := by
  simp only [Char.isAlphanum, Char.isAlpha, Char.isLower_toUpper_eq_false, Bool.or_false, Bool.or_eq_true] at h
  simp only [isCodeCharacter, Bool.or_eq_true]
  tauto

theorem dropWhile_isWhitespace {value : List Char} (h : value.all isCodeCharacter = true) :
    value.dropWhile isWhitespace = value := by
  cases value with
  | nil => rfl
  | cons c cs =>
    rw [List.all_cons, Bool.and_eq_true] at h
    rw [List.dropWhile_cons_of_neg (by simp [isWhitespace_of_code h.1])]

/-- A normalised text has nothing to trim. -/
theorem trim_of_code {value : List Char} (h : value.all isCodeCharacter = true) : trim value = value := by
  unfold trim
  rw [dropWhile_isWhitespace h, dropWhile_isWhitespace (by rw [List.all_reverse]; exact h), List.reverse_reverse]

structure RoomCode where
  value : String
  length : value.utf8ByteSize = RoomCode.LENGTH
  normalised : value.toList.all isCodeCharacter = true
  deriving DecidableEq

namespace RoomCode

@[ext] theorem ext {a b : RoomCode} (h : a.value = b.value) : a = b := by
  cases a; cases b; cases h; rfl

instance : Ord RoomCode := ⟨fun a b => compare a.value b.value⟩

instance : Std.TransOrd RoomCode :=
  inferInstanceAs (Std.TransCmp (compareOn RoomCode.value))

instance : Std.LawfulEqOrd RoomCode where
  eq_of_compare h := RoomCode.ext (Std.LawfulEqOrd.eq_of_compare (α := String) h)

/-- `trim().to_ascii_uppercase()`. -/
def normalise (value : String) : List Char := (trim value.toList).map Char.toUpper

theorem normalised_of_alphanum {value : String}
    (h : (normalise value).find? (fun character => !character.isAlphanum) = none) :
    (String.ofList (normalise value)).toList.all isCodeCharacter = true := by
  rw [String.toList_ofList, List.all_eq_true]
  intro c hc
  obtain ⟨d, -, rfl⟩ := List.mem_map.mp hc
  exact isCodeCharacter_toUpper (by simpa using List.find?_eq_none.mp h _ hc)

def parse (value : String) : Except RoomCodeError RoomCode :=
  if hlen : (String.ofList (normalise value)).utf8ByteSize = LENGTH then
    match h : (normalise value).find? (fun character => !character.isAlphanum) with
    | some character => .error (.invalidCharacter character)
    | none => .ok ⟨String.ofList (normalise value), hlen, normalised_of_alphanum h⟩
  else .error .invalidLength

theorem normalise_value (code : RoomCode) : normalise code.value = code.value.toList := by
  unfold normalise
  rw [trim_of_code code.normalised]
  have hall := List.all_eq_true.mp code.normalised
  exact (List.map_congr_left fun c hc => toUpper_of_code (hall c hc)).trans (List.map_id' _)

theorem parse_value (code : RoomCode) : parse code.value = .ok code := by
  have hn : String.ofList (normalise code.value) = code.value := by
    rw [normalise_value, String.ofList_toList]
  unfold parse
  rw [dif_pos (by rw [hn]; exact code.length)]
  split
  · rename_i character h
    have hmem := List.mem_of_find?_eq_some h
    rw [normalise_value] at hmem
    have hfound := List.find?_some h
    rw [isAlphanum_of_code (List.all_eq_true.mp code.normalised _ hmem)] at hfound
    cases hfound
  · exact congrArg Except.ok (RoomCode.ext hn)

/-- The room code with a literal text. -/
abbrev of (value : String) (length : value.utf8ByteSize = LENGTH := by decide)
    (normalised : value.toList.all isCodeCharacter = true := by decide) : RoomCode := ⟨value, length, normalised⟩

end RoomCode

/-! ## Time and revisions -/

def U64_MAX : Nat := 2 ^ 64 - 1

inductive TimeError where
  | overflow
  deriving DecidableEq, Repr

def EpochMillis.checkedAdd (time duration : Nat) : Except TimeError Nat :=
  if time + duration ≤ U64_MAX then .ok (time + duration) else .error .overflow

def Revision.next (revision : Nat) : Except TimeError Nat :=
  if revision + 1 ≤ U64_MAX then .ok (revision + 1) else .error .overflow

end P2PTransmission
