/-! Reading bytes as UTF-8, and the place and kind of the first fault where they are not. -/
namespace ExtTypes.Text

inductive Utf8Reason
  | startByte
  | continuation
  | cutShort
  deriving DecidableEq, Repr

def Utf8Reason.text : Utf8Reason → String
  | .startByte => "invalid start byte"
  | .continuation => "invalid continuation byte"
  | .cutShort => "unexpected end of data"

/-- The faulty bytes: the first one, its place, and how many there are. -/
structure Utf8Fault where
  byte : UInt8
  start : Nat
  count : Nat
  reason : Utf8Reason
  deriving DecidableEq, Repr

/-- The bytes that may follow `lead` as the second byte of a sequence. -/
def secondRange (lead : UInt8) : UInt8 × UInt8 :=
  if lead = 0xE0 then (0xA0, 0xBF)
  else if lead = 0xED then (0x80, 0x9F)
  else if lead = 0xF0 then (0x90, 0xBF)
  else if lead = 0xF4 then (0x80, 0x8F)
  else (0x80, 0xBF)

/-- How many bytes must follow `lead`, if it can start a sequence. -/
def followers? (lead : UInt8) : Option Nat :=
  if lead < 0x80 then some 0
  else if lead < 0xC2 then none
  else if lead < 0xE0 then some 1
  else if lead < 0xF0 then some 2
  else if lead < 0xF5 then some 3
  else none

/-- How many of the bytes that must follow are there, and what is wrong with the next one. -/
def checkFollowers : UInt8 × UInt8 → Nat → List UInt8 → Nat → Option (Nat × Utf8Reason)
  | _, 0, _, _ => none
  | _, _ + 1, [], k => some (k, .cutShort)
  | r, n + 1, b :: bs, k =>
    if r.1 ≤ b ∧ b ≤ r.2 then checkFollowers (0x80, 0xBF) n bs (k + 1)
    else some (k, .continuation)

/-- The first fault of `bs`, whose first byte stands at place `pos`. The first `skip` bytes
belong to a sequence that has been checked. -/
def firstFault? : Nat → Nat → List UInt8 → Option Utf8Fault
  | _, _, [] => none
  | pos, skip + 1, _ :: bs => firstFault? (pos + 1) skip bs
  | pos, 0, b :: bs =>
    match followers? b with
    | none => some ⟨b, pos, 1, .startByte⟩
    | some n =>
      match checkFollowers (secondRange b) n bs 1 with
      | some (k, why) => some ⟨b, pos, k, why⟩
      | none => firstFault? (pos + 1) n bs

/-- The fault shown for bytes that are no UTF-8. -/
def faultOf (bytes : ByteArray) : Utf8Fault :=
  (firstFault? 0 0 bytes.toList).getD ⟨0, 0, 0, .startByte⟩

def decodeUtf8 (bytes : ByteArray) : Except Utf8Fault String :=
  match String.fromUTF8? bytes with
  | some s => .ok s
  | none => .error (faultOf bytes)

def hexDigit (n : Nat) : Char := "0123456789abcdef".toList.getD n '0'

/-- The low `width` hexadecimal digits of `n`. -/
def hexText : Nat → Nat → List Char
  | 0, _ => []
  | width + 1, n => hexText width (n / 16) ++ [hexDigit (n % 16)]

def Utf8Fault.message (f : Utf8Fault) : String :=
  let place :=
    if f.count = 1 then
      "byte 0x" ++ String.ofList (hexText 2 f.byte.toNat) ++ " in position " ++ toString f.start
    else
      "bytes in position " ++ toString f.start ++ "-" ++ toString (f.start + f.count - 1)
  "'utf-8' codec can't decode " ++ place ++ ": " ++ f.reason.text

theorem fromUTF8_toUTF8 (s : String) : String.fromUTF8? s.toUTF8 = some s := by
  simp only [String.fromUTF8?, String.toUTF8_eq_toByteArray, dif_pos s.isValidUTF8]
  rfl

/-- Decoding accepts exactly the encoding of the text it returns. -/
theorem decodeUtf8_eq_ok_iff {b : ByteArray} {s : String} :
    decodeUtf8 b = .ok s ↔ s.toUTF8 = b := by
  constructor
  · intro h
    unfold decodeUtf8 String.fromUTF8? at h
    by_cases hv : b.IsValidUTF8
    · simp only [hv, dite_true] at h
      cases h
      rfl
    · simp [hv] at h
  · rintro rfl
    rw [decodeUtf8, fromUTF8_toUTF8]

end ExtTypes.Text
