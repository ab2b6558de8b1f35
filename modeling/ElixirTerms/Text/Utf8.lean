/-
# UTF-8

Bytes are decoded strictly: overlong forms, surrogates and code points beyond the last plane are
refused.  An error tells which bytes could not be decoded and why.
-/
import ElixirTerms.Text.Quoted

namespace ElixirTerms.Utf8

/-- Why bytes are no character. -/
inductive Fault where
  /-- No character begins with the byte. -/
  | startByte
  /-- The byte after these cannot go on the character. -/
  | continuationByte
  /-- The data end within the character. -/
  | endOfData
  deriving DecidableEq

/-- The wording of a fault. -/
def Fault.message : Fault → Text
  | startByte => "invalid start byte"
  | continuationByte => "invalid continuation byte"
  | endOfData => "unexpected end of data"

/-- Bytes that could not be decoded: the first of them, how many they are, and why. -/
structure DecodeError where
  start : Nat
  first : UInt8
  count : Nat
  fault : Fault

/-- The wording of an error. -/
def DecodeError.message (e : DecodeError) : Text :=
  "'utf-8' codec can't decode " ++
    (if e.count = 1 then
      "byte 0x" ++ Text.hex 2 e.first.toNat ++ " in position " ++ Text.ofNat e.start
    else
      "bytes in position " ++ Text.ofNat e.start ++ "-" ++ Text.ofNat (e.start + e.count - 1)) ++
    ": " ++ e.fault.message

/-- What the first byte of a character announces: the bits that it gives, how many bytes follow,
and the range of the first of those. -/
structure Lead where
  bits : Nat
  following : Nat
  low : Nat
  high : Nat

/-- The announcement of a first byte. -/
def lead? (b : UInt8) : Option Lead :=
  let n := b.toNat
  if n < 0x80 then some ⟨n, 0, 0, 0⟩
  else if n < 0xC2 then none
  else if n < 0xE0 then some ⟨n - 0xC0, 1, 0x80, 0xBF⟩
  else if n = 0xE0 then some ⟨0, 2, 0xA0, 0xBF⟩
  else if n = 0xED then some ⟨0xD, 2, 0x80, 0x9F⟩
  else if n < 0xF0 then some ⟨n - 0xE0, 2, 0x80, 0xBF⟩
  else if n = 0xF0 then some ⟨0, 3, 0x90, 0xBF⟩
  else if n = 0xF4 then some ⟨4, 3, 0x80, 0x8F⟩
  else if n < 0xF4 then some ⟨n - 0xF0, 3, 0x80, 0xBF⟩
  else none

/-- Read the bytes that follow a first byte: the code point and the bytes left, or how many bytes
could be read and why the next could not. -/
def follow : (following low high bits count : Nat) → List UInt8 →
    Except (Nat × Fault) (Nat × List UInt8)
  | 0, _, _, bits, _, bytes => .ok (bits, bytes)
  | _ + 1, _, _, _, count, [] => .error (count, .endOfData)
  | following + 1, low, high, bits, count, b :: bytes =>
    if low ≤ b.toNat ∧ b.toNat ≤ high then
      follow following 0x80 0xBF (bits * 64 + (b.toNat - 0x80)) (count + 1) bytes
    else .error (count, .continuationByte)

/-- The bytes left are no more than those given. -/
theorem length_le_of_follow {following low high bits count code : Nat} {bytes rest : List UInt8}
    (h : follow following low high bits count bytes = .ok (code, rest)) :
    rest.length ≤ bytes.length := by
  fun_induction follow following low high bits count bytes with
  | case1 => simp_all
  | case2 => simp at h
  | case3 _ _ _ _ _ _ _ _ ih => exact Nat.le_succ_of_le (ih h)
  | case4 => simp at h

/-- The characters of bytes of which the first stands at a position. -/
def decodeFrom (position : Nat) (bytes : List UInt8) : Except DecodeError Text :=
  match bytes with
  | [] => .ok []
  | b :: later =>
    match lead? b with
    | none => .error ⟨position, b, 1, .startByte⟩
    | some lead =>
      match _h : follow lead.following lead.low lead.high lead.bits 1 later with
      | .error (count, fault) => .error ⟨position, b, count, fault⟩
      | .ok (code, rest) =>
        (decodeFrom (position + 1 + lead.following) rest).map (Char.ofNat code :: ·)
termination_by bytes.length
decreasing_by exact Nat.lt_succ_of_le (length_le_of_follow ‹_›)

/-- The characters of bytes. -/
def decode (bytes : List UInt8) : Except DecodeError Text := decodeFrom 0 bytes

end ElixirTerms.Utf8
