import FrameBatch.Text.Quoted

namespace FrameBatch.Text

abbrev ByteRange := Nat × Nat

def followers (lead : Nat) : Option (List ByteRange) :=
  let any : ByteRange := (0x80, 0xBF)
  if lead < 0x80 then some []
  else if lead < 0xC2 then none
  else if lead < 0xE0 then some [any]
  else if lead = 0xE0 then some [(0xA0, 0xBF), any]
  else if lead = 0xED then some [(0x80, 0x9F), any]
  else if lead < 0xF0 then some [any, any]
  else if lead = 0xF0 then some [(0x90, 0xBF), any, any]
  else if lead < 0xF4 then some [any, any, any]
  else if lead = 0xF4 then some [(0x80, 0x8F), any, any]
  else none

structure Malformed where
  start : Nat
  bytes : List UInt8
  reason : String

/-- What is wrong with the bytes after a lead byte, with the number of those that are right. -/
def brokenFollower : List ByteRange → List UInt8 → Option (Nat × String)
  | [], _ => none
  | _ :: _, [] => some (0, "unexpected end of data")
  | (least, most) :: ranges, b :: bytes =>
    if least ≤ b.toNat && b.toNat ≤ most then
      (brokenFollower ranges bytes).map fun (right, reason) => (right + 1, reason)
    else some (0, "invalid continuation byte")

/-- The first place, counted from `start`, at which bytes are no text. -/
def malformed? : Nat → Nat → List UInt8 → Option Malformed
  | 0, _, _ | _, _, [] => none
  | fuel + 1, start, b :: bytes =>
    match followers b.toNat with
    | none => some ⟨start, [b], "invalid start byte"⟩
    | some ranges =>
      match brokenFollower ranges bytes with
      | some (right, reason) => some ⟨start, b :: bytes.take right, reason⟩
      | none => malformed? fuel (start + ranges.length + 1) (bytes.drop ranges.length)

def Malformed.message (m : Malformed) : String :=
  let place := match m.bytes with
    | [b] => s!"byte 0x{String.ofList (hexDigits 2 b.toNat)} in position {m.start}"
    | bytes => s!"bytes in position {m.start}-{m.start + bytes.length - 1}"
  s!"'utf-8' codec can't decode {place}: {m.reason}"

def ofUtf8 (bytes : ByteArray) : Except String String :=
  match String.fromUTF8? bytes with
  | some text => .ok text
  | none =>
    let found := malformed? (bytes.size + 1) 0 bytes.toList
    .error ((found.map Malformed.message).getD "")

end FrameBatch.Text
