import FrameBatch.Tensor.ElementType

/-!
Numbers as arrays hold them, and the conversion to a type: whole numbers wrap, reals lose their
fraction on the way to whole numbers and are rounded on the way to a narrower type.
-/

namespace FrameBatch

inductive Scalar where
  | whole (z : Int)
  | real (x : Binary)
  deriving DecidableEq, Inhabited

namespace Scalar

def toBinary : Scalar → Binary
  | .whole z => .ofInt z
  | .real x => x

def isZero : Scalar → Bool
  | .whole z => z == 0
  | .real x => x.isZero

/-- The integer part; none for infinities and data that are not numbers. -/
def truncate? : Scalar → Option Int
  | .whole z => some z
  | .real x => x.truncate?

end Scalar

/-- The integer of so many bits that is congruent to `z`. -/
def wrap (signed : Bool) (bits : Nat) (z : Int) : Int :=
  if signed then z.bmod (1 <<< bits) else z % (1 <<< bits : Nat)

def wholeRange (signed : Bool) (bits : Nat) : Int × Int :=
  let half : Int := (1 <<< (bits - 1) : Nat)
  if signed then (-half, half - 1) else (0, (1 <<< bits : Nat) - 1)

namespace Storage

/-- A number as it is stored. A real without an integer part becomes zero in a whole type. -/
def cast (s : Storage) (v : Scalar) : Scalar :=
  match s with
  | .whole signed bits => .whole (wrap signed bits (v.truncate?.getD 0))
  | .real f => .real (f.round v.toBinary)
  | .truth => .whole (!v.isZero).toNat
  | .complex => .real (Format.single.round v.toBinary)

def isReal : Storage → Bool
  | .real _ => true
  | _ => false

end Storage

namespace NumberType

def cast (t : NumberType) (v : Scalar) : Scalar := t.storage.cast v

def zero (t : NumberType) : Scalar := t.cast (.whole 0)

def one (t : NumberType) : Scalar := t.cast (.whole 1)

end NumberType

end FrameBatch
