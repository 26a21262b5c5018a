import FrameBatch.Tensor.Basic

namespace FrameBatch.Broadcast

/-- Whether a shape can be stretched to another; both are given from the last axis. -/
def fits : List Nat → List Nat → Bool
  | [], _ => true
  | s :: ss, [] => s == 1 && fits ss []
  | s :: ss, d :: ds => (s == d || s == 1) && fits ss ds

/-- The place in the narrow array that is repeated at place `k` of the wide one. -/
def place : List Nat → List Nat → Nat → Nat
  | [], _, _ => 0
  | _ :: _, [], _ => 0
  | s :: ss, d :: ds, k => (if s = 1 then 0 else k % d) + s * place ss ds (k / d)

/-- The least shape that both can be stretched to; all are given from the last axis. -/
def join : List Nat → List Nat → Option (List Nat)
  | [], ds => some ds
  | ss, [] => some ss
  | s :: ss, d :: ds =>
    if s = d || d = 1 then (join ss ds).map (s :: ·)
    else if s = 1 then (join ss ds).map (d :: ·)
    else none

end FrameBatch.Broadcast

namespace FrameBatch.Tensor

/-- The tensor `source` stretched over `target` and converted to its type. -/
def assign? (target source : Tensor) : Option Tensor :=
  let narrow := source.shape.reverse
  let wide := target.shape.reverse
  if Broadcast.fits narrow wide then
    some (target.mapPlaces target.type fun k _ =>
      target.type.cast (source.get (Broadcast.place narrow wide k)))
  else none

def assign (target source : Tensor) : Except Fault Tensor :=
  match target.assign? source with
  | some t => .ok t
  | none => .error (.failed .value ("could not broadcast input array from shape "
      ++ Text.ofShapeTight source.shape ++ " into shape " ++ Text.ofShapeTight target.shape))

end FrameBatch.Tensor
