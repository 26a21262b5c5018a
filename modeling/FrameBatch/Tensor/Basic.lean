import FrameBatch.Tensor.Scalar

namespace FrameBatch

def volume : List Nat → Nat
  | [] => 1
  | n :: ns => n * volume ns

structure Tensor where
  type : NumberType
  shape : List Nat
  data : Array Scalar
  size_eq : data.size = volume shape

namespace Tensor

def ofFn (type : NumberType) (shape : List Nat) (f : Nat → Scalar) : Tensor where
  type
  shape
  data := Array.ofFn (n := volume shape) fun k => f k
  size_eq := Array.size_ofFn

def fill (type : NumberType) (shape : List Nat) (v : Scalar) : Tensor where
  type
  shape
  data := Array.replicate (volume shape) v
  size_eq := Array.size_replicate

def zeros (type : NumberType) (shape : List Nat) : Tensor := fill type shape type.zero

instance : Inhabited Tensor := ⟨zeros default []⟩

def rank (t : Tensor) : Nat := t.shape.length

def size (t : Tensor) : Nat := t.data.size

/-- The element at a place of the row-major order; zero past the end. -/
def get (t : Tensor) (k : Nat) : Scalar := t.data.getD k t.type.zero

def cast (t : Tensor) (type : NumberType) : Tensor where
  type
  shape := t.shape
  data := t.data.map type.cast
  size_eq := by rw [Array.size_map, t.size_eq]

def mapPlaces (t : Tensor) (type : NumberType) (f : Nat → Scalar → Scalar) : Tensor where
  type
  shape := t.shape
  data := t.data.mapIdx f
  size_eq := by rw [Array.size_mapIdx, t.size_eq]

theorem size_eq_volume (t : Tensor) : t.size = volume t.shape := t.size_eq

theorem get_ofFn (type : NumberType) (shape : List Nat) (f : Nat → Scalar) {k : Nat}
    (inside : k < volume shape) : (ofFn type shape f).get k = f k := by
  simp [get, ofFn, Array.getD, inside]

theorem get_mapPlaces (t : Tensor) (type : NumberType) (f : Nat → Scalar → Scalar) {k : Nat}
    (inside : k < t.size) : (t.mapPlaces type f).get k = f k (t.get k) := by
  have bound : k < t.data.size := inside
  simp [get, mapPlaces, Array.getD, bound]

theorem cast_fill (type type' : NumberType) (shape : List Nat) (v : Scalar) :
    (fill type shape v).cast type' = fill type' shape (type'.cast v) := by
  simp [cast, fill]

end Tensor

end FrameBatch
