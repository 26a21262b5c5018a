import FrameBatch.Fault
import FrameBatch.Number.Format

namespace FrameBatch

inductive ElementType where
  | u8
  | i8
  | u16
  | i16
  | i32
  | i64
  | f16
  | f32
  | f64
  deriving DecidableEq, Inhabited

inductive NumberType where
  | element (t : ElementType)
  | truth
  | u32
  | u64
  | complex
  deriving DecidableEq, Inhabited

/-- How numbers of a type are stored. Of a complex number only the real part is kept. -/
inductive Storage where
  | whole (signed : Bool) (bits : Nat)
  | real (f : Format)
  | truth
  | complex
  deriving DecidableEq

namespace ElementType

def all : List ElementType := [.u8, .i8, .u16, .i16, .i32, .i64, .f16, .f32, .f64]

/-- The short name that all engines share. -/
def name : ElementType → String
  | .u8 => "u8"
  | .i8 => "i8"
  | .u16 => "u16"
  | .i16 => "i16"
  | .i32 => "i32"
  | .i64 => "i64"
  | .f16 => "f16"
  | .f32 => "f32"
  | .f64 => "f64"

def ofName? (name : String) : Option ElementType := all.find? (·.name == name)

def storage : ElementType → Storage
  | .u8 => .whole false 8
  | .i8 => .whole true 8
  | .u16 => .whole false 16
  | .i16 => .whole true 16
  | .i32 => .whole true 32
  | .i64 => .whole true 64
  | .f16 => .real .half
  | .f32 => .real .single
  | .f64 => .real .double

def arrayName : ElementType → String
  | .u8 => "uint8"
  | .i8 => "int8"
  | .u16 => "uint16"
  | .i16 => "int16"
  | .i32 => "int32"
  | .i64 => "int64"
  | .f16 => "float16"
  | .f32 => "float32"
  | .f64 => "float64"

end ElementType

namespace NumberType

def all : List NumberType := ElementType.all.map .element ++ [.truth, .u32, .u64, .complex]

def name : NumberType → String
  | .element t => t.name
  | .truth => "bool"
  | .u32 => "u32"
  | .u64 => "u64"
  | .complex => "c64"

def ofName? (name : String) : Option NumberType := all.find? (·.name == name)

def storage : NumberType → Storage
  | .element t => t.storage
  | .truth => .truth
  | .u32 => .whole false 32
  | .u64 => .whole false 64
  | .complex => .complex

def arrayName : NumberType → String
  | .element t => t.arrayName
  | .truth => "bool"
  | .u32 => "uint32"
  | .u64 => "uint64"
  | .complex => "complex64"

def element? : NumberType → Except Fault ElementType
  | .element t => .ok t
  | other => refuse (.elementType other.arrayName)

end NumberType

end FrameBatch
