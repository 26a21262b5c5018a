import FrameBatch.Files.Path
import FrameBatch.Network
import FrameBatch.Plate.Symbols

/-!
Descriptors: what a family of networks looks like, and which tensors of a network play which part. A
descriptor is bound to tensor names by the first network it accepts.
-/

namespace FrameBatch

inductive Family where
  /-- licence plates: an image and a sequence go in, symbol indices come out -/
  | plate
  /-- one image goes in, one tensor comes out -/
  | single
  /-- the first input and the first output, whatever they are -/
  | unchecked
  deriving DecidableEq, Inhabited

inductive Role where
  | input
  | sequence
  | output
  deriving DecidableEq

structure Descriptor where
  family : Family
  category : String
  location : String
  maxBatch : Int
  input : Option String := none
  sequence : Option String := none
  output : Option String := none
  deriving DecidableEq, Inhabited

namespace Family

def typeName : Family → String
  | .plate => "LicensePlateDetectionModel"
  | .single => "SimpleModel"
  | .unchecked => "LooseModel"

def category : Family → String
  | .plate => "License Plate Detection"
  | .single => "Simple Model"
  | .unchecked => "Loose Model"

end Family

namespace Role

def name : Role → String
  | .input => "input"
  | .sequence => "seq_input"
  | .output => "output"

end Role

namespace Descriptor

/-- The descriptor of a network at a location, for batches of up to so many frames. There is none
without a family. -/
def create (family : Option Family) (location maxBatch : Value) (category : Option String) :
    Except Fault Descriptor := do
  let some family := family | wrongType "a descriptor needs a family of networks"
  if ← maxBatch.isBelow 1 then refuse (.maxBatchSize maxBatch)
  let size ← maxBatch.toInt
  return {
    family
    category := category.getD family.category
    location := location.shown
    maxBatch := size }

def modelName (d : Descriptor) : String := Path.stem d.location

def bound (d : Descriptor) : Role → Option String
  | .input => d.input
  | .sequence => d.sequence
  | .output => d.output

def bind (d : Descriptor) (role : Role) (name : String) : Descriptor :=
  match role with
  | .input => { d with input := some name }
  | .sequence => { d with sequence := some name }
  | .output => { d with output := some name }

def bindings (d : Descriptor) (roles : List Role) : List (Role × String) :=
  roles.filterMap fun role => (d.bound role).map (role, ·)

def inputRoles (d : Descriptor) : List Role :=
  if d.family = .plate then [.input, .sequence] else [.input]

def inputBindings (d : Descriptor) : List (Role × String) := d.bindings d.inputRoles

def outputBindings (d : Descriptor) : List (Role × String) := d.bindings [.output]

def isBound (d : Descriptor) : Bool :=
  (d.inputRoles ++ [Role.output]).all fun role => (d.bound role).isSome

def text (d : Descriptor) : String :=
  d.family.typeName ++ "(model_loc=" ++ Text.quoted d.location ++ ", max_batch_size="
    ++ toString d.maxBatch ++ ")"

end Descriptor

end FrameBatch
