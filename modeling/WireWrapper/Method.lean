/-!
# Compiled methods

What is left of a method's code for the purpose of finding its fields: where source lines start,
which fields are accessed, and the other operations by their code alone.

* `FieldAccess`    the four operations on fields, with their codes;
* `Instruction`    one event of the stream;
* `MethodBody`     a stream with the type that declares the method.
-/

namespace WireWrapper

inductive FieldAccess where
  | getStatic
  | putStatic
  | getField
  | putField
deriving DecidableEq, Repr

namespace FieldAccess

def code : FieldAccess → UInt8
  | getStatic => 0xb2
  | putStatic => 0xb3
  | getField => 0xb4
  | putField => 0xb5

def ofCode? (code : UInt8) : Option FieldAccess :=
  if code = 0xb2 then some getStatic
  else if code = 0xb3 then some putStatic
  else if code = 0xb4 then some getField
  else if code = 0xb5 then some putField
  else none

/-- The word for an operation in data files. -/
def word : FieldAccess → String
  | getStatic => "getstatic"
  | putStatic => "putstatic"
  | getField => "getfield"
  | putField => "putfield"

def ofWord? : String → Option FieldAccess
  | "getstatic" => some getStatic
  | "putstatic" => some putStatic
  | "getfield" => some getField
  | "putfield" => some putField
  | _ => none

end FieldAccess

/-- One event of an instruction stream. -/
inductive Instruction where
  /-- What follows belongs to this source line. -/
  | line (number : UInt32)
  /-- A field is accessed, by the name of the type it is looked up in and its own name. -/
  | field (access : FieldAccess) (owner name : String)
  /-- Anything else. -/
  | other (code : UInt8)
deriving DecidableEq, Repr

structure MethodBody where
  declaringType : String
  name : String
  instructions : List Instruction
deriving DecidableEq, Repr

end WireWrapper
