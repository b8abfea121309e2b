import EventDispatch.Number.Reading
import EventDispatch.Params

/-!
# Types of event fields

The types that a field of an event may have, and the value that a text stands
for as such a field.
-/

namespace EventDispatch

/-- A type of a field. -/
inductive FieldType where
  | signed (bits : Nat)
  | unsigned (bits : Nat)
  | floating (format : Number.Format)
  | truth
  | character
  | text

namespace FieldType

/-- The types by their names. -/
def names : List (String × FieldType) := [
  ("i8", .signed 8), ("i16", .signed 16), ("i32", .signed 32), ("i64", .signed 64),
  ("isize", .signed 64),
  ("u8", .unsigned 8), ("u16", .unsigned 16), ("u32", .unsigned 32), ("u64", .unsigned 64),
  ("usize", .unsigned 64),
  ("f32", .floating .single), ("f64", .floating .double),
  ("bool", .truth), ("char", .character), ("string", .text), ("str", .text)]

/-- The value of a field of the type that a text stands for.  Numbers are widened to
64 bits. -/
def read? (type : FieldType) (source : String) : Option ParamValue :=
  match type with
  | signed bits =>
      let half : Nat := Nat.pow 2 (bits - 1)
      (Number.readWhole? (-half) (half - 1) source.toList).map ParamValue.signed
  | unsigned bits =>
      let limit : Nat := Nat.pow 2 bits
      (Number.readWhole? 0 (limit - 1) source.toList).map fun value => .unsigned value.toNat
  | floating format =>
      (Number.readFloating? format source.toList).map fun value =>
        .floating (Number.Format.double.convert value)
  | truth =>
      match source with
      | "true" => some (.truth true)
      | "false" => some (.truth false)
      | _ => none
  | character =>
      match source.toList with
      | [c] => some (.text (String.ofList [c]))
      | _ => none
  | text => some (.text source)

end FieldType

end EventDispatch
