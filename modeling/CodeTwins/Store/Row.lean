import CodeTwins.Json.Reader
import CodeTwins.Json.Writer
import CodeTwins.Store.Tables
import CodeTwins.Vector.Bytes

/-!
# Rows of records

A row holds a record as text and bytes: the element as JSON in ASCII, and the numbers of its vector
one after the other.
-/
namespace CodeTwins.Store

/-- A row of the table of records. -/
structure Row where
  id : String
  element : String
  vector : List UInt8
deriving DecidableEq, Repr

namespace Row

/-- The row of a record, if its element can be written. -/
def ofRecord (r : Record Element (Vec Float)) : Except Misfit Row :=
  r.element.encode.map fun value => ⟨r.id, value.writeIn .spaced, Vec.encode r.vector⟩

/-- The record of a row, if its texts and bytes can be read. -/
def record? (row : Row) : Option (Record (Element Json) (Vec Float)) := do
  let value ← (Json.parse row.element).toOption
  let element ← (Element.ofJson value).toOption
  let vector ← Vec.decode row.vector
  return ⟨row.id, element, vector⟩

end Row
end CodeTwins.Store
