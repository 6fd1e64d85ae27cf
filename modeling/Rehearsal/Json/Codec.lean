import Rehearsal.Json.Reader

/-! # Types with a form in JSON -/

namespace Rehearsal.Json

/-- How values of a type are read and written. -/
class Codec (α : Type) where
  reader : Reader α
  toJson : α → Value

namespace Codec

variable {α : Type} [Codec α]

/-- The value that a text writes. -/
def decode (text : String) : Except Error α :=
  (reader : Reader α).run text

end Codec

instance : Codec Value := ⟨Reader.value, id⟩

end Rehearsal.Json
