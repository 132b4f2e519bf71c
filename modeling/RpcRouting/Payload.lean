/-! Payloads are the data that calls carry: values as they stand in JSON or in a configuration
text. The fields of an object keep the order in which they were read. -/
namespace RpcRouting

inductive Payload
  | null
  | boolean (value : Bool)
  | integer (value : Int)
  /-- A number that is no integer, by its text. -/
  | decimal (text : String)
  | string (value : String)
  | array (items : List Payload)
  | object (fields : List (String × Payload))
deriving Repr, BEq, Inhabited

namespace Payload

/-- The value of an object's field. Nothing but an object has fields. -/
def field? (name : String) : Payload → Option Payload
  | .object fields => fields.lookup name
  | _ => none

def string? : Payload → Option String
  | .string value => some value
  | _ => none

/-- A payload in which no object has a key twice. -/
inductive Distinct : Payload → Prop
  | null : Distinct .null
  | boolean (value : Bool) : Distinct (.boolean value)
  | integer (value : Int) : Distinct (.integer value)
  | decimal (text : String) : Distinct (.decimal text)
  | string (value : String) : Distinct (.string value)
  | array {items : List Payload} : (∀ item ∈ items, item.Distinct) → Distinct (.array items)
  | object {fields : List (String × Payload)} : (fields.map (·.1)).Nodup →
      (∀ field ∈ fields, field.2.Distinct) → Distinct (.object fields)

end Payload

end RpcRouting
