/-!
# JSON values

A plain natural number is kept as its value and any other number as it is
written.  The members of an object keep their order.
-/

namespace FieldGrammar

inductive Json where
  | null
  | bool (value : Bool)
  | natural (value : Nat)
  | numeral (literal : String)
  | string (text : String)
  | array (items : List Json)
  | object (members : List (String × Json))
deriving Inhabited, Repr

namespace Json

def member? (members : List (String × Json)) (name : String) : Option Json :=
  (members.find? fun entry => entry.1 == name).map Prod.snd

def ofOption (encode : α -> Json) : Option α -> Json
  | none => null
  | some value => encode value

def strings (values : List String) : Json :=
  array (values.map string)

end Json
end FieldGrammar
