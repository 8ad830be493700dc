/-!
# JSON values

A JSON value as it was written: the members of an object keep their order and repeated keys, so
that a reader of typed records can refuse a key given twice. A number keeps its text.
-/

namespace RubyLower

/-- A JSON value; object members in written order, repeats kept. -/
inductive Json where
  | null
  | bool (b : Bool)
  | number (text : String)
  | string (s : String)
  | array (items : List Json)
  | object (members : List (String × Json))
  deriving Inhabited

end RubyLower
