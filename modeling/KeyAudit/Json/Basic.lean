/-
JSON values. An object keeps its members in the order in which their names were
first written; a name that is written again replaces the value in its place, so
the names of an object that was read differ.
-/

import KeyAudit.Ascending

namespace KeyAudit

/-- A JSON number: an integer, or a double for every other literal. -/
inductive Json.Number where
  | int (n : Int)
  | real (x : Float)

/-- A JSON value. -/
inductive Json where
  | null
  | bool (b : Bool)
  | num (n : Json.Number)
  | str (s : String)
  | arr (items : List Json)
  | obj (members : List (String × Json))

namespace Json

instance : Inhabited Json := ⟨.null⟩

def isObject : Json → Bool
  | .obj _ => true
  | _ => false

/-- The members with one more: a new name goes to the end, a name that is there
gets the new value. -/
def putMember (name : String) (value : Json) :
    List (String × Json) → List (String × Json)
  | [] => [(name, value)]
  | (n, v) :: ms => if n = name then (n, value) :: ms else (n, v) :: putMember name value ms

/-- The members of an object from all that were written. Only where a name stands
twice is there anything to replace. -/
def collected (written : List (String × Json)) : List (String × Json) :=
  if Ascending.allDistinct (written.map Prod.fst) then written
  else written.foldl (fun ms m => putMember m.1 m.2 ms) []

end Json

end KeyAudit
