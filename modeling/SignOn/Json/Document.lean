import SignOn.Json.Reader

/-!
Documents: one value, with blanks around it, and nothing else.
-/

namespace SignOn.Json

/-- Reads a document that holds one value and nothing else. -/
def decode {α : Type} (r : Reader α) (document : List UInt8) : Except Error α :=
  match r.run document with
  | .error f => .error (.ofFault document f)
  | .ok (a, rest) =>
    match dropBlank rest with
    | [] => .ok a
    | more => .error (.ofFault document (.onNext .moreAfterEnd more))

end SignOn.Json
