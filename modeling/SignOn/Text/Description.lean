import SignOn.Text.Quoted

/-!
One-line descriptions of values for logs: a record shows its name and its
fields in order, an absent value shows as `None`, a secret shows only that it
is there.
-/

namespace SignOn.Description

def text (s : String) : String := Text.quote s

def flag (b : Bool) : String := if b then "true" else "false"

def option {α : Type} (show_ : α → String) : Option α → String
  | none => "None"
  | some a => "Some(" ++ show_ a ++ ")"

def list {α : Type} (show_ : α → String) (xs : List α) : String :=
  "[" ++ String.intercalate ", " (xs.map show_) ++ "]"

/-- A name and the descriptions of the fields. -/
def record (name : String) (fields : List (String × String)) : String :=
  name ++ " \x7b " ++
    String.intercalate ", " (fields.map fun f => f.1 ++ ": " ++ f.2) ++ " \x7d"

/-- Stands for a secret that is there. -/
def redacted : String := text "<redacted>"

/-- A secret that may be absent: only whether it is there shows. -/
def secret (s : Option String) : String := option (fun _ => redacted) s

end SignOn.Description
