namespace ForeignArena.Text

/-!
# Layout of diagnostic records

The shapes in which a value shows itself in a diagnostic: a record with named
fields, a wrapper around one value, a list, a dictionary.  Each function takes the
texts of the parts and returns the text of the whole.
-/

/-- Texts with a comma and a blank between neighbours. -/
def commaSeparated (parts : List String) : String :=
  String.intercalate ", " parts

/-- A field: its name and its text. -/
def field (name text : String) : String :=
  name ++ ": " ++ text

/-- A record with named fields; a record without fields is its bare name. -/
def record (name : String) (fields : List (String × String)) : String :=
  if fields.isEmpty then name
  else name ++ " \x7b " ++ commaSeparated (fields.map fun (n, t) => field n t) ++ " \x7d"

/-- A record that shows only some of its fields and says so by two dots. -/
def openRecord (name : String) (fields : List (String × String)) : String :=
  name ++ " \x7b " ++ commaSeparated ((fields.map fun (n, t) => field n t) ++ [".."]) ++ " \x7d"

/-- A named wrapper around one value. -/
def wrapped (name text : String) : String :=
  name ++ "(" ++ text ++ ")"

/-- A list. -/
def bracketed (parts : List String) : String :=
  "[" ++ commaSeparated parts ++ "]"

/-- A dictionary, its entries in the order given. -/
def dictionary (entries : List (String × String)) : String :=
  "\x7b" ++ commaSeparated (entries.map fun (k, v) => field k v) ++ "\x7d"

/-- A truth value. -/
def truth (b : Bool) : String :=
  if b then "true" else "false"

end ForeignArena.Text
