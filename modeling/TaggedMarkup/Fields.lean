/-! Fields are named values in the order in which their names were first written. Writing a
name again keeps its place and replaces its value.
-/

namespace TaggedMarkup

abbrev Fields (α : Type) := List (String × α)

namespace Fields

variable {α : Type}

def get? (fields : Fields α) (name : String) : Option α :=
  match fields with
  | [] => none
  | (other, value) :: rest => if other = name then some value else get? rest name

def contains (fields : Fields α) (name : String) : Bool :=
  fields.any fun field => field.1 == name

/-- Writes a name: in its place when it is there already, at the end otherwise. -/
def insert (fields : Fields α) (name : String) (value : α) : Fields α :=
  match fields with
  | [] => [(name, value)]
  | (other, old) :: rest =>
      if other = name then
        (name, value) :: rest
      else
        (other, old) :: insert rest name value

def erase (fields : Fields α) (name : String) : Fields α :=
  fields.filter fun field => field.1 != name

def insertAll (fields : Fields α) (entries : List (String × α)) : Fields α :=
  entries.foldl (fun written entry => insert written entry.1 entry.2) fields

def ofEntries (entries : List (String × α)) : Fields α :=
  insertAll [] entries

def names (fields : Fields α) : List String :=
  fields.map Prod.fst

end Fields

end TaggedMarkup
