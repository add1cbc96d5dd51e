import TaggedMarkup.Value

/-! Values are compared by what they hold, except that functions and bound templates are equal
only to themselves. An element is equal to itself whatever it holds. The order of fields
does not matter, and a NaN differs from everything.
-/

namespace TaggedMarkup.Value

mutual

def equal : Value → Value → Bool
  | .undefined, .undefined => true
  | .null, .null => true
  | .bool first, .bool second => first == second
  | .number first, .number second => first.equal second
  | .string first, .string second => first == second
  | .symbol first, .symbol second => first == second
  | .array first, .array second => equalItems first second
  | .object first, .object second =>
      first.length == second.length && fieldsWithin first second
  | .element ⟨serial, part, kind, key, reference, props⟩, .element other =>
      (serial == other.serial && part == other.part)
        || (kind == other.kind && key == other.key
          && equalReference reference other.reference
          && props.length == other.props.length && fieldsWithin props other.props)
  | .markup first, .markup second =>
      first.serial == second.serial && first.entry == second.entry
  | .function first, .function second => first.serial == second.serial
  | _, _ => false
termination_by structural first => first

/-- Equality of the items of two arrays, in order. -/
def equalItems : List Value → List Value → Bool
  | [], [] => true
  | first :: rest, second :: others => equal first second && equalItems rest others
  | _, _ => false
termination_by structural first => first

/-- Whether every field has an equal one of the same name in the other fields. -/
def fieldsWithin : List (String × Value) → Props → Bool
  | [], _ => true
  | (name, value) :: rest, other =>
      (match Fields.get? other name with
        | some found => equal value found
        | none => false)
        && fieldsWithin rest other
termination_by structural fields => fields

def equalReference : Option Value → Option Value → Bool
  | none, none => true
  | some first, some second => equal first second
  | _, _ => false
termination_by structural first => first

end

end TaggedMarkup.Value
