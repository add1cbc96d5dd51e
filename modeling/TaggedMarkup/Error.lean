import TaggedMarkup.Location

/-! Everything that can go wrong while a template is read, compiled or rendered, by cause.
The wording of each cause is in one place.
-/

namespace TaggedMarkup

/-- Where an interpolated value may not stand. -/
inductive ValuePlace where
  | incompleteSpread
  | quotedValue
  | unquotedValue
  | tagName
  | closingTag
  | attributeName
  | afterAttributeValue
  | afterSlash
deriving DecidableEq, Repr

def ValuePlace.describe : ValuePlace → String
  | .incompleteSpread => "after an incomplete spread marker"
  | .quotedValue => "inside a quoted attribute value"
  | .unquotedValue => "inside an unquoted attribute value"
  | .tagName => "in a tag name"
  | .closingTag => "in a closing tag"
  | .attributeName => "inside an attribute name"
  | .afterAttributeValue => "directly after an attribute value"
  | .afterSlash => "after `/` in a tag"

/-- Where a character was found that may not stand there. -/
inductive CharacterPlace where
  | afterLess
  | afterExclamation
  | afterSlash
  | closingTag
  | beforeAttributeName
  | attributeName
  | afterAttributeName
  | unquotedValue
  | afterAttributeValue
  | spread
deriving DecidableEq, Repr

def CharacterPlace.describe : CharacterPlace → String
  | .afterLess => "after `<`"
  | .afterExclamation => "after `<`, only comments may start with `<!`"
  | .afterSlash => "after `/` in a tag"
  | .closingTag => "in a closing tag"
  | .beforeAttributeName => "before an attribute name"
  | .attributeName => "in an attribute name"
  | .afterAttributeName => "after an attribute name"
  | .unquotedValue => "in an unquoted attribute value"
  | .afterAttributeValue => "after an attribute value, expected whitespace"
  | .spread => "in a spread, `...` must be followed by an interpolation"

/-- What was unfinished at the end of a template. -/
inductive Unfinished where
  | tag
  | comment
deriving DecidableEq, Repr

def Unfinished.describe : Unfinished → String
  | .tag => "inside a tag"
  | .comment => "inside a comment"

inductive Error where
  | mismatchedClosingTag (expected found : String) (location : Location)
  | unexpectedClosingTag (found : String) (location : Location)
  | unclosedTag (tag : String) (location : Location)
  | misplacedInterpolation (place : ValuePlace) (location : Location)
  | missingAttributeName (location : Location)
  | missingAttributeValue (name : String) (location : Location)
  | unexpectedCharacter (found : Char) (place : CharacterPlace) (location : Location)
  | unexpectedEnd (unfinished : Unfinished)
  | childrenConflict
  | innerHtmlShape
  | styleNotObject
  | voidElementChildren (tag : String)
  | valueCountMismatch (expected received : Nat)
  | invalidComponentName (name : String)
  | unsupportedAlias (name : String)
  | consumerChild
  | recursionLimit (limit : Nat)
  | component (message : String)
deriving DecidableEq, Repr

namespace Error

/-- The stage of the work that a cause belongs to. -/
inductive Kind where
  | malformed
  | mergeConflict
  | valueType
  | validation
  | component
deriving DecidableEq, Repr

def kind : Error → Kind
  | .mismatchedClosingTag .. | .unexpectedClosingTag .. | .unclosedTag ..
  | .misplacedInterpolation .. | .missingAttributeName .. | .missingAttributeValue ..
  | .unexpectedCharacter .. | .unexpectedEnd .. => .malformed
  | .childrenConflict => .mergeConflict
  | .innerHtmlShape | .styleNotObject | .voidElementChildren .. | .valueCountMismatch .. =>
      .valueType
  | .invalidComponentName .. | .unsupportedAlias .. => .validation
  | .consumerChild | .recursionLimit .. | .component .. => .component

/-- Where the cause stands in the template, for the causes that stand somewhere. -/
def location? : Error → Option Location
  | .mismatchedClosingTag _ _ location | .unexpectedClosingTag _ location
  | .unclosedTag _ location | .misplacedInterpolation _ location
  | .missingAttributeName location | .missingAttributeValue _ location
  | .unexpectedCharacter _ _ location => some location
  | _ => none

def message : Error → String
  | .mismatchedClosingTag expected found location =>
      "Expected corresponding closing tag for <" ++ expected ++ ">, found </" ++ found
        ++ "> at " ++ location.describe
  | .unexpectedClosingTag found location =>
      "Unexpected closing tag </" ++ found ++ "> at " ++ location.describe
  | .unclosedTag tag location =>
      "Expected corresponding closing tag for <" ++ tag ++ "> opened at "
        ++ location.describe
  | .misplacedInterpolation place location =>
      "Interpolation is not allowed " ++ place.describe ++ " at " ++ location.describe
  | .missingAttributeName location =>
      "Missing attribute name before `=` at " ++ location.describe
  | .missingAttributeValue name location =>
      "Missing value for attribute `" ++ name ++ "` at " ++ location.describe
  | .unexpectedCharacter found place location =>
      "Unexpected character `" ++ found.toString ++ "` " ++ place.describe ++ " at "
        ++ location.describe
  | .unexpectedEnd unfinished => "Unexpected end of template " ++ unfinished.describe
  | .childrenConflict =>
      "Can only set one of `children` or `props.dangerouslySetInnerHTML`."
  | .innerHtmlShape =>
      "`props.dangerouslySetInnerHTML` must be in the form `\x7b__html: ...\x7d`. "
        ++ "Please visit https://fb.me/react-invariant-dangerously-set-inner-html "
        ++ "for more information."
  | .styleNotObject =>
      "The `style` prop expects a mapping from style properties to values, not a string. "
        ++ "For example, style=\x7b\x7bmarginRight: spacing + 'em'\x7d\x7d when using JSX."
  | .voidElementChildren tag =>
      tag ++ " is a void element tag and must neither have `children` nor use "
        ++ "`dangerouslySetInnerHTML`."
  | .valueCountMismatch expected received =>
      s!"Template expects {expected} values but received {received}"
  | .invalidComponentName name =>
      "Component names must be PascalCase, received `" ++ name ++ "`"
  | .unsupportedAlias name =>
      "Cannot register `" ++ name ++ "`: an alias must name a lowercase host element"
  | .consumerChild => "A context consumer expects a function as its only child"
  | .recursionLimit limit => s!"Maximum component depth of {limit} exceeded"
  | .component message => message

end Error

end TaggedMarkup
