/-! What the name of an element says about it: whether it is void, whether it loses a leading
line feed, and whether it is a custom element.
-/

namespace TaggedMarkup.Html

def voidTags : List String :=
  ["area", "base", "br", "col", "embed", "hr", "img", "input", "keygen", "link", "meta",
    "param", "source", "track", "wbr", "menuitem"]

/-- The elements whose content loses one leading line feed when a page is read. -/
def newlineEatingTags : List String :=
  ["listing", "pre", "textarea"]

def isVoid (tag : String) : Bool :=
  voidTags.contains tag

/-- Whether a leading line feed of the content has to be written twice to be read once. -/
def eatsNewline (tag : String) : Bool :=
  newlineEatingTags.contains tag

/-- Whether the name belongs to a custom element, which a hyphen in it says. -/
def isCustomTag (tag : String) : Bool :=
  tag.toList.contains '-'

def isCapital (c : Char) : Bool :=
  'A' ≤ c && c ≤ 'Z'

def isSmall (c : Char) : Bool :=
  'a' ≤ c && c ≤ 'z'

def isLetter (c : Char) : Bool :=
  isCapital c || isSmall c

def isLetterOrDigit (c : Char) : Bool :=
  isLetter c || ('0' ≤ c && c ≤ '9')

/-- The small letter of an ASCII capital letter, any other character unchanged. -/
def lowered (c : Char) : Char :=
  if isCapital c then Char.ofNat (c.toNat + 32) else c

/-- Whether a tag name may refer to a component, which an initial capital says. -/
def startsCapital (name : String) : Bool :=
  match name.toList with
  | first :: _ => isCapital first
  | [] => false

/-- Whether a component can be registered under the name: an ASCII capital letter and then
letters and digits. -/
def isPascalCase (name : String) : Bool :=
  match name.toList with
  | first :: rest => isCapital first && rest.all isLetterOrDigit
  | [] => false

/-- Whether an alias can stand for the element: an ASCII small letter and then letters, digits
and hyphens. -/
def isHostName (name : String) : Bool :=
  match name.toList with
  | first :: rest => isSmall first && rest.all (fun c => isLetterOrDigit c || c == '-')
  | [] => false

end TaggedMarkup.Html
