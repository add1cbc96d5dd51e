import TaggedMarkup.Error
import TaggedMarkup.Html.Tag
import TaggedMarkup.Token

/-! The scanner reads fragments one character at a time. Its mode says what is being read and
holds what has been read of it, and the mode at the end of a fragment decides what the
interpolated value there is. No value is looked at, so the tokens depend on the fragments
alone.
-/

namespace TaggedMarkup.Scanner

/-- What is being read. Locations and offsets say where it began. -/
inductive Mode where
  /-- Text since `offset` of the current fragment. -/
  | text (run : String) (offset : Nat)
  /-- A tag of which only `<` has been read. -/
  | tagStart (start : Location)
  | tagName (start : Location) (name : String)
  /-- The slash of a tag that closes itself. -/
  | selfClosing
  | closingName (start : Location) (name : String)
  /-- A closing tag after a blank behind its name. -/
  | closingEnd (start : Location) (name : String)
  | beforeAttribute
  | attributeName (start : Location) (name : String)
  | afterAttributeName (start : Location) (name : String)
  /-- An attribute of which the name and the equals sign have been read. -/
  | beforeValue (start : Location) (name : String)
  | quotedValue (quote : Char) (start : Location) (name value : String)
  | unquotedValue (start : Location) (name value : String)
  | afterValue
  | spread (start : Location) (dots : Nat)
  /-- The beginning of a comment, of which some characters are still to be passed. -/
  | commentStart (remaining : Nat)
  /-- A comment that ended in this many hyphens so far, two at most. -/
  | comment (hyphens : Nat)
deriving DecidableEq, Repr

/-- The mode in which a template begins. -/
def Mode.initial : Mode :=
  .text "" 0

/-- Space, tab, line feed, form feed or carriage return. -/
def isSpace (c : Char) : Bool :=
  c == ' ' || c == '\n' || c == '\t' || c == '\x0c' || c == '\r'

/-- A text token, unless the text is empty. -/
def textTokens (run : String) (location : Location) : List Token :=
  if run.isEmpty then [] else [.text run location]

/-- The name of the element that a tag without a name stands for. -/
def fragmentName : String :=
  "Fragment"

/-- What one character leads to: some tokens and the next mode. -/
abbrev Outcome := Except Error (List Token × Mode)

def textAfter (here : Location) (c : Char) : Mode :=
  .text "" (here.offset + c.utf8Size)

/-- The end of an open tag, with the tokens before it. -/
def endTag (tokens : List Token) (selfClosing : Bool) (here : Location) (c : Char) : Outcome :=
  .ok (tokens ++ [.openEnd selfClosing], textAfter here c)

/-- A character where an attribute may begin, with the tokens before it. -/
def stepBeforeAttribute (tokens : List Token) (here : Location) (c : Char) : Outcome :=
  if isSpace c then
    .ok (tokens, .beforeAttribute)
  else
    match c with
    | '>' => endTag tokens false here c
    | '/' => .ok (tokens, .selfClosing)
    | '=' => .error (.missingAttributeName here)
    | '.' => .ok (tokens, .spread here 1)
    | '"' | '\'' | '<' => .error (.unexpectedCharacter c .beforeAttributeName here)
    | _ => .ok (tokens, .attributeName here (String.singleton c))

/-- Reads one character. `rest` is what follows it in the same fragment. -/
def step (mode : Mode) (here : Location) (c : Char) (rest : List Char) : Outcome :=
  match mode with
  | .text run offset =>
      if c = '<' then
        .ok (textTokens run { here with offset }, .tagStart here)
      else
        .ok ([], .text (run.push c) offset)
  | .tagStart start =>
      if c = '/' then
        .ok ([], .closingName start "")
      else if c = '>' then
        endTag [.openTag fragmentName start] false here c
      else if c = '!' then
        if ['-', '-'].isPrefixOf rest then
          .ok ([], .commentStart 2)
        else
          .error (.unexpectedCharacter c .afterExclamation here)
      else if Html.isLetter c then
        .ok ([], .tagName start (String.singleton c))
      else
        .error (.unexpectedCharacter c .afterLess here)
  | .tagName start name =>
      if isSpace c ∨ c = '/' ∨ c = '>' then
        stepBeforeAttribute [.openTag name start] here c
      else
        .ok ([], .tagName start (name.push c))
  | .selfClosing =>
      if c = '>' then
        endTag [] true here c
      else
        .error (.unexpectedCharacter c .afterSlash here)
  | .closingName start name =>
      if c = '>' then
        .ok ([.closeTag (if name.isEmpty then fragmentName else name) start],
          textAfter here c)
      else if isSpace c then
        if name.isEmpty then
          .ok ([], .closingName start name)
        else
          .ok ([], .closingEnd start name)
      else
        .ok ([], .closingName start (name.push c))
  | .closingEnd start name =>
      if c = '>' then
        .ok ([.closeTag name start], textAfter here c)
      else if isSpace c then
        .ok ([], .closingEnd start name)
      else
        .error (.unexpectedCharacter c .closingTag here)
  | .beforeAttribute => stepBeforeAttribute [] here c
  | .attributeName start name =>
      if c = '=' then
        .ok ([], .beforeValue start name)
      else if isSpace c then
        .ok ([], .afterAttributeName start name)
      else if c = '/' then
        .ok ([.attribute name .bare start], .selfClosing)
      else if c = '>' then
        endTag [.attribute name .bare start] false here c
      else if c = '"' ∨ c = '\'' ∨ c = '<' then
        .error (.unexpectedCharacter c .attributeName here)
      else
        .ok ([], .attributeName start (name.push c))
  | .afterAttributeName start name =>
      if isSpace c then
        .ok ([], .afterAttributeName start name)
      else if c = '=' then
        .ok ([], .beforeValue start name)
      else if c = '"' ∨ c = '\'' ∨ c = '<' then
        .error (.unexpectedCharacter c .afterAttributeName here)
      else
        stepBeforeAttribute [.attribute name .bare start] here c
  | .beforeValue start name =>
      if isSpace c then
        .ok ([], .beforeValue start name)
      else if c = '"' ∨ c = '\'' then
        .ok ([], .quotedValue c start name "")
      else if c = '>' then
        .error (.missingAttributeValue name start)
      else
        .ok ([], .unquotedValue start name (String.singleton c))
  | .quotedValue quote start name value =>
      if c = quote then
        .ok ([.attribute name (.literal value) start], .afterValue)
      else
        .ok ([], .quotedValue quote start name (value.push c))
  | .unquotedValue start name value =>
      let written := Token.attribute name (.literal value) start
      if isSpace c then
        .ok ([written], .beforeAttribute)
      else if c = '>' then
        endTag [written] false here c
      else if c = '/' ∧ rest.head? = some '>' then
        .ok ([written], .selfClosing)
      else if c = '"' ∨ c = '\'' ∨ c = '<' ∨ c = '=' ∨ c = '\x60' then
        .error (.unexpectedCharacter c .unquotedValue here)
      else
        .ok ([], .unquotedValue start name (value.push c))
  | .afterValue =>
      if isSpace c then
        .ok ([], .beforeAttribute)
      else if c = '>' then
        endTag [] false here c
      else if c = '/' then
        .ok ([], .selfClosing)
      else
        .error (.unexpectedCharacter c .afterAttributeValue here)
  | .spread start dots =>
      if c = '.' ∧ dots < 3 then
        .ok ([], .spread start (dots + 1))
      else
        .error (.unexpectedCharacter c .spread here)
  | .commentStart remaining =>
      .ok ([], if remaining ≤ 1 then .comment 0 else .commentStart (remaining - 1))
  | .comment hyphens =>
      if c = '-' then
        .ok ([], .comment (min 2 (hyphens + 1)))
      else if c = '>' ∧ hyphens = 2 then
        .ok ([], textAfter here c)
      else
        .ok ([], .comment 0)

/-- What the end of a fragment leads to when an interpolated value follows. -/
def boundary (mode : Mode) (fragment offset slot : Nat) : Outcome :=
  let here : Location := ⟨fragment, offset⟩
  let misplaced := fun place => Except.error (Error.misplacedInterpolation place here)
  match mode with
  | .text run start =>
      .ok (textTokens run ⟨fragment, start⟩ ++ [.child slot here], .text "" 0)
  | .beforeValue start name => .ok ([.attribute name (.slot slot) start], .afterValue)
  | .spread start dots =>
      if dots = 3 then
        .ok ([.spread slot start], .afterValue)
      else
        misplaced .incompleteSpread
  | .beforeAttribute => .ok ([.dynamicName slot here], .afterValue)
  | .afterAttributeName start name =>
      .ok ([.attribute name .bare start, .dynamicName slot here], .afterValue)
  | .commentStart _ | .comment _ => .ok ([.ignored slot], .comment 0)
  | .quotedValue .. => misplaced .quotedValue
  | .unquotedValue .. => misplaced .unquotedValue
  | .tagStart .. | .tagName .. => misplaced .tagName
  | .closingName .. | .closingEnd .. => misplaced .closingTag
  | .attributeName .. => misplaced .attributeName
  | .afterValue => misplaced .afterAttributeValue
  | .selfClosing => misplaced .afterSlash

/-- What the end of the last fragment leads to. -/
def finish (mode : Mode) (fragment : Nat) : Except Error (List Token) :=
  match mode with
  | .text run start => .ok (textTokens run ⟨fragment, start⟩)
  | .commentStart _ | .comment _ => .error (.unexpectedEnd .comment)
  | _ => .error (.unexpectedEnd .tag)

/-- The tokens that were read before the end or before a failure, and what was reached. -/
structure Scanned (α : Type) where
  tokens : List Token
  result : Except Error α

/-- Reads the characters of one fragment from `offset` on. -/
def scanChars (fragment : Nat) (mode : Mode) (offset : Nat)
    : List Char → Scanned (Mode × Nat)
  | [] => ⟨[], .ok (mode, offset)⟩
  | c :: rest =>
      match step mode ⟨fragment, offset⟩ c rest with
      | .error error => ⟨[], .error error⟩
      | .ok (tokens, next) =>
          let scanned := scanChars fragment next (offset + c.utf8Size) rest
          ⟨tokens ++ scanned.tokens, scanned.result⟩

/-- Reads the fragments from the one with the given number on. -/
def scanFragments (fragment : Nat) (mode : Mode) : List String → Scanned Unit
  | [] =>
      match finish mode fragment with
      | .error error => ⟨[], .error error⟩
      | .ok tokens => ⟨tokens, .ok ()⟩
  | [last] =>
      let scanned := scanChars fragment mode 0 last.toList
      match scanned.result with
      | .error error => ⟨scanned.tokens, .error error⟩
      | .ok (reached, _) =>
          match finish reached fragment with
          | .error error => ⟨scanned.tokens, .error error⟩
          | .ok tokens => ⟨scanned.tokens ++ tokens, .ok ()⟩
  | first :: second :: others =>
      let scanned := scanChars fragment mode 0 first.toList
      match scanned.result with
      | .error error => ⟨scanned.tokens, .error error⟩
      | .ok (reached, offset) =>
          match boundary reached fragment offset fragment with
          | .error error => ⟨scanned.tokens, .error error⟩
          | .ok (tokens, next) =>
              let following := scanFragments (fragment + 1) next (second :: others)
              ⟨scanned.tokens ++ tokens ++ following.tokens, following.result⟩

end TaggedMarkup.Scanner

namespace TaggedMarkup

/-- The tokens of a template up to its end or to the first failure. -/
def Token.scan (fragments : List String) : Scanner.Scanned Unit :=
  Scanner.scanFragments 0 .initial fragments

end TaggedMarkup
