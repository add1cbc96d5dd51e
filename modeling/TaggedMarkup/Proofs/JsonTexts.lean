import Mathlib.Data.List.Basic
import TaggedMarkup.Json.Reader

/-! The grammar of JSON texts, as RFC 8259 gives it, and the reader held to it. What the reader
accepts is spelled by the grammar: the arrays and objects that are open say what a text has to go
on with, and every step of the reader takes one character off it.
-/

namespace TaggedMarkup.Json

-----------------------------------------------------------------------------------------
-- The grammar
-----------------------------------------------------------------------------------------

/-- Nothing but spaces, line feeds, tabs and carriage returns. -/
def IsSpaces (chars : List Char) : Prop :=
  ∀ c ∈ chars, Reader.isSpace c = true

def IsDigit (c : Char) : Prop :=
  '0' ≤ c ∧ c ≤ '9'

def IsHexDigit (c : Char) : Prop :=
  IsDigit c ∨ ('a' ≤ c ∧ c ≤ 'f') ∨ ('A' ≤ c ∧ c ≤ 'F')

/-- Digits, and at least one of them. -/
def IsDigits (chars : List Char) : Prop :=
  chars ≠ [] ∧ ∀ c ∈ chars, IsDigit c

theorem IsDigits.cons {c : Char} {chars : List Char} (isDigit : IsDigit c)
    (areDigits : ∀ c ∈ chars, IsDigit c)
    : IsDigits (c :: chars) :=
  ⟨List.cons_ne_nil _ _, List.forall_mem_cons.mpr ⟨isDigit, areDigits⟩⟩

/-- Digits that do not begin with a zero, or a zero alone. -/
inductive IsWhole : List Char → Prop
  | zero : IsWhole ['0']
  | digits {first rest}
    (isDigit : IsDigit first) (notZero : first ≠ '0') (areDigits : ∀ c ∈ rest, IsDigit c)
    : IsWhole (first :: rest)

/-- Nothing, or an exponent. -/
inductive IsExponent : List Char → Prop
  | none : IsExponent []
  | marked {mark sign digits}
    (isMark : mark ∈ ['e', 'E']) (isSign : sign ∈ [[], ['+'], ['-']]) (areDigits : IsDigits digits)
    : IsExponent (mark :: sign ++ digits)

/-- What may follow the whole part of a number: a fraction and an exponent, if there are any. -/
inductive IsEnding : List Char → Prop
  | whole {exponent} (ends : IsExponent exponent) : IsEnding exponent
  | fraction {digits exponent} (areDigits : IsDigits digits) (ends : IsExponent exponent)
    : IsEnding ('.' :: digits ++ exponent)

/-- A number without a sign. -/
def IsUnsigned (chars : List Char) : Prop :=
  ∃ whole ending, chars = whole ++ ending ∧ IsWhole whole ∧ IsEnding ending

inductive IsNumber : List Char → Prop
  | positive {chars} (isUnsigned : IsUnsigned chars) : IsNumber chars
  | negative {chars} (isUnsigned : IsUnsigned chars) : IsNumber ('-' :: chars)

/-- What may stand between the quotes of a string. -/
inductive IsQuotable : List Char → Prop
  | nil : IsQuotable []
  | plain {c rest}
    (printable : 32 ≤ c.toNat) (unquoted : c ≠ '"') (unescaped : c ≠ '\\')
    (others : IsQuotable rest)
    : IsQuotable (c :: rest)
  | escape {c rest}
    (letter : c ∈ ['"', '\\', '/', 'b', 'f', 'n', 'r', 't']) (others : IsQuotable rest)
    : IsQuotable ('\\' :: c :: rest)
  | unit {digits rest}
    (four : digits.length = 4) (areDigits : ∀ c ∈ digits, IsHexDigit c) (others : IsQuotable rest)
    : IsQuotable ('\\' :: 'u' :: digits ++ rest)

/-- The parts that a JSON text is made of. An element is a value with spaces around it. -/
inductive Part where
  | value
  | element
  | elements
  | member
  | members

inductive Part.Spells : Part → List Char → Prop
  | word {chars}
    (isWord : chars ∈ [['n', 'u', 'l', 'l'], ['t', 'r', 'u', 'e'], ['f', 'a', 'l', 's', 'e']])
    : Spells .value chars
  | number {chars} (isNumber : IsNumber chars) : Spells .value chars
  | string {chars} (isQuotable : IsQuotable chars) : Spells .value ('"' :: chars ++ ['"'])
  | emptyArray {gap} (isGap : IsSpaces gap) : Spells .value ('[' :: gap ++ [']'])
  | array {items} (areItems : Spells .elements items) : Spells .value ('[' :: items ++ [']'])
  | emptyObject {gap} (isGap : IsSpaces gap) : Spells .value ('{' :: gap ++ ['}'])
  | object {fields} (areFields : Spells .members fields) : Spells .value ('{' :: fields ++ ['}'])
  | element {before chars after}
    (leading : IsSpaces before) (isValue : Spells .value chars) (trailing : IsSpaces after)
    : Spells .element (before ++ chars ++ after)
  | lastElement {chars} (isElement : Spells .element chars) : Spells .elements chars
  | moreElements {first rest}
    (isElement : Spells .element first) (areElements : Spells .elements rest)
    : Spells .elements (first ++ ',' :: rest)
  | member {before name between chars}
    (leading : IsSpaces before) (isQuotable : IsQuotable name) (trailing : IsSpaces between)
    (isElement : Spells .element chars)
    : Spells .member (before ++ '"' :: name ++ '"' :: between ++ ':' :: chars)
  | lastMember {chars} (isMember : Spells .member chars) : Spells .members chars
  | moreMembers {first rest}
    (isMember : Spells .member first) (areMembers : Spells .members rest)
    : Spells .members (first ++ ',' :: rest)

namespace Part.Spells

/-- Spaces may stand behind every part but a value. -/
theorem append_space {part : Part} {chars : List Char} (spells : part.Spells chars)
    (isLoose : part ≠ .value) {c : Char} (isSpace : Reader.isSpace c = true)
    : part.Spells (chars ++ [c]) := by
  induction spells with
  | word | number | string | emptyArray | array | emptyObject | object =>
      exact absurd rfl isLoose
  | @element before chars after leading isValue trailing =>
      have longer : IsSpaces (after ++ [c]) := by
        simpa [IsSpaces, or_imp, forall_and] using And.intro trailing isSpace
      simpa only [List.append_assoc] using Part.Spells.element leading isValue longer
  | lastElement _ ih => exact .lastElement (ih nofun)
  | moreElements isElement _ _ ih =>
      simpa only [List.append_assoc, List.cons_append] using
        Part.Spells.moreElements isElement (ih nofun)
  | member leading isQuotable trailing _ ih =>
      simpa only [List.append_assoc, List.cons_append] using
        Part.Spells.member leading isQuotable trailing (ih nofun)
  | lastMember _ ih => exact .lastMember (ih nofun)
  | moreMembers isMember _ _ ih =>
      simpa only [List.append_assoc, List.cons_append] using
        Part.Spells.moreMembers isMember (ih nofun)

end Part.Spells

-----------------------------------------------------------------------------------------
-- What a machine demands
-----------------------------------------------------------------------------------------

namespace Reader

inductive Kind where
  | array
  | object

namespace Kind

def opening : Kind → Char
  | .array => '['
  | .object => '{'

def closing : Kind → Char
  | .array => ']'
  | .object => '}'

/-- What stands between the commas of an array or object. -/
def item : Kind → Part
  | .array => .element
  | .object => .member

/-- What stands between the ends of an array or object that is not empty. -/
def items : Kind → Part
  | .array => .elements
  | .object => .members

variable {kind : Kind} {chars rest gap : List Char}

theorem item_ne_value : kind.item ≠ .value := by
  cases kind <;> nofun

theorem spells_last (isItem : kind.item.Spells chars) : kind.items.Spells chars := by
  cases kind with
  | array => exact .lastElement isItem
  | object => exact .lastMember isItem

theorem spells_more (isItem : kind.item.Spells chars) (areItems : kind.items.Spells rest)
    : kind.items.Spells (chars ++ ',' :: rest) := by
  cases kind with
  | array => exact .moreElements isItem areItems
  | object => exact .moreMembers isItem areItems

end Kind

def Frame.kind : Frame → Kind
  | .array _ => .array
  | .object .. => .object

/-- What a text goes on with behind a complete value in arrays and objects of these kinds, the
innermost first.
-/
inductive Demands : List Kind → List Char → Prop
  | finished : Demands [] []
  | space {kinds c rest} (isSpace : isSpace c = true) (demands : Demands kinds rest)
    : Demands kinds (c :: rest)
  | close {kind outer rest} (demands : Demands outer rest)
    : Demands (kind :: outer) (kind.closing :: rest)
  | next {kind outer chars rest}
    (isItem : kind.item.Spells chars) (demands : Demands (kind :: outer) rest)
    : Demands (kind :: outer) (',' :: chars ++ rest)

/-- An element and the spaces behind it are an element. -/
theorem Demands.element {kinds : List Kind} {rest : List Char} (demands : Demands kinds rest)
    (isOutermost : kinds = []) {chars : List Char} (isElement : Part.element.Spells chars)
    : Part.element.Spells (chars ++ rest) := by
  induction demands generalizing chars with
  | close | next => cases isOutermost
  | finished => simpa using isElement
  | space isSpace _ ih => simpa using ih isOutermost (isElement.append_space nofun isSpace)

/-- An item and what its array or object goes on with are the items, by induction on the latter. -/
theorem Demands.items {kinds outer : List Kind} {kind : Kind} {rest : List Char}
    (demands : Demands kinds rest) (isInside : kinds = kind :: outer) {chars : List Char}
    (isItem : kind.item.Spells chars)
    : ∃ items after,
        chars ++ rest = items ++ kind.closing :: after
        ∧ kind.items.Spells items
        ∧ Demands outer after := by
  induction demands generalizing chars with
  | finished => cases isInside
  | @space kinds c rest isSpace _ ih =>
      obtain ⟨items, after, split, areItems, ends⟩ :=
        ih isInside (isItem.append_space Kind.item_ne_value isSpace)
      exact
        ⟨items, after, by rw [← split, List.append_assoc, List.singleton_append], areItems, ends⟩
  | close demands =>
      obtain ⟨rfl, rfl⟩ := List.cons.inj isInside
      exact ⟨_, _, rfl, Kind.spells_last isItem, demands⟩
  | @next _ _ following rest isNext _ ih =>
      obtain ⟨rfl, rfl⟩ := List.cons.inj isInside
      obtain ⟨items, after, split, areItems, ends⟩ := ih rfl isNext
      refine ⟨chars ++ ',' :: items, after, ?_, Kind.spells_more isItem areItems, ends⟩
      simp only [List.cons_append, List.append_assoc, split]

/-- What a number may go on with. -/
def NumberStage.Rest (stage : NumberStage) (chars : List Char) : Prop :=
  match stage with
  | .minus => IsUnsigned chars
  | .zero => IsEnding chars
  | .whole =>
      ∃ digits ending, chars = digits ++ ending ∧ (∀ c ∈ digits, IsDigit c) ∧ IsEnding ending
  | .point => ∃ digits exponent, chars = digits ++ exponent ∧ IsDigits digits ∧ IsExponent exponent
  | .fraction =>
      ∃ digits exponent,
        chars = digits ++ exponent ∧ (∀ c ∈ digits, IsDigit c) ∧ IsExponent exponent
  | .mark => ∃ sign digits, chars = sign ++ digits ∧ sign ∈ [[], ['+'], ['-']] ∧ IsDigits digits
  | .sign => IsDigits chars
  | .exponent => ∀ c ∈ chars, IsDigit c

/-- What stands between the name of a field and the end of the field. -/
def IsAssigned (chars : List Char) : Prop :=
  ∃ gap value, chars = gap ++ ':' :: value ∧ IsSpaces gap ∧ Part.element.Spells value

/-- What may follow the text of a value or a name. -/
def Use.After (use : Use) (chars : List Char) : Prop :=
  match use with
  | .value => chars = []
  | .name => IsAssigned chars

/-- What a text between quotes may go on with. -/
def Use.Rest (use : Use) (chars : List Char) : Prop :=
  ∃ quotable after, chars = quotable ++ '"' :: after ∧ IsQuotable quotable ∧ use.After after

/-- A text between quotes may have something more in front. -/
theorem Use.Rest.append {use : Use} {chars : List Char} (rest : use.Rest chars)
    (front : List Char)
    (longer : ∀ quotable, IsQuotable quotable → IsQuotable (front ++ quotable))
    : use.Rest (front ++ chars) := by
  obtain ⟨quotable, after, rfl, isQuotable, follows⟩ := rest
  exact ⟨front ++ quotable, after, by simp, longer quotable isQuotable, follows⟩

/-- What the value or the name that is being read may go on with. -/
def Mode.Rest (mode : Mode) (chars : List Char) : Prop :=
  match mode with
  | .value | .firstItem => Part.element.Spells chars
  | .firstName | .name => Part.member.Spells chars
  | .colon => IsAssigned chars
  | .afterItem | .finished _ => chars = []
  | .text use _ | .pairEscape use _ _ => use.Rest chars
  | .escape use _ | .pairLetter use _ _ => use.Rest ('\\' :: chars)
  | .unit use _ _ missing _ =>
      ∃ digits others,
        chars = digits ++ others
        ∧ digits.length = max missing 1
        ∧ (∀ c ∈ digits, IsHexDigit c)
        ∧ use.Rest others
  | .number numeral => numeral.stage.Rest chars
  | .word letters _ => chars = letters

/-- The text goes on with one thing, and with what the frames demand behind it. -/
def Follows (frames : List Frame) (rest : List Char → Prop) (chars : List Char) : Prop :=
  ∃ front after, chars = front ++ after ∧ rest front ∧ Demands (frames.map Frame.kind) after

namespace Follows

variable {frames : List Frame} {rest longer : List Char → Prop} {chars : List Char}

theorem cons (follows : Follows frames rest chars) {c : Char}
    (begins : ∀ front, rest front → longer (c :: front))
    : Follows frames longer (c :: chars) := by
  obtain ⟨front, after, rfl, isRest, demands⟩ := follows
  exact ⟨c :: front, after, rfl, begins front isRest, demands⟩

theorem demands (follows : Follows frames (· = []) chars)
    : Demands (frames.map Frame.kind) chars := by
  obtain ⟨_, after, rfl, rfl, demands⟩ := follows
  exact demands

end Follows

theorem isHexDigit_of_hexDigit? {c : Char} {value : Nat}
    (isDigit : TaggedMarkup.Numeral.hexDigit? c = some value)
    : IsHexDigit c := by
  simp only [TaggedMarkup.Numeral.hexDigit?] at isDigit
  split at isDigit
  next decimal => exact .inl decimal
  next =>
      split at isDigit
      next small => exact .inr (.inl small)
      next =>
          split at isDigit
          next large => exact .inr (.inr large)
          next => cases isDigit

theorem eq_of_enter {frames : List Frame} {frame : Frame} {mode : Mode} {next : Machine}
    (enters : enter frames frame mode = some next)
    : next = { frames := frame :: frames, mode } := by
  simp only [enter] at enters
  split at enters
  next => exact (Option.some.inj enters).symm
  next => cases enters

end Reader

namespace Reader

/-- The letters that the word that is being read has left. -/
def Mode.letters : Mode → List Char
  | .word rest _ => rest
  | _ => []

/-- No space is a letter of a word. -/
def Machine.SpacesApart (machine : Machine) : Prop :=
  ∀ c ∈ machine.mode.letters, isSpace c = false

theorem spacesApart_of_eq_nil {machine : Machine} (none : machine.mode.letters = [])
    : machine.SpacesApart := by
  simp [Machine.SpacesApart, none]

theorem letters_complete (frames : List Frame) (value : Json)
    : (complete frames value).mode.letters = [] := by
  match frames with
  | [] | .array _ :: _ | .object .. :: _ => rfl

theorem letters_stepAfterItem {frames : List Frame} {c : Char} {next : Machine}
    (steps : stepAfterItem frames c = some next)
    : next.mode.letters = [] := by
  simp only [stepAfterItem] at steps
  grind [Mode.letters, letters_complete]

theorem letters_endText {frames : List Frame} {use : Use} {read : String} {next : Machine}
    (ends : endText frames use read = some next)
    : next.mode.letters = [] := by
  simp only [endText] at ends
  grind [Mode.letters, letters_complete]

theorem letters_endUnit {frames : List Frame} {use : Use} {read : String} {high : Option Nat}
    {unit : Nat} {next : Machine} (ends : endUnit frames use read high unit = some next)
    : next.mode.letters = [] := by
  simp only [endUnit] at ends
  grind [Mode.letters]

theorem spacesApart_startValue {frames : List Frame} {c : Char} {next : Machine}
    (starts : startValue frames c = some next)
    : next.SpacesApart := by
  simp only [startValue] at starts
  split at starts
  next =>
      obtain rfl := eq_of_enter starts
      exact spacesApart_of_eq_nil rfl
  next =>
      obtain rfl := eq_of_enter starts
      exact spacesApart_of_eq_nil rfl
  next =>
      obtain rfl := Option.some.inj starts
      exact spacesApart_of_eq_nil rfl
  next =>
      obtain rfl := Option.some.inj starts
      exact spacesApart_of_eq_nil rfl
  next =>
      obtain rfl := Option.some.inj starts
      simp [Machine.SpacesApart, Mode.letters, isSpace]
  next =>
      obtain rfl := Option.some.inj starts
      simp [Machine.SpacesApart, Mode.letters, isSpace]
  next =>
      obtain rfl := Option.some.inj starts
      simp [Machine.SpacesApart, Mode.letters, isSpace]
  next =>
      obtain ⟨numeral, -, rfl⟩ := Option.map_eq_some_iff.mp starts
      exact spacesApart_of_eq_nil rfl

/-- Every step keeps the spaces apart from the words: only a value begins with a word, and a step
within a word takes a letter off it.
-/
theorem Machine.SpacesApart.step {machine next : Machine} {c : Char}
    (apart : machine.SpacesApart) (steps : Reader.step machine c = some next)
    : next.SpacesApart := by
  obtain ⟨frames, mode⟩ := machine
  cases mode with
  | value | firstItem =>
      simp only [Reader.step] at steps
      grind [letters_stepAfterItem, spacesApart_startValue, spacesApart_of_eq_nil]
  | firstName | name | colon | escape | pairEscape | pairLetter | finished =>
      simp only [Reader.step] at steps
      refine spacesApart_of_eq_nil ?_
      grind [Mode.letters, letters_stepAfterItem, Option.map_eq_some_iff]
  | afterItem => exact spacesApart_of_eq_nil (letters_stepAfterItem steps)
  | text =>
      simp only [Reader.step] at steps
      refine spacesApart_of_eq_nil ?_
      grind [Mode.letters, letters_endText]
  | unit =>
      simp only [Reader.step] at steps
      refine spacesApart_of_eq_nil ?_
      grind [Mode.letters, letters_endUnit]
  | number =>
      simp only [Reader.step] at steps
      refine spacesApart_of_eq_nil ?_
      grind [Mode.letters, letters_stepAfterItem, letters_complete]
  | word letters value =>
      simp only [Reader.step] at steps
      grind [Mode.letters, Machine.SpacesApart, letters_complete]

theorem eq_of_isSpace {c : Char} (isGap : isSpace c = true)
    : c = ' ' ∨ c = '\n' ∨ c = '\t' ∨ c = '\r' := by
  simpa [isSpace, or_assoc] using isGap

end Reader

end TaggedMarkup.Json
