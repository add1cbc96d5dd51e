import Mathlib.Data.List.Permutation
import TaggedMarkup.Proofs.JsonTexts
import TaggedMarkup.TemplateFile

/-! A template file is written from fragments and JSON texts by a backslash before every dollar
sign of a fragment, and is read back as what it was written from. A JSON text closes the braces
and the quotes that it opens, so that the brace behind it ends the placeholder.
-/

namespace TaggedMarkup

-----------------------------------------------------------------------------------------
-- Blank characters around a value
-----------------------------------------------------------------------------------------

/-- There are characters, and neither the first nor the last is blank. -/
structure Text.Solid (chars : List Char) : Prop where
  nonempty : chars ≠ []
  first : ∀ c ∈ chars.head?, isBlank c = false
  last : ∀ c ∈ chars.getLast?, isBlank c = false

theorem Text.Solid.enclosed {opening closing : Char} (chars : List Char)
    (isOpen : isBlank opening = false) (isClosed : isBlank closing = false)
    : Solid (opening :: chars ++ [closing]) where
  nonempty := nofun
  first := by simpa using isOpen
  last := by
    rw [List.getLast?_concat]
    simpa using isClosed

theorem Text.Solid.of_forall {chars : List Char} (nonempty : chars ≠ [])
    (solid : ∀ c ∈ chars, isBlank c = false)
    : Solid chars where
  nonempty := nonempty
  first c isFirst := solid c (List.mem_of_mem_head? isFirst)
  last c isLast := solid c (List.mem_of_getLast? isLast)

namespace Json

/-- The characters that numbers are written with. -/
def IsNumeric (c : Char) : Prop :=
  IsDigit c ∨ c ∈ ['-', '+', '.', 'e', 'E']

theorem isNumeric_of_isDigits {chars : List Char} (areDigits : ∀ c ∈ chars, IsDigit c)
    : ∀ c ∈ chars, IsNumeric c :=
  fun c member => .inl (areDigits c member)

theorem IsExponent.isNumeric {chars : List Char} (ends : IsExponent chars)
    : ∀ c ∈ chars, IsNumeric c := by
  cases ends with
  | none => exact nofun
  | @marked mark sign digits isMark isSign areDigits =>
      have signed : ∀ c ∈ sign, IsNumeric c := by
        simp only [List.mem_cons, List.not_mem_nil, or_false] at isSign
        obtain rfl | rfl | rfl := isSign <;> simp [IsNumeric]
      have marked : IsNumeric mark := by
        simp only [List.mem_cons, List.not_mem_nil, or_false] at isMark
        obtain rfl | rfl := isMark <;> simp [IsNumeric]
      exact List.forall_mem_append.mpr
        ⟨List.forall_mem_cons.mpr ⟨marked, signed⟩, isNumeric_of_isDigits areDigits.2⟩

theorem IsEnding.isNumeric {chars : List Char} (ends : IsEnding chars)
    : ∀ c ∈ chars, IsNumeric c := by
  cases ends with
  | whole ends => exact ends.isNumeric
  | fraction areDigits ends =>
      have isPoint : IsNumeric '.' := by simp [IsNumeric]
      exact List.forall_mem_append.mpr
        ⟨List.forall_mem_cons.mpr ⟨isPoint, isNumeric_of_isDigits areDigits.2⟩, ends.isNumeric⟩

theorem IsWhole.isNumeric {chars : List Char} (isWhole : IsWhole chars)
    : chars ≠ [] ∧ ∀ c ∈ chars, IsNumeric c := by
  cases isWhole with
  | zero => exact ⟨nofun, by simp [IsNumeric, IsDigit]⟩
  | digits isDigit _ areDigits =>
      exact ⟨nofun, List.forall_mem_cons.mpr ⟨.inl isDigit, isNumeric_of_isDigits areDigits⟩⟩

theorem IsUnsigned.isNumeric {chars : List Char} (isUnsigned : IsUnsigned chars)
    : chars ≠ [] ∧ ∀ c ∈ chars, IsNumeric c := by
  obtain ⟨whole, ending, rfl, isWhole, isEnding⟩ := isUnsigned
  obtain ⟨nonempty, areNumeric⟩ := isWhole.isNumeric
  exact
    ⟨List.append_ne_nil_of_left_ne_nil nonempty ending,
      List.forall_mem_append.mpr ⟨areNumeric, isEnding.isNumeric⟩⟩

theorem IsNumber.isNumeric {chars : List Char} (isNumber : IsNumber chars)
    : chars ≠ [] ∧ ∀ c ∈ chars, IsNumeric c := by
  cases isNumber with
  | positive isUnsigned => exact isUnsigned.isNumeric
  | negative isUnsigned =>
      have isSign : IsNumeric '-' := by simp [IsNumeric]
      exact ⟨nofun, List.forall_mem_cons.mpr ⟨isSign, isUnsigned.isNumeric.2⟩⟩

theorem IsNumeric.isBlank {c : Char} (isNumeric : IsNumeric c) : Text.isBlank c = false := by
  have asNumbers (first second : Char) : first ≤ second ↔ first.toNat ≤ second.toNat := Iff.rfl
  simp only [IsNumeric, IsDigit, List.mem_cons, List.not_mem_nil, or_false, asNumbers,
    ← Char.toNat_inj, Char.reduceToNat] at isNumeric
  simp only [Text.isBlank, Bool.or_eq_false_iff, Bool.and_eq_false_iff, decide_eq_false_iff_not,
    beq_eq_false_iff_ne, ne_eq, asNumbers, ← Char.toNat_inj, Char.reduceToNat]
  omega

theorem Part.Spells.solid {chars : List Char} (isValue : Part.value.Spells chars)
    : Text.Solid chars := by
  cases isValue with
  | word isWord =>
      simp only [List.mem_cons, List.not_mem_nil, or_false] at isWord
      obtain rfl | rfl | rfl := isWord
      · exact .of_forall nofun (by simp [Text.isBlank])
      · exact .of_forall nofun (by simp [Text.isBlank])
      · exact .of_forall nofun (by simp [Text.isBlank])
  | number isNumber =>
      obtain ⟨nonempty, areNumeric⟩ := isNumber.isNumeric
      exact .of_forall nonempty fun c member => (areNumeric c member).isBlank
  | string | emptyArray | array | emptyObject | object => exact .enclosed _ rfl rfl

end Json

-----------------------------------------------------------------------------------------
-- Braces and quotes
-----------------------------------------------------------------------------------------

namespace TemplateFile

/-- A character that leaves the braces and quotes as they are. -/
def IsNeutral (c : Char) : Prop :=
  c ∉ ['{', '}', '"', '\'']

theorem isNeutral_of_isSpace {c : Char} (isSpace : Json.Reader.isSpace c = true)
    : IsNeutral c := by
  obtain rfl | rfl | rfl | rfl := Json.Reader.eq_of_isSpace isSpace <;> simp [IsNeutral]

theorem isNeutral_of_isNumeric {c : Char} (isNumeric : Json.IsNumeric c) : IsNeutral c := by
  intro member
  simp only [List.mem_cons, List.not_mem_nil, or_false] at member
  obtain rfl | rfl | rfl | rfl := member <;> simp [Json.IsNumeric, Json.IsDigit] at isNumeric

/-- The characters lead back to where they have been read from. -/
def Inside.Keeps (inside : Inside) (chars : List Char) : Prop :=
  chars.foldlM Inside.next? inside = some inside

namespace Inside.Keeps

variable {inside : Inside} {depth : Nat} {chars others : List Char}

theorem nil : inside.Keeps [] :=
  rfl

theorem append (keeps : inside.Keeps chars) (keepsOthers : inside.Keeps others)
    : inside.Keeps (chars ++ others) := by
  simp only [Keeps, List.foldlM_append] at *
  simp [keeps, keepsOthers]

theorem cons {c : Char} (stays : inside.next? c = some inside) (keeps : inside.Keeps chars)
    : inside.Keeps (c :: chars) := by
  simpa [Keeps, stays] using keeps

theorem consNeutral {c : Char} (isNeutral : IsNeutral c) (keeps : (Inside.plain depth).Keeps chars)
    : (Inside.plain depth).Keeps (c :: chars) := by
  refine keeps.cons ?_
  simp only [IsNeutral, List.mem_cons, List.not_mem_nil, or_false, not_or] at isNeutral
  simp only [Inside.next?]
  split <;> simp_all

theorem neutral (areNeutral : ∀ c ∈ chars, IsNeutral c) : (Inside.plain depth).Keeps chars := by
  induction chars with
  | nil => exact .nil
  | cons c chars ih =>
      obtain ⟨isFirst, areOthers⟩ := List.forall_mem_cons.mp areNeutral
      exact .consNeutral isFirst (ih areOthers)

theorem spaces (isGap : Json.IsSpaces chars) : (Inside.plain depth).Keeps chars :=
  .neutral fun c member => isNeutral_of_isSpace (isGap c member)

/-- Braces around a text that closes its own are closed. -/
theorem braces (keeps : (Inside.plain (depth + 1)).Keeps chars)
    : (Inside.plain depth).Keeps ('{' :: chars ++ ['}']) := by
  simp only [Keeps] at *
  simp [Inside.next?, keeps]

theorem brackets (keeps : (Inside.plain depth).Keeps chars)
    : (Inside.plain depth).Keeps ('[' :: chars ++ [']']) :=
  .append (.consNeutral (by simp [IsNeutral]) keeps) (.neutral (by simp [IsNeutral]))

theorem hexDigits (areDigits : ∀ c ∈ chars, Json.IsHexDigit c)
    : (Inside.quoted depth '"').Keeps chars := by
  induction chars with
  | nil => exact .nil
  | cons c chars ih =>
      obtain ⟨isFirst, areOthers⟩ := List.forall_mem_cons.mp areDigits
      refine .cons ?_ (ih areOthers)
      have unquoted : c ≠ '"' := by
        rintro rfl
        simp [Json.IsHexDigit, Json.IsDigit] at isFirst
      have unescaped : c ≠ '\\' := by
        rintro rfl
        simp [Json.IsHexDigit, Json.IsDigit] at isFirst
      simp [Inside.next?, unquoted, unescaped]

/-- Nothing that may stand between quotes is a quote that ends a text. -/
theorem quotable (isQuotable : Json.IsQuotable chars)
    : (Inside.quoted depth '"').Keeps chars := by
  induction isQuotable with
  | nil => exact .nil
  | plain _ unquoted unescaped _ ih => exact ih.cons (by simp [Inside.next?, unquoted, unescaped])
  | escape _ _ ih => simpa [Keeps, Inside.next?] using ih
  | unit _ areDigits _ ih => simpa [Keeps, Inside.next?] using (hexDigits areDigits).append ih

theorem quoted (isQuotable : Json.IsQuotable chars)
    : (Inside.plain depth).Keeps ('"' :: chars ++ ['"']) := by
  have keeps : (Inside.quoted depth '"').Keeps chars := .quotable isQuotable
  simp only [Keeps] at *
  simp [Inside.next?, keeps]

/-- A JSON text closes whatever brace or quote it opens. -/
theorem spells {part : Json.Part} (spells : part.Spells chars) (depth : Nat)
    : (Inside.plain depth).Keeps chars := by
  induction spells generalizing depth with
  | word isWord =>
      simp only [List.mem_cons, List.not_mem_nil, or_false] at isWord
      obtain rfl | rfl | rfl := isWord <;> rfl
  | number isNumber =>
      exact .neutral fun c member => isNeutral_of_isNumeric (isNumber.isNumeric.2 c member)
  | string isQuotable => exact .quoted isQuotable
  | emptyArray isGap => exact .brackets (.spaces isGap)
  | array _ ih => exact .brackets (ih depth)
  | emptyObject isGap => exact .braces (.spaces isGap)
  | object _ ih => exact .braces (ih (depth + 1))
  | element leading _ trailing ih =>
      exact .append (.append (.spaces leading) (ih depth)) (.spaces trailing)
  | lastElement _ ih | lastMember _ ih => exact ih depth
  | moreElements _ _ first others | moreMembers _ _ first others =>
      exact .append (first depth) (.consNeutral (by simp [IsNeutral]) (others depth))
  | @member before name between chars leading isQuotable trailing _ ih =>
      have assigned : (Inside.plain depth).Keeps (between ++ ':' :: chars) :=
        .append (.spaces trailing) (.consNeutral (by simp [IsNeutral]) (ih depth))
      simpa using Keeps.append (.spaces leading) (.append (.quoted isQuotable) assigned)

end Inside.Keeps

-----------------------------------------------------------------------------------------
-- Fragments and placeholders
-----------------------------------------------------------------------------------------

def escapedChar (c : Char) : List Char :=
  if c = '$' then ['\\', '$'] else [c]

/-- A fragment as a template file has it, with a backslash before every dollar sign. -/
def escaped (fragment : String) : String :=
  String.ofList (fragment.toList.flatMap escapedChar)

/-- The template file of these fragments with these texts between them. -/
def source : List String → List String → String
  | fragment :: fragments, text :: texts =>
      escaped fragment ++ "$\x7b" ++ text ++ "\x7d" ++ source fragments texts
  | fragment :: _, [] => escaped fragment
  | [], _ => ""

/-- The text of a fragment that has been read, with the backslash that is kept back until it is
known whether a dollar sign follows.
-/
inductive Reading.Holds : Reading → String → Prop
  | fragment (text : String) : Holds (.fragment text) text
  | backslash (text : String) : Holds (.backslash text) (text.push '\\')

section

variable {read? : String → Option Json}

end

end TemplateFile

end TaggedMarkup
