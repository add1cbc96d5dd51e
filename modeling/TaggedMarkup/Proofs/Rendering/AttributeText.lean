import Mathlib.Data.List.Basic
import TaggedMarkup.Proofs.Rendering.Document
import TaggedMarkup.Text.Blank

/-! The text of an attribute. Whatever a property is called and whatever its value is, nothing is
written for it or a whole attribute, whose name ends where it seems to end and whose text stays
inside its quotes. Event handlers are written on custom elements only.
-/

namespace TaggedMarkup

-----------------------------------------------------------------------------------------
-- Names
-----------------------------------------------------------------------------------------

namespace Html

/-- A name that ends neither early nor late. The Ogham space mark is the one blank character among
those of a name, and it does not separate attributes.
-/
structure NameKept (written : String) : Prop where
  nonempty : written ≠ ""
  special : ∀ c ∈ written.toList, c ∉ ['"', '\'', '=', '/', '<', '>']
  blank : ∀ c ∈ written.toList, Text.isBlank c = true → c = '\u1680'

/-- A written name that begins with `on` in any case and is longer than two bytes. -/
def NamesHandler (written : String) : Prop :=
  2 < written.utf8ByteSize
  ∧ ∃ first second rest,
      written.toList = first :: second :: rest
      ∧ (first = 'o' ∨ first = 'O')
      ∧ (second = 'n' ∨ second = 'N')

theorem isNamePart_start {c : Char} (start : isNameStart c = true) : isNamePart c = true := by
  simp only [isNamePart, start, Bool.true_or]

/-- A character of a name is not special. -/
theorem isNamePart_special {c : Char} (part : isNamePart c = true)
    : c ∉ ['"', '\'', '=', '/', '<', '>'] := by
  intro special
  have none : ['"', '\'', '=', '/', '<', '>'].all (fun c => !isNamePart c) = true := by decide
  have := List.all_eq_true.mp none c special
  simp [part] at this

/-- One character of a name is blank. -/
theorem isNamePart_blank {c : Char} (part : isNamePart c = true) (blank : Text.isBlank c = true)
    : c = '\u1680' := by
  have asNumbers (first second : Char) : first ≤ second ↔ first.toNat ≤ second.toNat := Iff.rfl
  simp only [isNamePart, isNameStart, isLetter, isCapital, isSmall, Bool.or_eq_true,
    Bool.and_eq_true, decide_eq_true_eq, beq_iff_eq, asNumbers, ← Char.toNat_inj,
    Char.reduceToNat] at part
  simp only [Text.isBlank, Bool.or_eq_true, Bool.and_eq_true, decide_eq_true_eq, beq_iff_eq,
    asNumbers, ← Char.toNat_inj, Char.reduceToNat] at blank ⊢
  omega

theorem isSafeName_parts {name : String} (safe : isSafeName name = true)
    : name ≠ "" ∧ ∀ c ∈ name.toList, isNamePart c = true := by
  simp only [isSafeName] at safe
  split at safe
  next first rest isName =>
      obtain ⟨start, others⟩ := (Bool.and_eq_true ..).mp safe
      refine ⟨?_, ?_⟩
      · rintro rfl
        cases isName
      · intro c member
        rw [isName] at member
        rcases List.mem_cons.mp member with rfl | later
        · exact isNamePart_start start
        · exact List.all_eq_true.mp others c later
  next => cases safe

theorem nameKept_of_safe {name : String} (safe : isSafeName name = true) : NameKept name := by
  obtain ⟨nonempty, parts⟩ := isSafeName_parts safe
  exact {
    nonempty
    special := fun c member => isNamePart_special (parts c member)
    blank := fun c member => isNamePart_blank (parts c member)
  }

/-- A name that is that of an event handler is left out when it is not listed. -/
theorem isEventHandler_of_names {name : String} (handler : NamesHandler name)
    : isEventHandler name = true := by
  obtain ⟨long, first, second, rest, isName, isFirst, isSecond⟩ := handler
  have start : lowered first = 'o' := by rcases isFirst with rfl | rfl <;> decide
  have next : lowered second = 'n' := by rcases isSecond with rfl | rfl <;> decide
  cases rest with
  | nil =>
      have short : name = String.ofList [first, second] := by
        rw [← isName, String.ofList_toList]
      rcases isFirst with rfl | rfl <;> rcases isSecond with rfl | rfl <;>
        exact absurd (short ▸ long) (by decide)
  | cons third others => simp [isEventHandler, isName, start, next]

/-- The names of the table are not those of event handlers. -/
theorem not_namesHandler_written {name : String} {property : Property}
    (found : property? name = some property)
    : ¬ NamesHandler property.written := by
  have all : properties.all (fun property => !isEventHandler property.written) = true := by
    decide +kernel
  have quiet := List.all_eq_true.mp all property (List.mem_of_find?_eq_some found)
  intro handler
  simp [isEventHandler_of_names handler] at quiet

end Html

-----------------------------------------------------------------------------------------
-- Texts
-----------------------------------------------------------------------------------------

namespace Text

/-- A text that does not end its attribute and in which every ampersand begins a character
reference.
-/
structure BodyKept (body : String) : Prop where
  special : ∀ c ∈ body.toList, c ∉ ['<', '>', '"', '\'']
  reference
    : ∀ before after,
        body.toList = before ++ '&' :: after
        → ∃ reference ∈ references, reference.toList <+: '&' :: after

theorem references_special {reference : String} (listed : reference ∈ references)
    : ∀ c ∈ reference.toList, c ∉ ['<', '>', '"', '\''] := by
  have all
      : references.all (fun reference =>
          reference.toList.all fun c => !(['<', '>', '"', '\''].contains c)) = true := by
    decide
  intro c member special
  have := List.all_eq_true.mp (List.all_eq_true.mp all reference listed) c member
  simp [special] at this

/-- A reference has its only ampersand at its beginning. -/
theorem references_begin {reference : String} (listed : reference ∈ references)
    : ∃ rest, reference.toList = '&' :: rest ∧ '&' ∉ rest := by
  have all
      : references.all (fun reference =>
          reference.toList.head? == some '&' && !reference.toList.tail.contains '&') = true := by
    decide
  obtain ⟨first, others⟩ := (Bool.and_eq_true ..).mp (List.all_eq_true.mp all reference listed)
  cases isReference : reference.toList with
  | nil => simp [isReference] at first
  | cons c rest =>
      simp only [isReference, List.head?_cons, List.tail_cons, beq_iff_eq, Option.some.injEq,
        Bool.not_eq_true', List.contains_eq_mem, decide_eq_false_iff_not] at first others
      exact ⟨rest, by rw [first], others⟩

theorem Escaped.special {chars : List Char} (escaped : Escaped chars)
    : ∀ c ∈ chars, c ∉ ['<', '>', '"', '\''] := by
  induction escaped with
  | nil => simp
  | @plain first rest plain _ ih =>
      intro c member
      rcases List.mem_cons.mp member with rfl | later
      · exact fun special => plain (List.mem_cons_of_mem _ special)
      · exact ih c later
  | reference listed _ ih =>
      intro c member
      rcases List.mem_append.mp member with here | later
      · exact references_special listed c here
      · exact ih c later

/-- An ampersand of escaped text begins a reference, by induction on the text. -/
theorem Escaped.reference_at {chars : List Char} (escaped : Escaped chars)
    : ∀ before after,
        chars = before ++ '&' :: after
        → ∃ reference ∈ references, reference.toList <+: '&' :: after := by
  induction escaped with
  | nil => simp
  | @plain first rest plain _ ih =>
      intro before after same
      cases before with
      | nil =>
          obtain ⟨rfl, -⟩ := List.cons.inj same
          simp at plain
      | cons c before => exact ih before after (List.cons.inj same).2
  | @reference reference rest listed _ ih =>
      intro before after same
      obtain ⟨tail, isReference, once⟩ := references_begin listed
      cases before with
      | nil => exact ⟨reference, listed, rest, same⟩
      | cons c before =>
          rw [isReference] at same
          obtain ⟨-, same⟩ := List.cons.inj same
          -- The ampersand is not in the rest of the reference, so it is in the text after it.
          rcases List.append_eq_append_iff.mp same with ⟨more, rfl, later⟩ | ⟨more, isTail, later⟩
          · exact ih more after later
          · cases more with
            | nil => exact ih [] after later.symm
            | cons c more =>
                obtain ⟨rfl, -⟩ := List.cons.inj later
                exact absurd (by simp [isTail]) once

theorem Escaped.bodyKept {body : String} (escaped : Escaped body.toList) : BodyKept body :=
  ⟨escaped.special, escaped.reference_at⟩

end Text

-----------------------------------------------------------------------------------------
-- Attributes
-----------------------------------------------------------------------------------------

/-- What is written for a property of an element, which may be a custom one. -/
inductive WrittenWhole (custom : Bool) : String → Prop
  | nothing : WrittenWhole custom ""
  | attribute {name body : String} (named : Html.NameKept name) (kept : Text.BodyKept body)
    (quiet : custom = false → ¬ Html.NamesHandler name)
    : WrittenWhole custom (" " ++ name ++ "=\"" ++ body ++ "\"")

namespace WrittenAttribute

variable {name : String} {value : Value} {custom : Bool} {piece : Piece}

/-- What is appended to the markup for a property. -/
def appended (written : Option Piece) : String :=
  Piece.renderAll written.toList

/-- No attribute of an element that is no custom one is that of an event handler. -/
theorem Becomes.quiet {written body : String}
    (becomes : Becomes name value false (.attribute written body))
    : ¬ Html.NamesHandler written := by
  cases becomes with
  | emptied found | listed found => exact Html.not_namesHandler_written found
  | unlisted _ quiet =>
      intro handler
      simp [Html.isEventHandler_of_names handler] at quiet

/-- An attribute that cannot break out of its tag is whole. -/
theorem whole_of_safe {written : Option Piece}
    (safe : ∀ piece ∈ written, piece.SafeAttribute)
    (quiet
      : custom = false
        → ∀ name body, written = some (.attribute name body) → ¬ Html.NamesHandler name)
    : WrittenWhole custom (appended written) := by
  cases written with
  | none => exact .nothing
  | some piece =>
      obtain ⟨named, escaped⟩ := safe piece rfl
      simp only [appended, Piece.renderAll, Option.toList_some, List.foldl_cons, List.foldl_nil,
        Piece.render, String.empty_append]
      exact .attribute (Html.nameKept_of_safe named) escaped.bodyKept
        fun isStandard => quiet isStandard _ _ rfl

theorem whole_ofProperty? (name : String) (value : Value) (custom : Bool)
    : WrittenWhole custom (appended (ofProperty? name value custom)) := by
  refine whole_of_safe (fun piece written => (becomes_of_ofProperty? written).safe) ?_
  rintro rfl written body isWritten
  exact (becomes_of_ofProperty? isWritten).quiet

theorem whole_ofStyle? {written : Option Piece} (isWritten : ofStyle? value = .ok written)
    : WrittenWhole custom (appended written) := by
  refine whole_of_safe (fun piece isPiece => safe_ofStyle? (isPiece ▸ isWritten)) ?_
  rintro - name body rfl handler
  obtain ⟨css, same⟩ := ofStyle?_eq isWritten
  have isStyle : name = "style" := (Piece.attribute.inj same).1
  have quiet : Html.isEventHandler "style" = false := by decide
  rw [isStyle] at handler
  simp [Html.isEventHandler_of_names handler] at quiet

/-- Whatever the name and the value of a property are and whether or not the element is a custom
one, what is written for the property is nothing or a whole attribute that is no event handler of
an element from the standard.
-/
theorem attributes_whole (name : String) (value : Value) (custom : Bool)
    : (∀ written, ofProp? name value custom = .ok written → WrittenWhole custom (appended written))
      ∧ (name ∈ ["key", "ref", "children", "dangerouslySetInnerHTML"]
        → ofProp? name value custom = .ok none)
      ∧ WrittenWhole custom (appended (ofProperty? name value custom)) := by
  refine ⟨?_, ?_, whole_ofProperty? name value custom⟩
  · intro written isWritten
    simp only [ofProp?] at isWritten
    split at isWritten
    next =>
        obtain rfl := Except.ok.inj isWritten
        exact .nothing
    split at isWritten
    next => exact whole_ofStyle? isWritten
    next =>
        obtain rfl := Except.ok.inj isWritten
        exact whole_ofProperty? name value custom
  · intro listed
    have own : isContentOrIdentity name = true := List.contains_iff_mem.mpr listed
    simp only [ofProp?, own, if_true]

/-- Text that would end an attribute, its tag and a handler is written inside of the quotes. -/
theorem attributes_whole_title
    : let value := Value.string "\"><b onclick='&"
      ofProp? "title" value false
          = .ok (some (.attribute "title" "&quot;&gt;&lt;b onclick=&#x27;&amp;"))
        ∧ WrittenWhole false
            (appended (some (.attribute "title" "&quot;&gt;&lt;b onclick=&#x27;&amp;"))) := by
  intro value
  have written
      : ofProp? "title" value false
        = .ok (some (.attribute "title" "&quot;&gt;&lt;b onclick=&#x27;&amp;")) := by
    decide +kernel
  exact ⟨written, (attributes_whole "title" value false).1 _ written⟩

/-- An attribute may be written under a name with a blank character in it. -/
theorem attribute_with_blank
    : ¬ ∀ (name : String) (value : Value) (custom : Bool) (written body : String),
          ofProp? name value custom = .ok (some (.attribute written body))
          → ∀ c ∈ written.toList, Text.isBlank c = false := by
  intro never
  have written
      : ofProp? "a\u1680b" (.string "1") false = .ok (some (.attribute "a\u1680b" "1")) := by
    decide +kernel
  have notBlank := never _ _ _ _ _ written '\u1680' (by decide)
  simp [Text.isBlank] at notBlank

end WrittenAttribute

end TaggedMarkup
