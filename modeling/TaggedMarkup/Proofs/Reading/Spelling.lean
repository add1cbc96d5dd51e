import TaggedMarkup.Proofs.Reading.Grammar
import TaggedMarkup.Proofs.Reading.Locations
import TaggedMarkup.Proofs.Reading.Printing

/-! What attribute names and values without quotes may be spelled with. A scan is followed from
mode to mode, so that what every mode holds of a name and of a value is known, and what stands
behind them in the fragment that is being read. A character that may not go on with a name or with
a value fails the whole scan where it stands.
-/

namespace TaggedMarkup

-----------------------------------------------------------------------------------------
-- Spellings
-----------------------------------------------------------------------------------------

/-- Nothing but characters that separate attributes. -/
def Scanner.Blank (gap : String) : Prop :=
  ∀ c ∈ gap.toList, isSpace c = true

namespace Location

/-- At the location stand a name, an equals sign and something behind it, with spaces at most
between them.
-/
def Assigns (fragments : List String) (location : Location) (name spelling : String) : Prop :=
  ∃ gap wide,
    Scanner.Blank gap
    ∧ Scanner.Blank wide
    ∧ location.Stands fragments (name ++ gap ++ "=" ++ wide ++ spelling)

/-- Behind the equals sign of the attribute at the location stands a quote. -/
def Quoted (fragments : List String) (location : Location) (name : String) : Prop :=
  ∃ quote ∈ ['"', '\''], location.Assigns fragments name (String.singleton quote)

end Location

/-- The characters that a value without quotes may begin with. -/
def Scanner.BareStart (c : Char) : Prop :=
  isSpace c = false ∧ c ∉ ['>', '"', '\'']

/-- The characters that a value without quotes may go on with. -/
def Scanner.BarePart (c : Char) : Prop :=
  isSpace c = false ∧ c ∉ ['>', '"', '\'', '<', '=', '\x60']

/-- A text that may be written without quotes. -/
def Scanner.BareValue (text : String) : Prop :=
  ∃ first rest, text.toList = first :: rest ∧ BareStart first ∧ ∀ c ∈ rest, BarePart c

/-- The name of an attribute is legal, and a value behind which there is no quote is one that may
be written so and stands behind the name.
-/
def Token.Spelled (fragments : List String) : Token → Prop
  | .attribute name value location =>
      Canonical.Attribute.LegalName name
      ∧ ∀ text,
          value = .literal text
          → ¬location.Quoted fragments name
          → location.Assigns fragments name text ∧ Scanner.BareValue text
  | _ => True

/-- What stands somewhere begins there as well. -/
theorem Location.Assigns.begins {fragments : List String} {location : Location}
    {name spelling more : String}
    (assigns : location.Assigns fragments name (spelling ++ more))
    : location.Assigns fragments name spelling := by
  obtain ⟨gap, wide, blank, blank', before, after, splits, isOffset⟩ := assigns
  refine ⟨gap, wide, blank, blank', before, more ++ after, ?_, isOffset⟩
  simpa only [String.append_assoc] using splits

/-- A legal name goes on with every character that does not end it and is no quote. -/
theorem Canonical.Attribute.LegalName.push {name : String} (legal : LegalName name) {c : Char}
    (apart : Scanner.isSpace c = false ∧ c ∉ ['=', '/', '>', '"', '\'', '<'])
    : LegalName (name.push c) := by
  obtain ⟨some, notDot, plain⟩ := legal
  refine ⟨Scanner.push_ne_empty name c, ?_, ?_⟩
  · rw [String.toList_push]
    cases isName : name.toList with
    | nil => exact absurd (String.toList_eq_nil_iff.mp isName) some
    | cons first others => simpa [isName] using notDot
  · intro other member
    rw [String.toList_push] at member
    rcases List.mem_append.mp member with early | last
    · exact plain other early
    · exact List.mem_singleton.mp last ▸ apart

namespace Scanner

-----------------------------------------------------------------------------------------
-- The way of a scan
-----------------------------------------------------------------------------------------

variable {fragments : List String} {fragment : Nat} {read : String} {c : Char}
  {rest : List Char} {mode : Mode} {token : Token}

theorem drop_eq {text : String} (isHere : fragments[fragment]? = some text)
    : fragments.drop fragment = text :: fragments.drop (fragment + 1) := by
  obtain ⟨inside, rfl⟩ := List.getElem?_eq_some_iff.mp isHere
  exact List.drop_eq_getElem_cons inside

/-- What a scan has come to decides about its end, by induction on its way. -/
theorem Comes.result_eq (comes : Comes fragments fragment read rest mode)
    : (Token.scan fragments).result
      = (Canonical.resume mode ⟨fragment, read.utf8ByteSize⟩ rest
          (fragments.drop (fragment + 1))).result := by
  induction comes with
  | start isFirst =>
      have all := drop_eq isFirst
      rw [List.drop_zero] at all
      rw [Token.scan, all, Canonical.scanFragments_eq]
      rfl
  | char _ stepped ih =>
      rw [ih, Canonical.resume_cons stepped, Canonical.Glyph.past, String.utf8ByteSize_push]
  | slot _ crossed isNext ih =>
      rw [ih, drop_eq isNext, Canonical.resume_nil crossed]
      rfl

/-- A character that a scan comes to and that is refused fails it. -/
theorem Comes.fails {error : Error} (comes : Comes fragments fragment read (c :: rest) mode)
    (refused : step mode ⟨fragment, read.utf8ByteSize⟩ c rest = .error error)
    : (Token.scan fragments).result = .error error := by
  rw [comes.result_eq]
  simp only [Canonical.resume, scanChars, refused]

/-- What a scan comes to when it reads some more characters of a fragment. -/
def advance? (fragment : Nat) (read : String) (mode : Mode)
    : List Char → Nat → Option (String × List Char × Mode)
  | rest, 0 => some (read, rest, mode)
  | [], _ + 1 => none
  | c :: rest, count + 1 =>
      match step mode ⟨fragment, read.utf8ByteSize⟩ c rest with
      | .ok (_, next) => advance? fragment (read.push c) next rest count
      | .error _ => none

/-- Reading more characters is a part of the way, by induction on their number. -/
theorem Comes.advance (comes : Comes fragments fragment read rest mode) {count : Nat}
    {read' : String} {rest' : List Char} {mode' : Mode}
    (advances : advance? fragment read mode rest count = some (read', rest', mode'))
    : Comes fragments fragment read' rest' mode' := by
  induction count generalizing read rest mode with
  | zero =>
      simp only [advance?, Option.some.injEq, Prod.mk.injEq] at advances
      obtain ⟨rfl, rfl, rfl⟩ := advances
      exact comes
  | succ count ih =>
      cases rest with
      | nil => cases advances
      | cons c rest =>
          simp only [advance?] at advances
          split at advances
          next tokens next stepped => exact ih (comes.char stepped) advances
          next => cases advances

-----------------------------------------------------------------------------------------
-- What a mode holds
-----------------------------------------------------------------------------------------

/-- Some text has been read last in the present fragment, and the location is where it began. -/
def EndsIn (fragment : Nat) (read : String) (start : Location) (written : String) : Prop :=
  ∃ before, read = before ++ written ∧ start = ⟨fragment, before.utf8ByteSize⟩

/-- The name of an attribute, an equals sign and a part of the value have been read last, with
spaces at most between them.
-/
def Assigning (fragment : Nat) (read : String) (start : Location) (name spelling : String)
    : Prop :=
  ∃ gap wide,
    Blank gap
    ∧ Blank wide
    ∧ EndsIn fragment read start (name ++ gap ++ "=" ++ wide ++ spelling)

/-- What a mode holds of the attribute that is being read is legal, and has been read last. -/
def Mode.Spelled (fragment : Nat) (read : String) : Mode → Prop
  | .attributeName start name =>
      Canonical.Attribute.LegalName name ∧ EndsIn fragment read start name
  | .afterAttributeName start name =>
      Canonical.Attribute.LegalName name
      ∧ ∃ gap, Blank gap ∧ EndsIn fragment read start (name ++ gap)
  | .beforeValue start name =>
      Canonical.Attribute.LegalName name ∧ Assigning fragment read start name ""
  | .quotedValue quote start name value =>
      Canonical.Attribute.LegalName name
      ∧ quote ∈ ['"', '\'']
      ∧ Assigning fragment read start name (String.singleton quote ++ value)
  | .unquotedValue start name value =>
      Canonical.Attribute.LegalName name
      ∧ BareValue value
      ∧ Assigning fragment read start name value
  | _ => True

/-- The tokens and the mode of an outcome are spelled as they should be. -/
def Outcome.Spelled (fragments : List String) (fragment : Nat) (read : String) : Outcome → Prop
  | .ok (tokens, next) =>
      (∀ token ∈ tokens, token.Spelled fragments) ∧ next.Spelled fragment read
  | .error _ => True

section Parts

variable {start : Location} {name spelling written value : String}

theorem Blank.push {gap : String} (blank : Blank gap) (isBlank : isSpace c = true)
    : Blank (gap.push c) := by
  intro other member
  rw [String.toList_push] at member
  rcases List.mem_append.mp member with early | last
  · exact blank other early
  · exact List.mem_singleton.mp last ▸ isBlank

theorem EndsIn.push (ends : EndsIn fragment read start written) (c : Char)
    : EndsIn fragment (read.push c) start (written.push c) := by
  obtain ⟨before, rfl, rfl⟩ := ends
  exact ⟨before, push_append .., rfl⟩

theorem EndsIn.stands (ends : EndsIn fragment read start written)
    (holds : Holds fragments fragment read rest)
    : start.Stands fragments written := by
  obtain ⟨before, isRead, rfl⟩ := ends
  exact holds.stands isRead

/-- More of a value is read. -/
theorem Assigning.push (assigning : Assigning fragment read start name spelling) (c : Char)
    : Assigning fragment (read.push c) start name (spelling.push c) := by
  obtain ⟨gap, wide, blank, blank', ends⟩ := assigning
  exact ⟨gap, wide, blank, blank', by simpa only [push_append] using ends.push c⟩

/-- A space is read before a value. -/
theorem Assigning.space (assigning : Assigning fragment read start name "")
    (isBlank : isSpace c = true)
    : Assigning fragment (read.push c) start name "" := by
  obtain ⟨gap, wide, blank, blank', ends⟩ := assigning
  refine ⟨gap, wide.push c, blank, blank'.push isBlank, ?_⟩
  simpa only [push_append, String.append_empty] using ends.push c

/-- The equals sign is read. -/
theorem EndsIn.assigning {gap : String} (ends : EndsIn fragment read start (name ++ gap))
    (blank : Blank gap)
    : Assigning fragment (read.push '=') start name "" := by
  refine ⟨gap, "", blank, by simp [Blank], ?_⟩
  rw [String.append_empty, String.append_empty]
  exact ends.push '='

theorem Assigning.assigns (assigning : Assigning fragment read start name spelling)
    (holds : Holds fragments fragment read rest)
    : start.Assigns fragments name spelling := by
  obtain ⟨gap, wide, blank, blank', ends⟩ := assigning
  exact ⟨gap, wide, blank, blank', ends.stands holds⟩

theorem BareValue.push (bare : BareValue value) (isPart : BarePart c)
    : BareValue (value.push c) := by
  obtain ⟨first, others, isValue, starts, parts⟩ := bare
  refine ⟨first, others ++ [c], by rw [String.toList_push, isValue]; rfl, starts, ?_⟩
  intro other member
  rcases List.mem_append.mp member with early | last
  · exact parts other early
  · exact List.mem_singleton.mp last ▸ isPart

end Parts

namespace Outcome.Spelled

variable {tokens : List Token}

theorem quiet {next : Mode} (spelled : next.Spelled fragment read)
    : Outcome.Spelled fragments fragment read (.ok ([], next)) :=
  ⟨by simp, spelled⟩

theorem endTag (before : ∀ token ∈ tokens, token.Spelled fragments) (selfClosing : Bool)
    (here : Location) (c : Char)
    : Outcome.Spelled fragments fragment read (endTag tokens selfClosing here c) :=
  ⟨List.forall_mem_append.mpr ⟨before, List.forall_mem_singleton.mpr trivial⟩, trivial⟩

theorem stepBeforeAttribute (before : ∀ token ∈ tokens, token.Spelled fragments)
    : Outcome.Spelled fragments fragment (read.push c)
        (stepBeforeAttribute tokens ⟨fragment, read.utf8ByteSize⟩ c) := by
  simp only [Scanner.stepBeforeAttribute]
  split
  · exact ⟨before, trivial⟩
  next notSpace =>
      split
      · exact endTag before false _ _
      · exact ⟨before, trivial⟩
      · trivial
      · exact ⟨before, trivial⟩
      · trivial
      · trivial
      · trivial
      next notEnd notSlash notEquals notDot notDouble notSingle notLess =>
          have legal : Canonical.Attribute.LegalName (String.singleton c) := by
            refine ⟨by simp [← String.toList_inj], ?_, ?_⟩
            · simpa using notDot
            · simpa [notSpace] using
                ⟨notEquals, notSlash, notEnd, notDouble, notSingle, notLess⟩
          exact ⟨before, legal, read, String.push_eq_append _, rfl⟩

end Outcome.Spelled

theorem spelled_textTokens {run : String} {location : Location}
    : ∀ token ∈ textTokens run location, token.Spelled fragments := by
  intro token member
  simp only [textTokens] at member
  split at member
  · cases member
  · obtain rfl := List.mem_singleton.mp member
    trivial

/-- One character keeps what is being read spelled as it should be. -/
theorem spelled_step (holds : Holds fragments fragment read (c :: rest))
    (spelled : mode.Spelled fragment read)
    : Outcome.Spelled fragments fragment (read.push c)
        (step mode ⟨fragment, read.utf8ByteSize⟩ c rest) := by
  have bare {name : String} {start : Location} (legal : Canonical.Attribute.LegalName name)
      : ∀ token ∈ [Token.attribute name .bare start], token.Spelled fragments :=
    List.forall_mem_singleton.mpr ⟨legal, by simp⟩
  cases mode with
  | text run offset =>
      simp only [step]
      split
      · exact ⟨spelled_textTokens, trivial⟩
      · exact .quiet trivial
  | tagStart start =>
      have opens
          : ∀ token ∈ [Token.openTag fragmentName start], token.Spelled fragments :=
        List.forall_mem_singleton.mpr trivial
      simp only [step]
      split
      · exact .quiet trivial
      split
      · exact .endTag opens false _ _
      split
      · split
        · exact .quiet trivial
        · trivial
      split
      · exact .quiet trivial
      · trivial
  | tagName start name =>
      simp only [step]
      split
      · exact .stepBeforeAttribute (List.forall_mem_singleton.mpr trivial)
      · exact .quiet trivial
  | selfClosing =>
      simp only [step]
      split
      · exact .endTag (by simp) true _ _
      · trivial
  | closingName start name =>
      simp only [step]
      split
      · exact ⟨List.forall_mem_singleton.mpr trivial, trivial⟩
      split
      · split <;> exact .quiet trivial
      · exact .quiet trivial
  | closingEnd start name =>
      simp only [step]
      split
      · exact ⟨List.forall_mem_singleton.mpr trivial, trivial⟩
      split
      · exact .quiet trivial
      · trivial
  | beforeAttribute => exact .stepBeforeAttribute (by simp)
  | attributeName start name =>
      obtain ⟨legal, ends⟩ := spelled
      simp only [step]
      split
      next isEquals =>
          subst isEquals
          have named : EndsIn fragment read start (name ++ "") := by
            rwa [String.append_empty]
          exact .quiet ⟨legal, named.assigning (by simp [Blank])⟩
      next notEquals =>
          split
          next isBlank =>
              refine .quiet ⟨legal, String.singleton c, by simpa [Blank] using isBlank, ?_⟩
              rw [← String.push_eq_append]
              exact ends.push c
          next notBlank =>
              split
              · exact ⟨bare legal, trivial⟩
              next notSlash =>
                  split
                  · exact .endTag (bare legal) false _ _
                  next notEnd =>
                      split
                      · trivial
                      next notQuote =>
                          refine .quiet ⟨legal.push ⟨by simpa using notBlank, ?_⟩, ends.push c⟩
                          simpa [notEquals, notSlash, notEnd] using notQuote
  | afterAttributeName start name =>
      obtain ⟨legal, gap, blank, ends⟩ := spelled
      simp only [step]
      split
      next isBlank =>
          refine .quiet ⟨legal, gap.push c, blank.push isBlank, ?_⟩
          rw [← push_append]
          exact ends.push c
      split
      next isEquals =>
          subst isEquals
          exact .quiet ⟨legal, ends.assigning blank⟩
      split
      · trivial
      · exact .stepBeforeAttribute (bare legal)
  | beforeValue start name =>
      obtain ⟨legal, assigning⟩ := spelled
      simp only [step]
      split
      next isBlank => exact .quiet ⟨legal, assigning.space isBlank⟩
      next notBlank =>
          have first : Assigning fragment (read.push c) start name (String.singleton c) :=
            assigning.push c
          split
          next isQuote =>
              exact .quiet ⟨legal, by simpa using isQuote, by rwa [String.append_empty]⟩
          next notQuote =>
              split
              · trivial
              next notEnd =>
                  refine .quiet ⟨legal, ⟨c, [], by simp, ?_, by simp⟩, first⟩
                  exact ⟨by simpa using notBlank, by simpa [notEnd] using notQuote⟩
  | quotedValue quote start name value =>
      obtain ⟨legal, isQuote, assigning⟩ := spelled
      simp only [step]
      split
      next =>
          have quoted : start.Quoted fragments name :=
            ⟨quote, isQuote, (assigning.assigns holds).begins⟩
          refine ⟨List.forall_mem_singleton.mpr ⟨legal, fun _ _ notQuoted => ?_⟩, trivial⟩
          exact absurd quoted notQuoted
      next =>
          refine .quiet ⟨legal, isQuote, ?_⟩
          rw [← push_append]
          exact assigning.push c
  | unquotedValue start name value =>
      obtain ⟨legal, isBare, assigning⟩ := spelled
      have written
          : ∀ token ∈ [Token.attribute name (.literal value) start], token.Spelled fragments := by
        refine List.forall_mem_singleton.mpr ⟨legal, fun text same _ => ?_⟩
        obtain rfl := AttributeValue.literal.inj same
        exact ⟨assigning.assigns holds, isBare⟩
      simp only [step]
      split
      · exact ⟨written, trivial⟩
      next notBlank =>
          split
          · exact .endTag written false _ _
          next notEnd =>
              split
              · exact ⟨written, trivial⟩
              split
              · trivial
              next notRefused =>
                  refine .quiet ⟨legal, isBare.push ⟨by simpa using notBlank, ?_⟩, assigning.push c⟩
                  simpa [notEnd] using notRefused
  | afterValue =>
      simp only [step]
      split
      · exact .quiet trivial
      split
      · exact .endTag (by simp) false _ _
      split
      · exact .quiet trivial
      · trivial
  | spread start dots =>
      simp only [step]
      split
      · exact .quiet trivial
      · trivial
  | commentStart remaining =>
      simp only [step]
      split <;> exact .quiet trivial
  | comment hyphens =>
      simp only [step]
      split
      · exact .quiet trivial
      split
      · exact ⟨by simp, trivial⟩
      · exact .quiet trivial

/-- The end of a fragment keeps what is being read spelled as it should be. No attribute is read
beyond it.
-/
theorem spelled_boundary (spelled : mode.Spelled fragment read)
    : Outcome.Spelled fragments (fragment + 1) ""
        (boundary mode fragment read.utf8ByteSize fragment) := by
  cases mode with
  | text run start =>
      exact ⟨List.forall_mem_append.mpr
        ⟨spelled_textTokens, List.forall_mem_singleton.mpr trivial⟩, trivial⟩
  | beforeValue start name =>
      exact ⟨List.forall_mem_singleton.mpr ⟨spelled.1, by simp⟩, trivial⟩
  | spread start dots =>
      simp only [boundary]
      split
      · exact ⟨List.forall_mem_singleton.mpr trivial, trivial⟩
      · trivial
  | beforeAttribute | commentStart | comment =>
      exact ⟨List.forall_mem_singleton.mpr trivial, trivial⟩
  | afterAttributeName start name =>
      refine ⟨?_, trivial⟩
      intro token member
      rcases List.mem_cons.mp member with rfl | last
      · exact ⟨spelled.1, by simp⟩
      · obtain rfl := List.mem_singleton.mp last
        trivial
  | quotedValue | unquotedValue | tagStart | tagName | closingName | closingEnd | attributeName
  | afterValue | selfClosing =>
      trivial

/-- What every mode holds that a scan comes to is spelled as it should be, by induction on the way
of the scan.
-/
theorem Comes.spelled (comes : Comes fragments fragment read rest mode)
    : mode.Spelled fragment read := by
  induction comes with
  | start => trivial
  | char comes stepped ih =>
      have outcome := spelled_step comes.holds ih
      rw [stepped] at outcome
      exact outcome.2
  | slot comes crossed _ ih =>
      have outcome := @spelled_boundary fragments _ _ _ ih
      rw [crossed] at outcome
      exact outcome.2

theorem Emits.spelled (emits : Emits fragments token) : token.Spelled fragments := by
  cases emits with
  | char comes stepped member =>
      have outcome := spelled_step comes.holds comes.spelled
      rw [stepped] at outcome
      exact outcome.1 token member
  | slot comes crossed member =>
      have outcome := @spelled_boundary fragments _ _ _ comes.spelled
      rw [crossed] at outcome
      exact outcome.1 token member
  | @last fragment read mode tokens comes finished member =>
      cases mode with
      | text run start =>
          obtain rfl := Except.ok.inj finished
          exact spelled_textTokens token member
      | _ => cases finished

-----------------------------------------------------------------------------------------
-- Characters that are refused
-----------------------------------------------------------------------------------------

/-- The characters that are refused where a name or a value without quotes begins, goes on or has
ended, and what is reported of them. A point that begins a name begins a spread.
-/
inductive Refused (here : Location) : Mode → Char → Error → Prop
  | noName : Refused here .beforeAttribute '=' (.missingAttributeName here)
  | beforeName {c : Char} (isRefused : c ∈ ['"', '\'', '<'])
    : Refused here .beforeAttribute c (.unexpectedCharacter c .beforeAttributeName here)
  | spread {start : Location} {dots : Nat} {c : Char} (notNext : c ≠ '.' ∨ 3 ≤ dots)
    : Refused here (.spread start dots) c (.unexpectedCharacter c .spread here)
  | inName {start : Location} {name : String} {c : Char} (isRefused : c ∈ ['"', '\'', '<'])
    : Refused here (.attributeName start name) c (.unexpectedCharacter c .attributeName here)
  | afterName {start : Location} {name : String} {c : Char} (isRefused : c ∈ ['"', '\'', '<'])
    : Refused here (.afterAttributeName start name) c
        (.unexpectedCharacter c .afterAttributeName here)
  | noValue {start : Location} {name : String}
    : Refused here (.beforeValue start name) '>' (.missingAttributeValue name start)
  | inValue {start : Location} {name value : String} {c : Char}
    (isRefused : c ∈ ['"', '\'', '<', '=', '\x60'])
    : Refused here (.unquotedValue start name value) c
        (.unexpectedCharacter c .unquotedValue here)

theorem Refused.step {here : Location} {error : Error} (refused : Refused here mode c error)
    (rest : List Char)
    : step mode here c rest = .error error := by
  cases refused with
  | noName | noValue => rfl
  | beforeName isRefused | inName isRefused | afterName isRefused | inValue isRefused =>
      simp only [List.mem_cons, List.not_mem_nil, or_false] at isRefused
      rcases isRefused with rfl | rfl | rfl | rfl | rfl <;> rfl
  | @spread start dots _ notNext =>
      have apart : ¬(c = '.' ∧ dots < 3) := fun ⟨isDot, few⟩ =>
        notNext.elim (absurd isDot) (Nat.not_le_of_lt few)
      simp only [Scanner.step, if_neg apart]

/-- A value without quotes has none of the refused characters exactly if it does not begin with
one.
-/
theorem BareValue.parts_iff {text : String} (bare : BareValue text)
    : (∀ c ∈ text.toList, BarePart c)
      ↔ ∀ first, text.toList.head? = some first → first ∉ ['<', '=', '\x60'] := by
  obtain ⟨first, rest, isText, ⟨notSpace, starts⟩, parts⟩ := bare
  rw [isText]
  constructor
  · rintro all first' isFirst
    obtain rfl := Option.some.inj isFirst
    have apart := (all first (List.mem_cons_self ..)).2
    simp only [List.mem_cons, List.not_mem_nil, or_false, not_or] at apart ⊢
    exact apart.2.2.2
  · intro apart c member
    rcases List.mem_cons.mp member with rfl | later
    · have notFirst := apart c rfl
      refine ⟨notSpace, ?_⟩
      simp only [List.mem_cons, List.not_mem_nil, or_false, not_or] at starts notFirst ⊢
      exact ⟨starts.1, starts.2.1, starts.2.2, notFirst⟩
    · exact parts c later

end Scanner

/-- All attributes of a template have legal names, whether scanning it succeeds or fails. A literal
value behind which there is no quote stands behind the name, is not empty, and has no character
that ends it or is refused, but for a refused one in the first place. A refused character that the
scan comes to fails it.
-/
theorem Token.scan_spelled (fragments : List String)
    : (∀ name value location,
        .attribute name value location ∈ (scan fragments).tokens
        → Canonical.Attribute.LegalName name
          ∧ ∀ text,
            value = .literal text
            → ¬location.Quoted fragments name
            → location.Assigns fragments name text
              ∧ Scanner.BareValue text
              ∧ ((∀ c ∈ text.toList, Scanner.BarePart c)
                ↔ ∀ first, text.toList.head? = some first → first ∉ ['<', '=', '\x60']))
      ∧ ∀ fragment read c rest mode error,
          Scanner.Comes fragments fragment read (c :: rest) mode
          → Scanner.Refused ⟨fragment, read.utf8ByteSize⟩ mode c error
          → (scan fragments).result = .error error := by
  constructor
  · intro name value location member
    obtain ⟨legal, bare⟩ := ((scan_onWay fragments).tokens _ member).spelled
    refine ⟨legal, fun text isLiteral notQuoted => ?_⟩
    obtain ⟨assigns, isBare⟩ := bare text isLiteral notQuoted
    exact ⟨assigns, isBare, isBare.parts_iff⟩
  · intro fragment read c rest mode error comes refused
    exact comes.fails (refused.step rest)

/-- Without a quote in its fragment no attribute is quoted. -/
theorem Location.not_quoted {fragments : List String} {location : Location} {text name : String}
    (isHere : fragments[location.fragment]? = some text)
    (plain : ∀ quote ∈ ['"', '\''], quote ∉ text.toList)
    : ¬location.Quoted fragments name := by
  rintro ⟨quote, isQuote, gap, wide, -, -, before, after, splits, -⟩
  have same := Option.some.inj (isHere.symm.trans splits)
  apply plain quote isQuote
  simp [same]

/-- An attribute before the one whose value goes on with an equals sign, which fails the scan. -/
theorem Token.scan_spelled_second
    : let fragments := ["<a b=c/d e=f=g>"]
      .attribute "b" (.literal "c/d") ⟨0, 3⟩ ∈ (scan fragments).tokens
      ∧ Canonical.Attribute.LegalName "b"
      ∧ ¬Location.Quoted fragments ⟨0, 3⟩ "b"
      ∧ (∀ c ∈ "c/d".toList, Scanner.BarePart c)
      ∧ (scan fragments).result = .error (.unexpectedCharacter '=' .unquotedValue ⟨0, 12⟩) := by
  intro fragments
  obtain ⟨spelled, fails⟩ := scan_spelled fragments
  have member : .attribute "b" (.literal "c/d") ⟨0, 3⟩ ∈ (scan fragments).tokens := by
    decide +kernel
  have notQuoted : ¬Location.Quoted fragments ⟨0, 3⟩ "b" :=
    Location.not_quoted rfl (by simp)
  obtain ⟨legal, bare⟩ := spelled _ _ _ member
  obtain ⟨-, -, parts⟩ := bare _ rfl notQuoted
  have comes
      : Scanner.Comes fragments 0 "<a b=c/d e=f" ['=', 'g', '>']
          (.unquotedValue ⟨0, 9⟩ "e" "f") :=
    (Scanner.Comes.start rfl).advance
      (by decide +kernel
        : Scanner.advance? 0 "" .initial "<a b=c/d e=f=g>".toList 12
            = some ("<a b=c/d e=f", ['=', 'g', '>'], .unquotedValue ⟨0, 9⟩ "e" "f"))
  have failed := fails _ _ _ _ _ _ comes (.inValue (by simp))
  exact ⟨member, legal, notQuoted, parts.mpr (by simp), failed⟩

/-- A value without quotes that begins with an equals sign is not refused. -/
theorem Token.scan_equals_first
    : let fragments := ["<a b==c></a>"]
      (scan fragments).result = .ok ()
      ∧ .attribute "b" (.literal "=c") ⟨0, 3⟩ ∈ (scan fragments).tokens
      ∧ ¬Location.Quoted fragments ⟨0, 3⟩ "b"
      ∧ ¬∀ c ∈ "=c".toList, Scanner.BarePart c := by
  refine ⟨by decide +kernel, by decide +kernel, Location.not_quoted rfl (by simp), ?_⟩
  intro parts
  exact absurd (parts '=' (by decide)).2 (by decide)

end TaggedMarkup
