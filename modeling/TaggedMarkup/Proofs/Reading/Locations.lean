import TaggedMarkup.Proofs.Reading.Nesting
import TaggedMarkup.Proofs.Reading.Way

/-! Every location that is reported while a template is read splits a fragment between two
characters, and what it is the location of stands there.
-/

namespace TaggedMarkup

-----------------------------------------------------------------------------------------
-- Locations in fragments
-----------------------------------------------------------------------------------------

namespace Location

/-- The location splits its fragment into what stands before it and what stands behind it. -/
def Splits (fragments : List String) (location : Location) (before after : String) : Prop :=
  fragments[location.fragment]? = some (before ++ after)
  ∧ location.offset = before.utf8ByteSize

/-- A text stands at the location. -/
def Stands (fragments : List String) (location : Location) (written : String) : Prop :=
  ∃ before after, location.Splits fragments before (written ++ after)

/-- The location is the end of its fragment. -/
def AtEnd (fragments : List String) (location : Location) : Prop :=
  ∃ before, location.Splits fragments before ""

/-- At the location stands the last `...` of its fragment. -/
def AtDots (fragments : List String) (location : Location) : Prop :=
  ∃ before, location.Splits fragments before "..."

/-- The location names a fragment and is between two characters of it, or at one of its ends. -/
def Within (fragments : List String) (location : Location) : Prop :=
  ∃ text,
    fragments[location.fragment]? = some text
    ∧ String.Pos.Raw.IsValid text ⟨location.offset⟩

variable {fragments : List String} {location : Location} {before after written : String}

theorem Splits.within (splits : location.Splits fragments before after)
    : location.Within fragments := by
  refine ⟨_, splits.1, String.Pos.Raw.isValid_iff_exists_append.mpr ⟨before, after, rfl, ?_⟩⟩
  rw [splits.2]
  rfl

theorem Stands.within (stands : location.Stands fragments written) : location.Within fragments :=
  have ⟨_, _, splits⟩ := stands
  splits.within

theorem AtEnd.within (atEnd : location.AtEnd fragments) : location.Within fragments :=
  have ⟨_, splits⟩ := atEnd
  splits.within

theorem AtDots.within (atDots : location.AtDots fragments) : location.Within fragments :=
  have ⟨_, splits⟩ := atDots
  splits.within

end Location

/-- What a token says of its place is true. -/
def Token.Located (fragments : List String) : Token → Prop
  | .text raw location => location.Stands fragments raw
  | .openTag _ location => location.Stands fragments "<"
  | .closeTag _ location => location.Stands fragments "</"
  | .attribute name _ location => location.Stands fragments name
  | .spread slot location => location.fragment = slot ∧ location.AtDots fragments
  | .dynamicName slot location | .child slot location =>
      location.fragment = slot ∧ location.AtEnd fragments
  | .openEnd _ | .ignored _ => True

/-- It is a failure to read a template, and what it says of its place is true. -/
def Error.Located (fragments : List String) : Error → Prop
  | .mismatchedClosingTag _ _ location | .unexpectedClosingTag _ location =>
      location.Stands fragments "</"
  | .unclosedTag _ location => location.Stands fragments "<"
  | .misplacedInterpolation _ location => location.AtEnd fragments
  | .missingAttributeName location => location.Stands fragments "="
  | .missingAttributeValue name location => location.Stands fragments name
  | .unexpectedCharacter found _ location => location.Stands fragments (String.singleton found)
  | .unexpectedEnd _ => True
  | _ => False

def Attribute.Located (fragments : List String) : Attribute → Prop
  | .named name _ location => location.Stands fragments name
  | .spread slot location => location.fragment = slot ∧ location.AtDots fragments
  | .dynamicName slot location => location.fragment = slot ∧ location.AtEnd fragments

/-- What a node says of the places of its tags and of its attributes is true. -/
structure Node.Located (fragments : List String) (node : Node) : Prop where
  opened : node.opened.Stands fragments "<"
  closed : ∀ location, node.closed = some location → location.Stands fragments "</"
  attributes : ∀ written ∈ node.attributes, written.Located fragments

/-- Where a token says that it stands. -/
def Token.location? : Token → Option Location
  | .text _ location | .openTag _ location | .closeTag _ location | .attribute _ _ location
  | .spread _ location | .dynamicName _ location | .child _ location =>
      some location
  | .openEnd _ | .ignored _ => none

/-- The places of the tags and of the attributes of a node. -/
def Node.locations (node : Node) : List Location :=
  node.opened :: node.closed.toList ++ node.attributes.map Attribute.location

section Within

variable {fragments : List String} {location : Location}

theorem Token.Located.within {token : Token} (located : token.Located fragments)
    (isHere : token.location? = some location)
    : location.Within fragments := by
  cases token with
  | text | openTag | closeTag | «attribute» =>
      exact Option.some.inj isHere ▸ Location.Stands.within located
  | spread | dynamicName | child => exact Option.some.inj isHere ▸ located.2.within
  | openEnd | ignored => cases isHere

theorem Error.Located.within {error : Error} (located : error.Located fragments)
    (isHere : error.location? = some location)
    : location.Within fragments := by
  cases error with
  | mismatchedClosingTag | unexpectedClosingTag | unclosedTag | missingAttributeName
  | missingAttributeValue | unexpectedCharacter =>
      exact Option.some.inj isHere ▸ Location.Stands.within located
  | misplacedInterpolation => exact Option.some.inj isHere ▸ Location.AtEnd.within located
  | _ => cases isHere

theorem Attribute.Located.within {written : Attribute} (located : written.Located fragments)
    : written.location.Within fragments := by
  cases written with
  | named => exact Location.Stands.within located
  | spread | dynamicName => exact located.2.within

theorem Node.Located.within {node : Node} (located : node.Located fragments)
    (member : location ∈ node.locations)
    : location.Within fragments := by
  simp only [Node.locations, List.cons_append, List.mem_cons, List.mem_append, Option.mem_toList,
    List.mem_map] at member
  rcases member with rfl | isClosed | ⟨written, isWritten, rfl⟩
  · exact located.opened.within
  · exact (located.closed location isClosed).within
  · exact (located.attributes written isWritten).within

end Within

-----------------------------------------------------------------------------------------
-- Steps
-----------------------------------------------------------------------------------------

namespace Scanner

/-- What a mode says of the places where the things that are being read began. In the present
fragment some text has been read.
-/
def Mode.Located (fragments : List String) (fragment : Nat) (read : String) : Mode → Prop
  | .text run offset => ∃ before, read = before ++ run ∧ offset = before.utf8ByteSize
  | .tagStart start =>
      ∃ before, read = before ++ "<" ∧ start = ⟨fragment, before.utf8ByteSize⟩
  | .tagName start _ => start.Stands fragments "<"
  | .closingName start _ | .closingEnd start _ => start.Stands fragments "</"
  | .attributeName start name =>
      ∃ before, read = before ++ name ∧ start = ⟨fragment, before.utf8ByteSize⟩
  | .afterAttributeName start name | .beforeValue start name | .quotedValue _ start name _
  | .unquotedValue start name _ =>
      start.Stands fragments name
  | .spread start dots =>
      ∃ before,
        read = before ++ String.ofList (List.replicate dots '.')
        ∧ start = ⟨fragment, before.utf8ByteSize⟩
  | .selfClosing | .beforeAttribute | .afterValue | .commentStart _ | .comment _ => True

/-- The tokens and the mode of an outcome, or its failure, say the truth of their places. -/
def Outcome.Located (fragments : List String) (fragment : Nat) (read : String) (outcome : Outcome)
    : Prop :=
  match outcome with
  | .ok (tokens, next) =>
      (∀ token ∈ tokens, token.Located fragments) ∧ next.Located fragments fragment read
  | .error error => error.Located fragments

variable {fragments : List String} {fragment : Nat} {read : String} {c : Char}
  {rest : List Char} {mode : Mode}

/-- What has been read last stands where it began. -/
theorem Holds.stands {before written : String} (holds : Holds fragments fragment read rest)
    (isRead : read = before ++ written)
    : Location.Stands fragments ⟨fragment, before.utf8ByteSize⟩ written := by
  subst isRead
  refine ⟨before, String.ofList rest, ?_, rfl⟩
  rw [← String.append_assoc]
  exact holds

theorem Holds.stands_next (holds : Holds fragments fragment read (c :: rest))
    : Location.Stands fragments ⟨fragment, read.utf8ByteSize⟩ (String.singleton c) :=
  holds.push.stands (String.push_eq_append c)

/-- The end of a fragment that has been read is located. -/
theorem Holds.atEnd (holds : Holds fragments fragment read [])
    : Location.AtEnd fragments ⟨fragment, read.utf8ByteSize⟩ :=
  ⟨read, holds, rfl⟩

theorem located_textTokens {run : String} {offset : Nat}
    (holds : Holds fragments fragment read rest)
    (reading : Mode.Located fragments fragment read (.text run offset))
    : ∀ token ∈ textTokens run ⟨fragment, offset⟩, token.Located fragments := by
  obtain ⟨before, isRead, rfl⟩ := reading
  intro token member
  simp only [textTokens] at member
  split at member
  · cases member
  · obtain rfl := List.mem_singleton.mp member
    exact holds.stands isRead

namespace Outcome.Located

variable {tokens : List Token}

theorem quiet {mode : Mode} (located : mode.Located fragments fragment read)
    : Outcome.Located fragments fragment read (.ok ([], mode)) :=
  ⟨by simp, located⟩

theorem textAfter (read : String) (c : Char)
    : (textAfter ⟨fragment, read.utf8ByteSize⟩ c).Located fragments fragment (read.push c) :=
  ⟨read.push c, String.append_empty.symm, String.utf8ByteSize_push.symm⟩

theorem endTag (before : ∀ token ∈ tokens, token.Located fragments) (selfClosing : Bool)
    : Outcome.Located fragments fragment (read.push c)
        (endTag tokens selfClosing ⟨fragment, read.utf8ByteSize⟩ c) :=
  ⟨List.forall_mem_append.mpr ⟨before, List.forall_mem_singleton.mpr trivial⟩, textAfter read c⟩

/-- A character that may not stand at a place is reported with its place. -/
theorem unexpected (holds : Holds fragments fragment read (c :: rest)) (place : CharacterPlace)
    : Outcome.Located fragments fragment (read.push c)
        (.error (.unexpectedCharacter c place ⟨fragment, read.utf8ByteSize⟩)) :=
  holds.stands_next

theorem stepBeforeAttribute (holds : Holds fragments fragment read (c :: rest))
    (before : ∀ token ∈ tokens, token.Located fragments)
    : Outcome.Located fragments fragment (read.push c)
        (stepBeforeAttribute tokens ⟨fragment, read.utf8ByteSize⟩ c) := by
  simp only [Scanner.stepBeforeAttribute]
  split
  · exact ⟨before, trivial⟩
  split
  · exact endTag before false
  · exact ⟨before, trivial⟩
  · exact holds.stands_next
  · exact ⟨before, read, String.push_eq_append _, rfl⟩
  · exact unexpected holds _
  · exact unexpected holds _
  · exact unexpected holds _
  · exact ⟨before, read, String.push_eq_append _, rfl⟩

end Outcome.Located

/-- One character keeps the places of what is being read. -/
theorem located_step (holds : Holds fragments fragment read (c :: rest)) (mode : Mode)
    (located : mode.Located fragments fragment read)
    : Outcome.Located fragments fragment (read.push c)
        (step mode ⟨fragment, read.utf8ByteSize⟩ c rest) := by
  cases mode with
  | text run offset =>
      simp only [step]
      split
      next isOpen =>
          subst isOpen
          exact ⟨located_textTokens holds located, read, String.push_eq_append _, rfl⟩
      next =>
          obtain ⟨before, rfl, rfl⟩ := located
          exact .quiet ⟨before, push_append .., rfl⟩
  | tagStart start =>
      obtain ⟨before, isRead, rfl⟩ := located
      have opens := holds.stands isRead
      simp only [step]
      split
      next isSlash =>
          subst isSlash
          exact .quiet (holds.push.stands (isRead ▸ push_append before "<" '/'))
      split
      · exact .endTag (by simpa [Token.Located] using opens) false
      split
      · split
        · exact .quiet trivial
        · exact .unexpected holds _
      split
      · exact .quiet opens
      · exact .unexpected holds _
  | tagName start name =>
      have opens : start.Stands fragments "<" := located
      simp only [step]
      split
      · exact .stepBeforeAttribute holds (by simpa [Token.Located] using opens)
      · exact .quiet located
  | selfClosing =>
      simp only [step]
      split
      · exact .endTag (by simp) true
      · exact .unexpected holds _
  | closingName start name =>
      have closes : start.Stands fragments "</" := located
      simp only [step]
      split
      · exact ⟨by simpa [Token.Located] using closes, Outcome.Located.textAfter read c⟩
      split
      · split <;> exact .quiet located
      · exact .quiet located
  | closingEnd start name =>
      have closes : start.Stands fragments "</" := located
      simp only [step]
      split
      · exact ⟨by simpa [Token.Located] using closes, Outcome.Located.textAfter read c⟩
      split
      · exact .quiet located
      · exact .unexpected holds _
  | beforeAttribute => exact .stepBeforeAttribute holds (by simp)
  | attributeName start name =>
      obtain ⟨before, isRead, rfl⟩ := located
      have named := holds.stands isRead
      simp only [step]
      split
      · exact .quiet named
      split
      · exact .quiet named
      split
      · exact ⟨by simpa [Token.Located] using named, trivial⟩
      split
      · exact .endTag (by simpa [Token.Located] using named) false
      split
      · exact .unexpected holds _
      · exact .quiet ⟨before, isRead ▸ push_append .., rfl⟩
  | afterAttributeName start name =>
      have named : start.Stands fragments name := located
      simp only [step]
      split
      · exact .quiet located
      split
      · exact .quiet located
      split
      · exact .unexpected holds _
      · exact .stepBeforeAttribute holds (by simpa [Token.Located] using named)
  | beforeValue start name =>
      simp only [step]
      split
      · exact .quiet located
      split
      · exact .quiet located
      split
      · exact located
      · exact .quiet located
  | quotedValue quote start name value =>
      have named : start.Stands fragments name := located
      simp only [step]
      split
      · exact ⟨by simpa [Token.Located] using named, trivial⟩
      · exact .quiet located
  | unquotedValue start name value =>
      have named : start.Stands fragments name := located
      have written
          : ∀ token ∈ [Token.attribute name (.literal value) start], token.Located fragments := by
        simpa [Token.Located] using named
      simp only [step]
      split
      · exact ⟨written, trivial⟩
      split
      · exact .endTag written false
      split
      · exact ⟨written, trivial⟩
      split
      · exact .unexpected holds _
      · exact .quiet located
  | afterValue =>
      simp only [step]
      split
      · exact .quiet trivial
      split
      · exact .endTag (by simp) false
      split
      · exact .quiet trivial
      · exact .unexpected holds _
  | spread start dots =>
      obtain ⟨before, rfl, rfl⟩ := located
      simp only [step]
      split
      next isDot =>
          obtain ⟨rfl, -⟩ := isDot
          refine .quiet ⟨before, ?_, rfl⟩
          rw [push_append, List.replicate_succ', String.ofList_append, String.push_eq_append,
            String.singleton_eq_ofList]
      next => exact .unexpected holds _
  | commentStart remaining =>
      simp only [step]
      split <;> exact .quiet trivial
  | comment hyphens =>
      simp only [step]
      split
      · exact .quiet trivial
      split
      · exact ⟨by simp, Outcome.Located.textAfter read c⟩
      · exact .quiet trivial

/-- The end of a fragment keeps the places of what is being read. -/
theorem located_boundary (holds : Holds fragments fragment read []) (mode : Mode)
    (located : mode.Located fragments fragment read)
    : Outcome.Located fragments (fragment + 1) ""
        (boundary mode fragment read.utf8ByteSize fragment) := by
  have atEnd := holds.atEnd
  cases mode with
  | text run start =>
      have child : (Token.child fragment ⟨fragment, read.utf8ByteSize⟩).Located fragments :=
        ⟨rfl, atEnd⟩
      have all := List.forall_mem_append.mpr
        ⟨located_textTokens holds located, List.forall_mem_singleton.mpr child⟩
      exact ⟨all, "", rfl, rfl⟩
  | beforeValue start name =>
      have named : start.Stands fragments name := located
      exact ⟨by simpa [Token.Located] using named, trivial⟩
  | spread start dots =>
      obtain ⟨before, rfl, rfl⟩ := located
      simp only [boundary]
      split
      next isWhole =>
          subst isWhole
          refine ⟨List.forall_mem_singleton.mpr ⟨rfl, before, ?_, rfl⟩, trivial⟩
          simpa [Holds] using holds
      next => exact atEnd
  | beforeAttribute => exact ⟨by simpa [Token.Located] using atEnd, trivial⟩
  | afterAttributeName start name =>
      refine ⟨?_, trivial⟩
      intro token member
      rcases List.mem_cons.mp member with rfl | last
      · exact located
      · obtain rfl := List.mem_singleton.mp last
        exact ⟨rfl, atEnd⟩
  | commentStart | comment => exact ⟨by simp [Token.Located], trivial⟩
  | quotedValue | unquotedValue | tagStart | tagName | closingName | closingEnd | attributeName
  | afterValue | selfClosing =>
      exact atEnd

-----------------------------------------------------------------------------------------
-- Whole templates
-----------------------------------------------------------------------------------------

/-- What every mode on the way of a scan says is true, by induction on the way. -/
theorem Comes.located (comes : Comes fragments fragment read rest mode)
    : mode.Located fragments fragment read := by
  induction comes with
  | start => exact ⟨"", rfl, rfl⟩
  | @char _ _ _ _ mode _ _ comes stepped ih =>
      have outcome := located_step comes.holds mode ih
      rw [stepped] at outcome
      exact outcome.2
  | @slot _ _ _ mode _ _ comes crossed _ ih =>
      have outcome := located_boundary comes.holds mode ih
      rw [crossed] at outcome
      exact outcome.2

theorem Emits.located {token : Token} (emits : Emits fragments token)
    : token.Located fragments := by
  cases emits with
  | @char _ _ _ _ mode _ _ comes stepped member =>
      have outcome := located_step comes.holds mode comes.located
      rw [stepped] at outcome
      exact outcome.1 token member
  | @slot _ _ mode _ _ comes crossed member =>
      have outcome := located_boundary comes.holds mode comes.located
      rw [crossed] at outcome
      exact outcome.1 token member
  | @last _ _ mode _ comes finished member =>
      cases mode with
      | text run start =>
          obtain rfl := Except.ok.inj finished
          exact located_textTokens comes.holds comes.located token member
      | _ => cases finished

theorem Fails.located {error : Error} (fails : Fails fragments error)
    : error.Located fragments := by
  cases fails with
  | @char _ _ _ _ mode comes failed =>
      have outcome := located_step comes.holds mode comes.located
      rw [failed] at outcome
      exact outcome
  | @slot _ _ mode comes failed =>
      have outcome := located_boundary comes.holds mode comes.located
      rw [failed] at outcome
      exact outcome
  | @last _ _ mode comes failed =>
      cases mode with
      | text => cases failed
      | _ =>
          obtain rfl := Except.error.inj failed
          trivial

/-- The tokens that were read and the failure, if there is one, say the truth of their places. -/
structure Scanned.Located {α : Type} (fragments : List String) (scanned : Scanned α) : Prop where
  tokens : ∀ token ∈ scanned.tokens, token.Located fragments
  failure : ∀ error, scanned.result = .error error → error.Located fragments

end Scanner

/-- The tokens of a template and the failure to scan it say the truth of their places. -/
theorem Token.scan_located (fragments : List String) : (scan fragments).Located fragments where
  tokens token member := ((scan_onWay fragments).tokens token member).located
  failure error failed := ((scan_onWay fragments).failure error failed).located

end TaggedMarkup
