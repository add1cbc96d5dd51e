import TaggedMarkup.Proofs.Reading.Slots

/-! The tokens of fragments follow a grammar up to the place where scanning ends or fails.
Attributes stand inside open tags and nothing else does, and no text and no name of an attribute is
empty. So whoever reads the tokens meets an attribute only while an open tag is being read.
-/

namespace TaggedMarkup

-----------------------------------------------------------------------------------------
-- Sentences
-----------------------------------------------------------------------------------------

namespace Token

/-- What stands between the beginning and the end of an open tag. -/
inductive IsPart : Token → Prop
  | attribute (name : String) (value : AttributeValue) (location : Location)
    : IsPart (.attribute name value location)
  | spread (slot : Nat) (location : Location) : IsPart (.spread slot location)
  | dynamicName (slot : Nat) (location : Location) : IsPart (.dynamicName slot location)

/-- What stands outside of open tags. -/
inductive IsContent : Token → Prop
  | text (raw : String) (location : Location) : IsContent (.text raw location)
  | child (slot : Nat) (location : Location) : IsContent (.child slot location)
  | ignored (slot : Nat) : IsContent (.ignored slot)
  | closeTag (name : String) (location : Location) : IsContent (.closeTag name location)

/-- Content and whole open tags in any order. -/
inductive Sentence : List Token → Prop
  | nil : Sentence []
  | content {token : Token} {rest : List Token} (isContent : token.IsContent)
    (later : Sentence rest)
    : Sentence (token :: rest)
  | tag (name : String) (location : Location) {parts rest : List Token} (selfClosing : Bool)
    (inside : ∀ part ∈ parts, part.IsPart) (later : Sentence rest)
    : Sentence (.openTag name location :: parts ++ .openEnd selfClosing :: rest)

/-- Whether an open tag is being read behind a token, if the token may stand where it does. A
comment may not stand inside an open tag.
-/
def within? (inTag : Bool) : Token → Option Bool
  | .ignored _ => if inTag then none else some false
  | other => other.after? inTag

theorem after?_of_within? {inTag last : Bool} {token : Token}
    (order : token.within? inTag = some last)
    : token.after? inTag = some last := by
  cases token with
  | ignored slot => cases inTag <;> simp_all [within?, after?]
  | _ => exact order

/-- Tokens that may stand where they do and that end outside of open tags make a sentence, or the
rest of an open tag and a sentence behind it. The induction is on the tokens.
-/
theorem sentence_of_within {tokens : List Token}
    : (tokens.foldlM within? false = some false → Sentence tokens)
      ∧ (tokens.foldlM within? true = some false
        → ∃ parts selfClosing rest,
            tokens = parts ++ .openEnd selfClosing :: rest
            ∧ (∀ part ∈ parts, part.IsPart)
            ∧ Sentence rest) := by
  induction tokens with
  | nil => exact ⟨fun _ => .nil, fun impossible => nomatch impossible⟩
  | cons token rest ih =>
      obtain ⟨outside, inside⟩ := ih
      constructor
      · intro order
        obtain ⟨next, first, later⟩ := Option.bind_eq_some_iff.mp order
        cases token with
        | openTag name location =>
            obtain rfl := Option.some.inj first
            obtain ⟨parts, selfClosing, others, rfl, all, sentence⟩ := inside later
            exact .tag name location selfClosing all sentence
        | text | child | ignored | closeTag =>
            obtain rfl := Option.some.inj first
            exact .content (by constructor) (outside later)
        | openEnd | «attribute» | spread | dynamicName => cases first
      · intro order
        obtain ⟨next, first, later⟩ := Option.bind_eq_some_iff.mp order
        cases token with
        | openEnd selfClosing =>
            obtain rfl := Option.some.inj first
            exact ⟨[], selfClosing, rest, rfl, by simp, outside later⟩
        | «attribute» | spread | dynamicName =>
            obtain rfl := Option.some.inj first
            obtain ⟨parts, selfClosing, others, rfl, all, sentence⟩ := inside later
            refine ⟨_ :: parts, selfClosing, others, rfl, ?_, sentence⟩
            intro part member
            rcases List.mem_cons.mp member with rfl | other
            · constructor
            · exact all part other
        | openTag | text | child | ignored | closeTag => cases first

/-- What completes a sentence when an open tag may have begun. -/
def completion (inTag : Bool) : List Token :=
  if inTag then [.openEnd false] else []

/-- Tokens that may stand where they do are the beginning of a sentence. -/
theorem sentence_completion {tokens : List Token} {inTag : Bool}
    (order : tokens.foldlM within? false = some inTag)
    : Sentence (tokens ++ completion inTag) := by
  apply sentence_of_within.1
  rw [List.foldlM_append, order]
  cases inTag <;> rfl

/-- No text is empty or contains the beginning of a tag, and no attribute is without a name. -/
def Sound : Token → Prop
  | .text raw _ => raw ≠ "" ∧ '<' ∉ raw.toList
  | .attribute name _ _ => name ≠ ""
  | _ => True

end Token

-----------------------------------------------------------------------------------------
-- Steps
-----------------------------------------------------------------------------------------

namespace Scanner

/-- What a mode holds of a text or of the name of an attribute is sound. -/
def Mode.Sound : Mode → Prop
  | .text run _ => '<' ∉ run.toList
  | .attributeName _ name | .afterAttributeName _ name | .beforeValue _ name
  | .quotedValue _ _ name _ | .unquotedValue _ name _ => name ≠ ""
  | _ => True

/-- An error that misses the value of an attribute says which attribute it is. -/
def Named (error : Error) : Prop :=
  ∀ name location, error = .missingAttributeValue name location → name ≠ ""

/-- Sound tokens that may stand where they do. -/
structure Lawful (inTag : Bool) (tokens : List Token) (last : Bool) : Prop where
  order : tokens.foldlM Token.within? inTag = some last
  sound : ∀ token ∈ tokens, token.Sound

theorem Lawful.nil (inTag : Bool) : Lawful inTag [] inTag :=
  ⟨rfl, by simp⟩

theorem Lawful.append {inTag middle last : Bool} {tokens others : List Token}
    (first : Lawful inTag tokens middle) (rest : Lawful middle others last)
    : Lawful inTag (tokens ++ others) last where
  order := by
    rw [List.foldlM_append, first.order]
    exact rest.order
  sound token member := by
    rcases List.mem_append.mp member with early | late
    · exact first.sound token early
    · exact rest.sound token late

/-- An outcome with lawful tokens and a sound mode, or with an error that is named. -/
def Keeps (inTag : Bool) : Outcome → Prop
  | .ok (tokens, next) => Lawful inTag tokens next.inTag ∧ next.Sound
  | .error error => Named error

namespace Keeps

variable {inTag : Bool}

theorem quiet {next : Mode} (same : next.inTag = inTag) (sound : next.Sound)
    : Keeps inTag (.ok ([], next)) :=
  ⟨same ▸ .nil _, sound⟩

theorem one {token : Token} {next : Mode} (order : token.within? inTag = some next.inTag)
    (isSound : token.Sound) (sound : next.Sound)
    : Keeps inTag (.ok ([token], next)) := by
  refine ⟨⟨?_, by simpa using isSound⟩, sound⟩
  rw [List.foldlM_cons, order]
  rfl

theorem error {error : Error}
    (other : ∀ name location, error ≠ .missingAttributeValue name location)
    : Keeps inTag (.error error) :=
  fun name location same => absurd same (other name location)

theorem endTag {tokens : List Token} (lawful : Lawful inTag tokens true) (selfClosing : Bool)
    (here : Location) (c : Char)
    : Keeps inTag (Scanner.endTag tokens selfClosing here c) :=
  ⟨lawful.append ⟨rfl, by simp [Token.Sound]⟩, by simp [textAfter, Mode.Sound]⟩

theorem stepBeforeAttribute {tokens : List Token} (lawful : Lawful inTag tokens true)
    (here : Location) (c : Char)
    : Keeps inTag (Scanner.stepBeforeAttribute tokens here c) := by
  simp only [Scanner.stepBeforeAttribute]
  split
  · exact ⟨lawful, trivial⟩
  split
  · exact endTag lawful false here _
  · exact ⟨lawful, trivial⟩
  · exact error (by simp)
  · exact ⟨lawful, trivial⟩
  · exact error (by simp)
  · exact error (by simp)
  · exact error (by simp)
  · exact ⟨lawful, by simp [Mode.Sound]⟩

end Keeps

/-- Literal text without the beginning of a tag is a sound token, or none. -/
theorem textTokens_lawful {run : String} (plain : '<' ∉ run.toList) (location : Location)
    : Lawful false (textTokens run location) false := by
  simp only [textTokens]
  split
  · exact .nil false
  next some => exact ⟨rfl, by simpa [Token.Sound, plain] using some⟩

theorem push_ne_empty (run : String) (c : Char) : run.push c ≠ "" := by
  intro same
  simpa using congrArg String.toList same

/-- One character leads from a sound mode to sound tokens and to a sound mode. -/
theorem step_keeps {mode : Mode} (sound : mode.Sound) (here : Location) (c : Char)
    (rest : List Char)
    : Keeps mode.inTag (step mode here c rest) := by
  cases mode with
  | text run offset =>
      simp only [step]
      split
      · exact ⟨textTokens_lawful sound _, trivial⟩
      next other =>
          refine .quiet rfl ?_
          simpa [Mode.Sound, Ne.symm other] using sound
  | tagStart start =>
      simp only [step]
      split
      · exact .quiet rfl trivial
      split
      · exact .endTag ⟨rfl, by simp [Token.Sound]⟩ false here c
      split
      · split
        · exact .quiet rfl trivial
        · exact .error (by simp)
      split
      · exact .quiet rfl trivial
      · exact .error (by simp)
  | tagName start name =>
      simp only [step]
      split
      · exact .stepBeforeAttribute ⟨rfl, by simp [Token.Sound]⟩ here c
      · exact .quiet rfl trivial
  | selfClosing =>
      simp only [step]
      split
      · exact .endTag (.nil true) true here c
      · exact .error (by simp)
  | closingName start name =>
      simp only [step]
      split
      · exact .one rfl trivial (by simp [textAfter, Mode.Sound])
      split
      · split <;> exact .quiet rfl trivial
      · exact .quiet rfl trivial
  | closingEnd start name =>
      simp only [step]
      split
      · exact .one rfl trivial (by simp [textAfter, Mode.Sound])
      split
      · exact .quiet rfl trivial
      · exact .error (by simp)
  | beforeAttribute => exact .stepBeforeAttribute (.nil true) here c
  | attributeName start name =>
      have bare : Lawful true [.attribute name .bare start] true :=
        ⟨rfl, by simpa [Token.Sound, Mode.Sound] using sound⟩
      simp only [step]
      split
      · exact .quiet rfl sound
      split
      · exact .quiet rfl sound
      split
      · exact ⟨bare, trivial⟩
      split
      · exact .endTag bare false here c
      split
      · exact .error (by simp)
      · exact .quiet rfl (push_ne_empty name c)
  | afterAttributeName start name =>
      have bare : Lawful true [.attribute name .bare start] true :=
        ⟨rfl, by simpa [Token.Sound, Mode.Sound] using sound⟩
      simp only [step]
      split
      · exact .quiet rfl sound
      split
      · exact .quiet rfl sound
      split
      · exact .error (by simp)
      · exact .stepBeforeAttribute bare here c
  | beforeValue start name =>
      simp only [step]
      split
      · exact .quiet rfl sound
      split
      · exact .quiet rfl sound
      split
      · intro other location same
        obtain ⟨rfl, -⟩ := Error.missingAttributeValue.inj same
        exact sound
      · exact .quiet rfl sound
  | quotedValue quote start name value =>
      simp only [step]
      split
      · exact .one rfl sound trivial
      · exact .quiet rfl sound
  | unquotedValue start name value =>
      have written : Lawful true [.attribute name (.literal value) start] true :=
        ⟨rfl, by simpa [Token.Sound, Mode.Sound] using sound⟩
      simp only [step]
      split
      · exact ⟨written, trivial⟩
      split
      · exact .endTag written false here c
      split
      · exact ⟨written, trivial⟩
      split
      · exact .error (by simp)
      · exact .quiet rfl sound
  | afterValue =>
      simp only [step]
      split
      · exact .quiet rfl trivial
      split
      · exact .endTag (.nil true) false here c
      split
      · exact .quiet rfl trivial
      · exact .error (by simp)
  | spread start dots =>
      simp only [step]
      split
      · exact .quiet rfl trivial
      · exact .error (by simp)
  | commentStart remaining =>
      simp only [step]
      split <;> exact .quiet rfl trivial
  | comment hyphens =>
      simp only [step]
      split
      · exact .quiet rfl trivial
      split
      · exact .quiet rfl (by simp [textAfter, Mode.Sound])
      · exact .quiet rfl trivial

/-- The end of a fragment leads from a sound mode to sound tokens and to a sound mode. -/
theorem boundary_keeps {mode : Mode} (sound : mode.Sound) (fragment offset slot : Nat)
    : Keeps mode.inTag (boundary mode fragment offset slot) := by
  cases mode with
  | text run start =>
      have child : Lawful false [.child slot ⟨fragment, offset⟩] false :=
        ⟨rfl, by simp [Token.Sound]⟩
      exact ⟨(textTokens_lawful sound _).append child, by simp [Mode.Sound]⟩
  | beforeValue start name => exact .one rfl sound trivial
  | spread start dots =>
      simp only [boundary]
      split
      · exact .one rfl trivial trivial
      · exact .error (by simp)
  | beforeAttribute => exact .one rfl trivial trivial
  | afterAttributeName start name =>
      refine ⟨⟨rfl, ?_⟩, trivial⟩
      simpa [Token.Sound, Mode.Sound] using sound
  | commentStart | comment => exact .one rfl trivial trivial
  | quotedValue | unquotedValue | tagStart | tagName | closingName | closingEnd | attributeName
  | afterValue | selfClosing =>
      exact .error (by simp)

/-- The end of the last fragment gives sound tokens or an error that is named. -/
theorem finish_keeps {mode : Mode} (sound : mode.Sound) (fragment : Nat)
    : match finish mode fragment with
      | .ok tokens => Lawful mode.inTag tokens false
      | .error error => Named error := by
  cases mode with
  | text run start => exact textTokens_lawful sound _
  | _ => simp [finish, Named]

-----------------------------------------------------------------------------------------
-- Whole templates
-----------------------------------------------------------------------------------------

/-- The characters of a fragment give sound tokens, be it up to the end or up to a failure. The
induction is on the characters.
-/
theorem scanChars_keeps {mode : Mode} (sound : mode.Sound) (fragment offset : Nat)
    (chars : List Char)
    : ∃ last,
        Lawful mode.inTag (scanChars fragment mode offset chars).tokens last
        ∧ match (scanChars fragment mode offset chars).result with
          | .ok (reached, _) => last = reached.inTag ∧ reached.Sound
          | .error error => Named error := by
  induction chars generalizing mode offset with
  | nil => exact ⟨mode.inTag, .nil _, rfl, sound⟩
  | cons c rest ih =>
      have keeps := step_keeps sound ⟨fragment, offset⟩ c rest
      simp only [scanChars]
      split
      next error failed =>
          rw [failed] at keeps
          exact ⟨mode.inTag, .nil _, keeps⟩
      next tokens next stepped =>
          rw [stepped] at keeps
          obtain ⟨last, lawful, reached⟩ := ih keeps.2 (offset + c.utf8Size)
          exact ⟨last, keeps.1.append lawful, reached⟩

/-- Sound tokens, which end outside of open tags if scanning succeeds, or an error that is
named.
-/
def Scanned.Keeps (inTag : Bool) (scanned : Scanned Unit) : Prop :=
  ∃ last,
    Lawful inTag scanned.tokens last
    ∧ match scanned.result with
      | .ok () => last = false
      | .error error => Named error

/-- Fragments are scanned to sound tokens, by induction on them. -/
theorem scanFragments_keeps {mode : Mode} (sound : mode.Sound) (fragment : Nat)
    (fragments : List String)
    : (scanFragments fragment mode fragments).Keeps mode.inTag := by
  induction fragments generalizing fragment mode with
  | nil =>
      have ends := finish_keeps sound fragment
      simp only [scanFragments]
      split
      next error failed =>
          rw [failed] at ends
          exact ⟨mode.inTag, .nil _, ends⟩
      next tokens finished =>
          rw [finished] at ends
          exact ⟨false, ends, rfl⟩
  | cons first others ih =>
      obtain ⟨last, lawful, reads⟩ := scanChars_keeps sound fragment 0 first.toList
      cases others with
      | nil =>
          simp only [scanFragments]
          split
          next error failed =>
              rw [failed] at reads
              exact ⟨last, lawful, reads⟩
          next reached offset read =>
              rw [read] at reads
              obtain ⟨rfl, sound'⟩ := reads
              have ends := finish_keeps sound' fragment
              split
              next error failed =>
                  rw [failed] at ends
                  exact ⟨_, lawful, ends⟩
              next tokens finished =>
                  rw [finished] at ends
                  exact ⟨false, lawful.append ends, rfl⟩
      | cons second others =>
          simp only [scanFragments]
          split
          next error failed =>
              rw [failed] at reads
              exact ⟨last, lawful, reads⟩
          next reached offset read =>
              rw [read] at reads
              obtain ⟨rfl, sound'⟩ := reads
              have crosses := boundary_keeps sound' fragment offset fragment
              split
              next error failed =>
                  rw [failed] at crosses
                  exact ⟨_, lawful, crosses⟩
              next tokens next passed =>
                  rw [passed] at crosses
                  obtain ⟨last, following, ends⟩ := ih crosses.2 (fragment + 1)
                  exact ⟨last, (lawful.append crosses.1).append following, ends⟩

/-- Fragments give slots in order without a gap, also when scanning fails. The induction is on
the fragments.
-/
theorem scanFragments_numbered (fragment : Nat) (mode : Mode) (fragments : List String)
    : ∃ count,
        (scanFragments fragment mode fragments).tokens.filterMap Token.slot?
        = List.range' fragment count := by
  induction fragments generalizing fragment mode with
  | nil =>
      simp only [scanFragments]
      split
      · exact ⟨0, rfl⟩
      next tokens finished => exact ⟨0, finish_slotless finished⟩
  | cons first others ih =>
      have slotless := scanChars_slotless fragment mode 0 first.toList
      cases others with
      | nil =>
          simp only [scanFragments]
          split
          · exact ⟨0, slotless⟩
          split
          · exact ⟨0, slotless⟩
          next tokens finished =>
              exact ⟨0, by rw [List.filterMap_append, slotless, finish_slotless finished]; rfl⟩
      | cons second others =>
          simp only [scanFragments]
          split
          · exact ⟨0, slotless⟩
          next reached offset read =>
              split
              · exact ⟨0, slotless⟩
              next tokens next passed =>
                  obtain ⟨count, following⟩ := ih (fragment + 1) next
                  refine ⟨count + 1, ?_⟩
                  rw [List.filterMap_append, List.filterMap_append, slotless, boundary_slot passed,
                    following, List.range'_succ]
                  rfl

/-- What scanning reports: its tokens, and its end if it comes to one. -/
inductive Notice where
  | token (token : Token)
  | finish
deriving DecidableEq, Repr

def Scanned.notices (scanned : Scanned Unit) : List Notice :=
  scanned.tokens.map .token
    ++ match scanned.result with
      | .ok () => [.finish]
      | .error _ => []

/-- A sentence and the end behind it. -/
def Complete (notices : List Notice) : Prop :=
  ∃ tokens, Token.Sentence tokens ∧ notices = tokens.map .token ++ [.finish]

/-- What is known of the tokens of some fragments, whether scanning succeeds or fails. -/
structure Grammatical (fragments : List String) (scanned : Scanned Unit) : Prop where
  begins : ∃ later, Complete (scanned.notices ++ later)
  complete : Complete scanned.notices ↔ scanned.result = .ok ()
  numbered
    : ∃ count,
        scanned.tokens.filterMap Token.slot? = List.range count
        ∧ (scanned.result = .ok () → count = fragments.length - 1)
  text : ∀ raw location, .text raw location ∈ scanned.tokens → raw ≠ "" ∧ '<' ∉ raw.toList
  named : ∀ name value location, .attribute name value location ∈ scanned.tokens → name ≠ ""
  missingValue
    : ∀ name location,
        scanned.result = .error (.missingAttributeValue name location) → name ≠ ""
  /-- No part of an open tag and no end of one is met by a tree without an open tag. -/
  opened
    : ∀ resolver options slotCount before token after building,
        scanned.tokens = before ++ token :: after
        → before.foldlM (Tree.step resolver options) (.start slotCount) = .ok building
        → (building.current.isSome = true
          ↔ token.IsPart ∨ ∃ selfClosing, token = .openEnd selfClosing)

/-- Where a token may stand, an open tag is being read exactly for its parts and its end. -/
theorem isPart_of_within {token : Token} {inTag last : Bool}
    (order : token.within? inTag = some last)
    : inTag = true ↔ token.IsPart ∨ ∃ selfClosing, token = .openEnd selfClosing := by
  cases inTag with
  | true =>
      refine iff_of_true rfl ?_
      cases token with
      | «attribute» | spread | dynamicName => exact .inl (by constructor)
      | openEnd selfClosing => exact .inr ⟨selfClosing, rfl⟩
      | text | openTag | closeTag | child | ignored => cases order
  | false =>
      refine iff_of_false Bool.false_ne_true ?_
      rintro (isPart | ⟨selfClosing, rfl⟩)
      · cases isPart <;> cases order
      · cases order

/-- A tree is built with an open tag being read exactly where the tokens say so. The induction is
on the tokens.
-/
theorem current_of_within {resolver : Resolver} {options : ReadOptions} {tokens rest : List Token}
    {building next : Tree.Building} {last : Bool}
    (read : Tree.BuildingRead resolver options tokens building)
    (member : ∀ token ∈ rest, token ∈ tokens)
    (order : rest.foldlM Token.within? building.current.isSome = some last)
    (built : rest.foldlM (Tree.step resolver options) building = .ok next)
    : next.current.isSome = last := by
  induction rest generalizing building with
  | nil =>
      obtain rfl := Except.ok.inj built
      exact Option.some.inj order
  | cons token rest ih =>
      obtain ⟨inTag, first, later⟩ := Option.bind_eq_some_iff.mp order
      obtain ⟨reached, one, built⟩ := Tree.steps_cons built
      obtain ⟨kept, same⟩ := read.step (member token (by simp)) (Token.after?_of_within? first) one
      exact ih kept (fun other isLater => member other (by simp [isLater])) (same ▸ later) built

/-- Sound tokens are the beginning of a sentence, and the whole of it if scanning succeeds. -/
theorem Scanned.Keeps.begins {scanned : Scanned Unit} (keeps : scanned.Keeps false)
    : (∃ later, Complete (scanned.notices ++ later))
      ∧ (Complete scanned.notices ↔ scanned.result = .ok ()) := by
  obtain ⟨last, lawful, ends⟩ := keeps
  cases result : scanned.result with
  | ok finished =>
      rw [result] at ends
      obtain rfl := ends
      have complete : Complete scanned.notices := by
        refine ⟨scanned.tokens, Token.sentence_of_within.1 lawful.order, ?_⟩
        simp [Scanned.notices, result]
      exact ⟨⟨[], by simpa using complete⟩, iff_of_true complete rfl⟩
  | error error =>
      refine ⟨⟨(Token.completion last).map .token ++ [.finish],
        scanned.tokens ++ Token.completion last, Token.sentence_completion lawful.order, ?_⟩,
        iff_of_false ?_ (by simp)⟩
      · simp [Scanned.notices, result]
      · rintro ⟨tokens, -, same⟩
        have isFinish : .finish ∈ scanned.notices := by simp [same]
        simp [Scanned.notices, result] at isFinish

/-- Whoever builds a tree is reading an open tag at every part of one and at every end of one,
and at nothing else.
-/
theorem Lawful.opened {before after : List Token} {token : Token} {last : Bool}
    (lawful : Lawful false (before ++ token :: after) last) {resolver : Resolver}
    {options : ReadOptions} {slotCount : Nat} {building : Tree.Building}
    (built : before.foldlM (Tree.step resolver options) (.start slotCount) = .ok building)
    : building.current.isSome = true
      ↔ token.IsPart ∨ ∃ selfClosing, token = .openEnd selfClosing := by
  have order := lawful.order
  rw [List.foldlM_append] at order
  obtain ⟨inTag, first, later⟩ := Option.bind_eq_some_iff.mp order
  obtain ⟨next, here, -⟩ := Option.bind_eq_some_iff.mp later
  rw [current_of_within (.start slotCount) (fun _ member => member) first built]
  exact isPart_of_within here

end Scanner

/-- The tokens of every list of fragments are grammatical: they are the beginning of a sentence,
and the whole of it if scanning succeeds.
-/
theorem Token.scan_grammatical (fragments : List String)
    : Scanner.Grammatical fragments (scan fragments) := by
  have initial : Scanner.Mode.initial.Sound := by simp [Scanner.Mode.initial, Scanner.Mode.Sound]
  have keeps : (scan fragments).Keeps false := Scanner.scanFragments_keeps initial 0 fragments
  obtain ⟨begins, complete⟩ := keeps.begins
  obtain ⟨last, lawful, ends⟩ := keeps
  exact {
    begins
    complete
    numbered := by
      obtain ⟨count, numbered⟩ := Scanner.scanFragments_numbered 0 .initial fragments
      have slots : (scan fragments).tokens.filterMap Token.slot? = List.range count :=
        numbered.trans List.range_eq_range'.symm
      refine ⟨count, slots, fun succeeded => ?_⟩
      simpa using congrArg List.length (slots.symm.trans (Token.scan_slots succeeded))
    text raw location member := lawful.sound (.text raw location) member
    named name value location member := lawful.sound (.attribute name value location) member
    missingValue name location failed := by
      rw [failed] at ends
      exact ends name location rfl
    opened _ _ _ _ _ _ _ same built := (same ▸ lawful).opened built
  }

end TaggedMarkup
