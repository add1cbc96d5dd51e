import Mathlib.Data.List.Chain
import TaggedMarkup.Proofs.Reading.Slots

/-! Markup has a canonical spelling, in which every attribute stands behind one space and every
literal value stands in quotes. Scanning what is spelled so gives it back: every token at the
place where it was written, and the slots counted from zero.
-/

namespace TaggedMarkup

namespace Canonical

-----------------------------------------------------------------------------------------
-- Fragments
-----------------------------------------------------------------------------------------

/-- What fragments are made of: characters, and the boundaries between two fragments, where the
interpolated values stand.
-/
inductive Glyph where
  | char (c : Char)
  | boundary
deriving DecidableEq, Repr

def chars (text : String) : List Glyph :=
  text.toList.map .char

/-- The place behind a glyph. -/
def Glyph.past (here : Location) : Glyph → Location
  | .char c => { here with offset := here.offset + c.utf8Size }
  | .boundary => ⟨here.fragment + 1, 0⟩

/-- The place behind some glyphs. -/
def past (here : Location) (glyphs : List Glyph) : Location :=
  glyphs.foldl Glyph.past here

/-- The characters up to the first boundary, and the fragments behind it. -/
def split : List Glyph → List Char × List String
  | [] => ([], [])
  | .char c :: rest => (c :: (split rest).1, (split rest).2)
  | .boundary :: rest => ([], String.ofList (split rest).1 :: (split rest).2)

def fragments (glyphs : List Glyph) : List String :=
  String.ofList (split glyphs).1 :: (split glyphs).2

-----------------------------------------------------------------------------------------
-- Items
-----------------------------------------------------------------------------------------

/-- An attribute of an open tag. A literal value comes with the quote that is put around it. -/
inductive Attribute where
  | literal (quote : Char) (name text : String)
  | bare (name : String)
  | interpolated (name : String)
  | spread
  | dynamicName
deriving DecidableEq, Repr

/-- What stands between the tags of a template, and the tags themselves. -/
inductive Item where
  | text (raw : String)
  | child
  | closeTag (name : String)
  | openTag (name : String) (attributes : List Attribute) (selfClosing : Bool)
deriving DecidableEq, Repr

-- What holds of all characters of a text is decided on the text, not on all characters there are.
local instance decidableText (text : List Char) (holds : Char → Prop) [DecidablePred holds]
    : Decidable (∀ c ∈ text, holds c) :=
  List.decidableBAll holds text

namespace Attribute

/-- The name of an attribute, which does not look like the beginning of a spread. -/
def LegalName (name : String) : Prop :=
  name ≠ ""
  ∧ name.toList.head? ≠ some '.'
  ∧ ∀ c ∈ name.toList, Scanner.isSpace c = false ∧ c ∉ ['=', '/', '>', '"', '\'', '<']

instance (name : String) : Decidable (LegalName name) :=
  inferInstanceAs (Decidable (_ ∧ _ ∧ _))

def Legal : Attribute → Prop
  | .literal quote name text => LegalName name ∧ quote ∈ ['"', '\''] ∧ quote ∉ text.toList
  | .bare name | .interpolated name => LegalName name
  | .spread | .dynamicName => True

instance : DecidablePred Legal
  | .literal .. => inferInstanceAs (Decidable (_ ∧ _ ∧ _))
  | .bare name | .interpolated name => inferInstanceAs (Decidable (LegalName name))
  | .spread | .dynamicName => inferInstanceAs (Decidable True)

def glyphs : Attribute → List Glyph
  | .literal quote name text =>
      chars name ++ .char '=' :: .char quote :: chars text ++ [.char quote]
  | .bare name => chars name
  | .interpolated name => chars name ++ [.char '=', .boundary]
  | .spread => [.char '.', .char '.', .char '.', .boundary]
  | .dynamicName => [.boundary]

/-- The token of an attribute that is written from a place on. Its slot is the number of
fragments that have ended before.
-/
def token (here : Location) : Attribute → Token
  | .literal _ name text => .attribute name (.literal text) here
  | .bare name => .attribute name .bare here
  | .interpolated name => .attribute name (.slot here.fragment) here
  | .spread => .spread here.fragment here
  | .dynamicName => .dynamicName here.fragment here

/-- Attributes as they are written, each behind a space. -/
def written (attributes : List Attribute) : List Glyph :=
  attributes.flatMap fun one => .char ' ' :: one.glyphs

/-- The tokens of attributes that are written from a place on. -/
def tokens (here : Location) : List Attribute → List Token
  | [] => []
  | first :: rest =>
      let start := past here [.char ' ']
      first.token start :: tokens (past start first.glyphs) rest

end Attribute

namespace Item

def isText : Item → Bool
  | .text _ => true
  | _ => false

/-- A letter, and then anything that does not end a name. -/
def LegalTagName (name : String) : Prop :=
  name.toList.head?.any Html.isLetter = true
  ∧ ∀ c ∈ name.toList.tail, Scanner.isSpace c = false ∧ c ∉ ['/', '>']

def Legal : Item → Prop
  | .text raw => raw ≠ "" ∧ '<' ∉ raw.toList
  | .child => True
  | .closeTag name => name ≠ "" ∧ ∀ c ∈ name.toList, Scanner.isSpace c = false ∧ c ≠ '>'
  | .openTag name attributes _ => LegalTagName name ∧ ∀ one ∈ attributes, one.Legal

instance : DecidablePred Legal
  | .text _ | .closeTag _ => inferInstanceAs (Decidable (_ ∧ _))
  | .child => inferInstanceAs (Decidable True)
  | .openTag .. => inferInstanceAs (Decidable ((_ ∧ _) ∧ _))

def ending (selfClosing : Bool) : List Glyph :=
  if selfClosing then [.char '/', .char '>'] else [.char '>']

def glyphs : Item → List Glyph
  | .text raw => chars raw
  | .child => [.boundary]
  | .closeTag name => .char '<' :: .char '/' :: chars name ++ [.char '>']
  | .openTag name attributes selfClosing =>
      .char '<' :: chars name ++ Attribute.written attributes ++ ending selfClosing

/-- The tokens of an item that is written from a place on. -/
def tokens (here : Location) : Item → List Token
  | .text raw => [.text raw here]
  | .child => [.child here.fragment here]
  | .closeTag name => [.closeTag name here]
  | .openTag name attributes selfClosing =>
      .openTag name here
      :: Attribute.tokens (past here (.char '<' :: chars name)) attributes
      ++ [.openEnd selfClosing]

end Item

/-- Items in their canonical spelling. -/
def print (items : List Item) : List String :=
  fragments (items.flatMap Item.glyphs)

/-- The tokens of items that are written from a place on. -/
def tokens (here : Location) : List Item → List Token
  | [] => []
  | first :: rest => first.tokens here ++ tokens (past here first.glyphs) rest

/-- Items that can be written: each of them is legal, and no two texts stand side by side. -/
structure Legal (items : List Item) : Prop where
  each : ∀ item ∈ items, item.Legal
  apart : items.IsChain fun first second => ¬ (first.isText = true ∧ second.isText = true)

-----------------------------------------------------------------------------------------
-- Reading glyphs
-----------------------------------------------------------------------------------------

open Scanner

theorem past_append (here : Location) (glyphs more : List Glyph)
    : past here (glyphs ++ more) = past (past here glyphs) more :=
  List.foldl_append

/-- Characters do not leave their fragment. -/
theorem fragment_past_chars (here : Location) (text : String)
    : (past here (chars text)).fragment = here.fragment := by
  simp only [past, chars]
  induction text.toList generalizing here with
  | nil => rfl
  | cons c rest ih => exact ih (Glyph.past here (.char c))

/-- Glyphs that are read one by one lead from a mode to another one and give some tokens. What
follows them in their fragment does not matter.
-/
inductive Reads : Mode → Location → List Glyph → List Token → Mode → Prop
  | nothing {mode : Mode} {here : Location} : Reads mode here [] [] mode
  | char {mode next last : Mode} {here : Location} {c : Char} {glyphs : List Glyph}
    {tokens more : List Token}
    (steps : ∀ rest, step mode here c rest = .ok (tokens, next))
    (later : Reads next (Glyph.past here (.char c)) glyphs more last)
    : Reads mode here (.char c :: glyphs) (tokens ++ more) last
  | boundary {mode next last : Mode} {here : Location} {glyphs : List Glyph}
    {tokens more : List Token}
    (passes
      : boundary mode here.fragment here.offset here.fragment = .ok (tokens, next))
    (later : Reads next (Glyph.past here .boundary) glyphs more last)
    : Reads mode here (.boundary :: glyphs) (tokens ++ more) last

namespace Reads

variable {mode middle last : Mode} {here : Location} {glyphs more : List Glyph}
  {tokens others : List Token}

theorem append (first : Reads mode here glyphs tokens middle)
    (rest : Reads middle (past here glyphs) more others last)
    : Reads mode here (glyphs ++ more) (tokens ++ others) last := by
  induction first with
  | nothing => exact rest
  | char steps _ ih =>
      rw [List.append_assoc]
      exact .char steps (ih rest)
  | boundary passes _ ih =>
      rw [List.append_assoc]
      exact .boundary passes (ih rest)

theorem one {c : Char} (steps : ∀ rest, step mode here c rest = .ok (tokens, last))
    : Reads mode here [.char c] tokens last := by
  simpa only [List.append_nil] using Reads.char steps .nothing

theorem slot
    (passes
      : Scanner.boundary mode here.fragment here.offset here.fragment = .ok (tokens, last))
    : Reads mode here [.boundary] tokens last := by
  simpa only [List.append_nil] using Reads.boundary passes .nothing

theorem quiet {next : Mode} {c : Char} (steps : ∀ rest, step mode here c rest = .ok ([], next))
    (later : Reads next (Glyph.past here (.char c)) glyphs tokens last)
    : Reads mode here (.char c :: glyphs) tokens last :=
  .char steps later

/-- Characters that a mode only adds to what it holds, by induction on them. -/
theorem run {grow : String → Mode} {text : String}
    (grows
      : ∀ c ∈ text.toList,
          ∀ held here rest, step (grow held) here c rest = .ok ([], grow (held.push c)))
    (held : String) (here : Location)
    : Reads (grow held) here (chars text) [] (grow (held ++ text)) := by
  have along (list : List Char) (held : String) (here : Location)
      (grows
        : ∀ c ∈ list,
            ∀ held here rest, step (grow held) here c rest = .ok ([], grow (held.push c)))
      : Reads (grow held) here (list.map .char) [] (grow (held ++ String.ofList list)) := by
    induction list generalizing held here with
    | nil => simpa using Reads.nothing
    | cons c rest ih =>
        have later :=
          ih (held.push c) (Glyph.past here (.char c)) fun other member =>
            grows other (List.mem_cons_of_mem _ member)
        have same : held.push c ++ String.ofList rest = held ++ String.ofList (c :: rest) := by
          apply String.toList_inj.mp
          simp
        rw [same] at later
        exact .char (grows c (List.mem_cons_self ..) held here) later
  have whole := along text.toList held here grows
  rwa [String.ofList_toList] at whole

/-- A name of which the first character begins a mode that only adds the others. -/
theorem named {grow : String → Mode} {c : Char} {rest : List Char} {name : String}
    (isName : name.toList = c :: rest)
    (first : ∀ behind, step mode here c behind = .ok (tokens, grow (String.singleton c)))
    (grows
      : ∀ other ∈ rest,
          ∀ held place behind,
            step (grow held) place other behind = .ok ([], grow (held.push other)))
    : Reads mode here (chars name) tokens (grow name) := by
  have whole : String.singleton c ++ String.ofList rest = name := by
    apply String.toList_inj.mp
    simp [isName]
  have later :=
    Reads.run (by rwa [String.toList_ofList]) (String.singleton c) (Glyph.past here (.char c))
  rw [whole] at later
  simpa only [chars, isName, List.map_cons, String.toList_ofList, List.append_nil]
    using Reads.char first later

end Reads

/-- Reads the rest of a fragment and the fragments behind it. -/
def resume (mode : Mode) (here : Location) (rest : List Char) (others : List String)
    : Scanned Unit :=
  let scanned := scanChars here.fragment mode here.offset rest
  match scanned.result with
  | .error error => ⟨scanned.tokens, .error error⟩
  | .ok (reached, offset) =>
      match others with
      | [] =>
          match finish reached here.fragment with
          | .error error => ⟨scanned.tokens, .error error⟩
          | .ok tokens => ⟨scanned.tokens ++ tokens, .ok ()⟩
      | second :: others =>
          match boundary reached here.fragment offset here.fragment with
          | .error error => ⟨scanned.tokens, .error error⟩
          | .ok (tokens, next) =>
              let following := scanFragments (here.fragment + 1) next (second :: others)
              ⟨scanned.tokens ++ tokens ++ following.tokens, following.result⟩

theorem scanFragments_eq (fragment : Nat) (mode : Mode) (first : String) (others : List String)
    : scanFragments fragment mode (first :: others)
      = resume mode ⟨fragment, 0⟩ first.toList others := by
  cases others <;> rfl

theorem resume_cons {mode next : Mode} {here : Location} {c : Char} {rest : List Char}
    {others : List String} {tokens : List Token}
    (stepped : step mode here c rest = .ok (tokens, next))
    : resume mode here (c :: rest) others
      = ⟨tokens ++ (resume next (Glyph.past here (.char c)) rest others).tokens,
          (resume next (Glyph.past here (.char c)) rest others).result⟩ := by
  simp only [resume, scanChars, stepped, Glyph.past]
  cases (scanChars here.fragment next (here.offset + c.utf8Size) rest).result with
  | error error => rfl
  | ok reached =>
      obtain ⟨reached, offset⟩ := reached
      cases others with
      | nil => cases finished : finish reached here.fragment <;> simp [finished]
      | cons second others =>
          cases passed : Scanner.boundary reached here.fragment offset here.fragment <;>
            simp [passed]

theorem resume_nil {mode next : Mode} {here : Location} {second : String} {others : List String}
    {tokens : List Token}
    (passed : Scanner.boundary mode here.fragment here.offset here.fragment = .ok (tokens, next))
    : resume mode here [] (second :: others)
      = ⟨tokens ++ (resume next (Glyph.past here .boundary) second.toList others).tokens,
          (resume next (Glyph.past here .boundary) second.toList others).result⟩ := by
  have following := scanFragments_eq (here.fragment + 1) next second others
  rw [Glyph.past, ← following]
  simp only [resume, scanChars, passed, List.nil_append]

/-- Glyphs that are read as a whole up to text are scanned without a failure, by induction on the
way in which they are read.
-/
theorem Reads.resume {mode : Mode} {here : Location} {glyphs : List Glyph} {tokens : List Token}
    {run : String} {offset : Nat} (reads : Reads mode here glyphs tokens (.text run offset))
    : Canonical.resume mode here (split glyphs).1 (split glyphs).2
      = ⟨tokens ++ textTokens run ⟨(past here glyphs).fragment, offset⟩, .ok ()⟩ := by
  generalize isLast : Mode.text run offset = last at reads
  induction reads with
  | nothing =>
      subst isLast
      rfl
  | char steps _ ih =>
      simp only [split, resume_cons (steps _), ih isLast, List.append_assoc]
      rfl
  | boundary passes _ ih =>
      simp only [split, resume_nil passes, String.toList_ofList, ih isLast, List.append_assoc]
      rfl

-----------------------------------------------------------------------------------------
-- Tokens that are still held back
-----------------------------------------------------------------------------------------

/-- The token of what a mode holds, if nothing more belongs to it. -/
def pending (fragment : Nat) : Mode → List Token
  | .text run offset => textTokens run ⟨fragment, offset⟩
  | .tagName start name => [.openTag name start]
  | .attributeName start name | .afterAttributeName start name => [.attribute name .bare start]
  | _ => []

/-- Glyphs are read, and their tokens follow the one that was held back before. The last of
their tokens may be held back in turn.
-/
def Settles (mode : Mode) (here : Location) (glyphs : List Glyph) (tokens : List Token)
    (next : Mode)
    : Prop :=
  ∃ emitted,
    Reads mode here glyphs emitted next
    ∧ emitted ++ pending (past here glyphs).fragment next
      = pending here.fragment mode ++ tokens

theorem Settles.append {mode middle next : Mode} {here : Location} {glyphs more : List Glyph}
    {tokens others : List Token} (first : Settles mode here glyphs tokens middle)
    (rest : Settles middle (past here glyphs) more others next)
    : Settles mode here (glyphs ++ more) (tokens ++ others) next := by
  obtain ⟨early, reads, same⟩ := first
  obtain ⟨late, reads', same'⟩ := rest
  refine ⟨early ++ late, reads.append reads', ?_⟩
  rw [past_append, List.append_assoc, same', ← List.append_assoc, same, List.append_assoc]

/-- A mode in an open tag in which a space or the end of the tag may follow. -/
inductive Apart : Mode → Prop
  | tagName (start : Location) (name : String) : Apart (.tagName start name)
  | attributeName (start : Location) (name : String) : Apart (.attributeName start name)
  | afterValue : Apart .afterValue

/-- A mode in an open tag in which an attribute may begin. -/
inductive Ready : Mode → Prop
  | beforeAttribute : Ready .beforeAttribute
  | afterAttributeName (start : Location) (name : String) : Ready (.afterAttributeName start name)

theorem Apart.space {mode : Mode} (apart : Apart mode) (here : Location)
    : ∃ next, Ready next ∧ Settles mode here [.char ' '] [] next := by
  cases apart with
  | tagName start name =>
      exact ⟨.beforeAttribute, .beforeAttribute, _, .one fun _ => rfl, rfl⟩
  | attributeName start name =>
      exact ⟨.afterAttributeName start name, .afterAttributeName start name, _,
        .one fun _ => rfl, rfl⟩
  | afterValue => exact ⟨.beforeAttribute, .beforeAttribute, _, .one fun _ => rfl, rfl⟩

theorem Apart.ending {mode : Mode} (apart : Apart mode) (here : Location) (selfClosing : Bool)
    : Settles mode here (Item.ending selfClosing) [.openEnd selfClosing]
        (.text "" (past here (Item.ending selfClosing)).offset) := by
  cases selfClosing with
  | false =>
      cases apart <;> exact ⟨_, .one fun _ => rfl, rfl⟩
  | true =>
      cases apart <;> exact ⟨_, .char (fun _ => rfl) (.one fun _ => rfl), rfl⟩

/-- Where an attribute may begin, the token that was held back comes before it. -/
theorem Ready.first {mode : Mode} (ready : Ready mode) (here : Location) {c : Char}
    (notSpace : isSpace c = false) (other : c ∉ ['=', '"', '\'', '<']) (rest : List Char)
    : step mode here c rest
      = stepBeforeAttribute (pending here.fragment mode) here c := by
  cases ready with
  | beforeAttribute => rfl
  | afterAttributeName start name =>
      simp only [List.mem_cons, List.not_mem_nil, or_false, not_or] at other
      simp [step, notSpace, other, pending]

/-- The name of an attribute is read as a whole. -/
theorem Ready.name {mode : Mode} (ready : Ready mode) (here : Location) {name : String}
    (legal : Attribute.LegalName name)
    : Reads mode here (chars name) (pending here.fragment mode) (.attributeName here name) := by
  obtain ⟨some, noDots, all⟩ := legal
  obtain ⟨c, rest, isName⟩ : ∃ c rest, name.toList = c :: rest := by
    cases isName : name.toList with
    | nil => exact absurd (String.toList_eq_nil_iff.mp isName) some
    | cons c rest => exact ⟨c, rest, rfl⟩
  rw [isName] at noDots all
  refine .named isName ?_ ?_
  · intro behind
    obtain ⟨notSpace, other⟩ := all c (List.mem_cons_self ..)
    simp only [List.mem_cons, List.not_mem_nil, or_false, not_or] at other
    rw [ready.first here notSpace (by simp [other])]
    have notDot : c ≠ '.' := by simpa using noDots
    simp only [stepBeforeAttribute, notSpace]
    split <;> simp_all
  · intro other member held place behind
    obtain ⟨notSpace, fits⟩ := all other (List.mem_cons_of_mem _ member)
    simp only [List.mem_cons, List.not_mem_nil, or_false, not_or] at fits
    simp [step, notSpace, fits]

/-- A quoted value is read up to its quote. -/
theorem Reads.quoted {quote : Char} {text : String} (isQuote : quote ∈ ['"', '\''])
    (absent : quote ∉ text.toList) (start here : Location) (name : String)
    : Reads (.attributeName start name) here
        (.char '=' :: .char quote :: chars text ++ [.char quote])
        [.attribute name (.literal text) start] .afterValue := by
  have opens (place : Location) (rest : List Char)
      : step (.beforeValue start name) place quote rest
        = .ok ([], .quotedValue quote start name "") := by
    simp only [List.mem_cons, List.not_mem_nil, or_false] at isQuote
    rcases isQuote with rfl | rfl <;> rfl
  have grows
      : ∀ c ∈ text.toList,
          ∀ held place rest,
            step (.quotedValue quote start name held) place c rest
            = .ok ([], .quotedValue quote start name (held.push c)) := by
    intro c member held place rest
    have differs : c ≠ quote := fun same => absent (same ▸ member)
    simp [step, differs]
  have closes (place : Location) (rest : List Char)
      : step (.quotedValue quote start name text) place quote rest
        = .ok ([.attribute name (.literal text) start], .afterValue) := by
    simp [step]
  have value := Reads.run grows "" (past here [.char '=', .char quote])
  rw [String.empty_append] at value
  have whole := value.append (.one (closes _))
  exact .quiet (fun _ => rfl) (.quiet (opens _) whole)

namespace Attribute

/-- An attribute is read where one may begin. -/
theorem settles {one : Attribute} (legal : one.Legal) {mode : Mode} (ready : Canonical.Ready mode)
    (here : Location)
    : ∃ next, Apart next ∧ Settles mode here one.glyphs [one.token here] next := by
  cases one with
  | literal quote name text =>
      obtain ⟨isName, isQuote, absent⟩ := legal
      have reads := (ready.name here isName).append (.quoted isQuote absent here _ name)
      refine ⟨.afterValue, .afterValue, _, ?_, List.append_nil _⟩
      simpa only [glyphs, token, List.append_assoc, List.cons_append] using reads
  | bare name =>
      refine ⟨.attributeName here name, .attributeName here name, _, ready.name here legal, ?_⟩
      rfl
  | interpolated name =>
      refine ⟨.afterValue, .afterValue, _, (ready.name here legal).append ?_, List.append_nil _⟩
      have slot : (Glyph.past (past here (chars name)) (.char '=')).fragment = here.fragment :=
        fragment_past_chars here name
      refine .quiet (fun _ => rfl) (.slot ?_)
      rw [slot]
      rfl
  | spread =>
      have dots
          : Reads (.spread here 1) (past here [.char '.'])
              [.char '.', .char '.', .boundary] [.spread here.fragment here] .afterValue :=
        .quiet (fun _ => rfl) (.quiet (fun _ => rfl) (.slot rfl))
      refine ⟨.afterValue, .afterValue, _, .char (fun rest => ?_) dots, List.append_nil _⟩
      exact ready.first here rfl (by decide) rest
  | dynamicName =>
      cases ready with
      | beforeAttribute => exact ⟨.afterValue, .afterValue, _, .slot rfl, rfl⟩
      | afterAttributeName start name => exact ⟨.afterValue, .afterValue, _, .slot rfl, rfl⟩

/-- Attributes are read one after another, by induction on them. -/
theorem settles_written {attributes : List Attribute} (legal : ∀ one ∈ attributes, one.Legal)
    {mode : Mode} (apart : Apart mode) (here : Location)
    : ∃ next,
        Apart next ∧ Settles mode here (written attributes) (tokens here attributes) next := by
  induction attributes generalizing mode here with
  | nil => exact ⟨mode, apart, [], .nothing, by simp [written, tokens, past]⟩
  | cons first rest ih =>
      obtain ⟨middle, ready, space⟩ := apart.space here
      obtain ⟨behind, apart', reads⟩ :=
        settles (legal first (List.mem_cons_self ..)) ready (past here [.char ' '])
      have both := space.append reads
      obtain ⟨next, apart'', others⟩ :=
        ih (fun one member => legal one (List.mem_cons_of_mem _ member)) apart'
          (past here ([.char ' '] ++ first.glyphs))
      have whole := both.append others
      rw [past_append] at whole
      exact ⟨next, apart'', by simpa [written, tokens] using whole⟩

end Attribute

namespace Item

/-- The name of an open tag is read as a whole. -/
theorem reads_name {name : String} (legal : LegalTagName name) (run : String) (offset : Nat)
    (here : Location)
    : Reads (.text run offset) here (.char '<' :: chars name)
        (textTokens run { here with offset }) (.tagName here name) := by
  obtain ⟨isLetter, all⟩ := legal
  obtain ⟨c, rest, isName⟩ : ∃ c rest, name.toList = c :: rest := by
    cases isName : name.toList with
    | nil => simp [isName] at isLetter
    | cons c rest => exact ⟨c, rest, rfl⟩
  rw [isName] at isLetter all
  have letter : Html.isLetter c = true := by simpa using isLetter
  have name
      : Reads (.tagStart here) (Glyph.past here (.char '<')) (chars name) []
          (.tagName here name) := by
    refine .named isName ?_ ?_
    · intro behind
      have notSlash : c ≠ '/' := by
        rintro rfl
        cases letter
      have notEnd : c ≠ '>' := by
        rintro rfl
        cases letter
      have notMark : c ≠ '!' := by
        rintro rfl
        cases letter
      simp [step, notSlash, notEnd, notMark, letter]
    · intro other member held place behind
      obtain ⟨notSpace, fits⟩ := all other member
      simp only [List.mem_cons, List.not_mem_nil, or_false, not_or] at fits
      simp [step, notSpace, fits]
  simpa only [List.append_nil]
    using Reads.char (fun _ => (rfl : step (.text run offset) here '<' _ = _)) name

theorem settles_openTag {name : String} {attributes : List Attribute} {selfClosing : Bool}
    (legal : (openTag name attributes selfClosing).Legal) (run : String) (offset : Nat)
    (here : Location)
    : Settles (.text run offset) here (openTag name attributes selfClosing).glyphs
        ((openTag name attributes selfClosing).tokens here)
        (.text "" (past here (openTag name attributes selfClosing).glyphs).offset) := by
  obtain ⟨isName, all⟩ := legal
  have begins
      : Settles (.text run offset) here (.char '<' :: chars name) [.openTag name here]
          (.tagName here name) :=
    ⟨_, reads_name isName run offset here, rfl⟩
  obtain ⟨mode, apart, reads⟩ :=
    Attribute.settles_written all (.tagName here name) (past here (.char '<' :: chars name))
  have inside := begins.append reads
  have whole := inside.append (apart.ending _ selfClosing)
  rw [← past_append] at whole
  exact whole

theorem settles_closeTag {name : String} (legal : (closeTag name).Legal) (run : String)
    (offset : Nat) (here : Location)
    : Settles (.text run offset) here (closeTag name).glyphs ((closeTag name).tokens here)
        (.text "" (past here (closeTag name).glyphs).offset) := by
  obtain ⟨some, all⟩ := legal
  have grows
      : ∀ c ∈ name.toList,
          ∀ held place rest,
            step (.closingName here held) place c rest
            = .ok ([], .closingName here (held.push c)) := by
    intro c member held place rest
    obtain ⟨notSpace, notEnd⟩ := all c member
    simp [step, notSpace, notEnd]
  have closes (place : Location) (rest : List Char)
      : step (.closingName here name) place '>' rest
        = .ok ([.closeTag name here], .text "" (Glyph.past place (.char '>')).offset) := by
    simp [step, some, textAfter, Glyph.past]
  have inside := Reads.run grows "" (past here [.char '<', .char '/'])
  rw [String.empty_append] at inside
  have whole := inside.append (.one (closes _))
  have begins (others : List Char)
      : step (.text run offset) here '<' others
        = .ok (textTokens run { here with offset }, .tagStart here) := rfl
  have reads := Reads.char begins (.quiet (fun _ => rfl) whole)
  have last
      : (Glyph.past (past (past here [.char '<', .char '/']) (chars name)) (.char '>'))
        = past here (closeTag name).glyphs := by
    simp [glyphs, past]
  rw [last] at reads
  exact ⟨_, reads, List.append_nil _⟩

end Item

-----------------------------------------------------------------------------------------
-- Whole templates
-----------------------------------------------------------------------------------------

/-- An item is read where text may stand. It may be a text only if no other one is held back. -/
theorem Item.settles {item : Item} (legal : item.Legal) (run : String) (offset : Nat)
    (here : Location) (free : item.isText = true → run = "" ∧ offset = here.offset)
    : ∃ held start,
        Settles (.text run offset) here item.glyphs (item.tokens here) (.text held start)
        ∧ (item.isText = false → held = "" ∧ start = (past here item.glyphs).offset) := by
  cases item with
  | text raw =>
      obtain ⟨rfl, rfl⟩ := free rfl
      obtain ⟨some, plain⟩ := legal
      have grows
          : ∀ c ∈ raw.toList,
              ∀ held place rest,
                step (.text held here.offset) place c rest
                = .ok ([], .text (held.push c) here.offset) := by
        intro c member held place rest
        have differs : c ≠ '<' := fun same => plain (same ▸ member)
        simp [step, differs]
      have reads := Reads.run grows "" here
      rw [String.empty_append] at reads
      refine ⟨raw, here.offset, ⟨[], reads, ?_⟩, by simp [Item.isText]⟩
      simp [pending, textTokens, some, fragment_past_chars, tokens, glyphs]
  | child =>
      exact ⟨"", 0, ⟨_, .slot rfl, List.append_nil _⟩, fun _ => ⟨rfl, rfl⟩⟩
  | closeTag name =>
      exact ⟨"", _, settles_closeTag legal run offset here, fun _ => ⟨rfl, rfl⟩⟩
  | openTag name attributes selfClosing =>
      exact ⟨"", _, settles_openTag legal run offset here, fun _ => ⟨rfl, rfl⟩⟩

/-- Items are read one after another, by induction on them. Between two of them the scanner is
at a place where text may stand, and it holds a text back only if the first one is a text.
-/
theorem settles_items {items : List Item} (legal : Legal items) (run : String) (offset : Nat)
    (here : Location)
    (free : ∀ item ∈ items.head?, item.isText = true → run = "" ∧ offset = here.offset)
    : ∃ held start,
        Settles (.text run offset) here (items.flatMap Item.glyphs) (tokens here items)
          (.text held start) := by
  induction items generalizing run offset here with
  | nil => exact ⟨run, offset, [], .nothing, by simp [tokens, past]⟩
  | cons first rest ih =>
      obtain ⟨held, start, reads, idle⟩ :=
        Item.settles (legal.each first (List.mem_cons_self ..)) run offset here
          (free first rfl)
      obtain ⟨alone, apart⟩ := List.isChain_cons.mp legal.apart
      have others : Legal rest :=
        ⟨fun item member => legal.each item (List.mem_cons_of_mem _ member), apart⟩
      have free' (second : Item) (isSecond : second ∈ rest.head?) (isText : second.isText = true)
          : held = "" ∧ start = (past here first.glyphs).offset := by
        apply idle
        simpa [isText] using alone second isSecond
      obtain ⟨last, start', reads'⟩ := ih others held start (past here first.glyphs) free'
      exact ⟨last, start', reads.append reads'⟩

end Canonical

/-- Scanning items in their canonical spelling gives exactly their tokens, each at the place
where it was written and with the slots counted in order.
-/
theorem Token.scan_print {items : List Canonical.Item} (legal : Canonical.Legal items)
    : scan (Canonical.print items) = ⟨Canonical.tokens ⟨0, 0⟩ items, .ok ()⟩
      ∧ (Canonical.tokens ⟨0, 0⟩ items).filterMap slot?
        = List.range ((Canonical.print items).length - 1) := by
  obtain ⟨held, start, emitted, reads, same⟩ :=
    Canonical.settles_items legal "" 0 ⟨0, 0⟩ (fun _ _ _ => ⟨rfl, rfl⟩)
  have scanned : scan (Canonical.print items) = ⟨Canonical.tokens ⟨0, 0⟩ items, .ok ()⟩ := by
    have all
        : emitted ++ Scanner.textTokens held ⟨_, start⟩ = Canonical.tokens ⟨0, 0⟩ items := same
    rw [scan, Canonical.print, Canonical.fragments, Canonical.scanFragments_eq,
      String.toList_ofList, ← all]
    exact reads.resume
  refine ⟨scanned, ?_⟩
  have slots := @scan_slots (Canonical.print items) (by rw [scanned])
  rwa [scanned] at slots

/-- Items of each kind, with attributes of each kind: a literal value that needs single quotes, a
bare name before an interpolated one, and a bare name before the slash.
-/
theorem Token.scan_print_each_kind
    : let items : List Canonical.Item :=
        [.text "a > b", .child,
          .openTag "p"
            [.literal '\'' "title" "\"<i>\"", .bare "hidden", .dynamicName, .interpolated "id",
              .spread, .bare "x"]
            true,
          .closeTag "q"]
      Canonical.Legal items
      ∧ Canonical.print items
        = ["a > b", "<p title='\"<i>\"' hidden ", " id=", " ...", " x/></q>"]
      ∧ scan ["a > b", "<p title='\"<i>\"' hidden ", " id=", " ...", " x/></q>"]
        = ⟨[.text "a > b" ⟨0, 0⟩, .child 0 ⟨0, 5⟩, .openTag "p" ⟨1, 0⟩,
              .attribute "title" (.literal "\"<i>\"") ⟨1, 3⟩, .attribute "hidden" .bare ⟨1, 17⟩,
              .dynamicName 1 ⟨1, 24⟩, .attribute "id" (.slot 2) ⟨2, 1⟩, .spread 3 ⟨3, 1⟩,
              .attribute "x" .bare ⟨4, 1⟩, .openEnd true, .closeTag "q" ⟨4, 4⟩],
            .ok ()⟩ := by
  intro items
  have legal : Canonical.Legal items := ⟨by decide, by decide⟩
  have printed
      : Canonical.print items
        = ["a > b", "<p title='\"<i>\"' hidden ", " id=", " ...", " x/></q>"] := by
    decide
  refine ⟨legal, printed, ?_⟩
  rw [← printed, (scan_print legal).1]
  exact congrArg (Scanner.Scanned.mk · (.ok ())) (by decide +kernel)

end TaggedMarkup
