import TaggedMarkup.Token.Scanner

/-! Tokens come in an order. Attributes stand between the beginning and the end of an open tag
and nowhere else, and every closing tag has a place of its own.
-/

namespace TaggedMarkup

-----------------------------------------------------------------------------------------
-- Places
-----------------------------------------------------------------------------------------

namespace Location

def Before (first second : Location) : Prop :=
  first.fragment < second.fragment
  ∨ first.fragment = second.fragment ∧ first.offset < second.offset

theorem Before.irrefl (location : Location) : ¬ location.Before location := by
  simp [Before]

/-- What stands before a place does not stand after a later one. -/
theorem Before.trans_not {first second third : Location} (before : first.Before second)
    (notAfter : ¬ third.Before second)
    : first.Before third := by
  simp only [Before] at *
  omega

/-- A later place does not stand before an earlier one. -/
theorem Before.asymm {first second : Location} (before : first.Before second)
    : ¬ second.Before first := by
  simp only [Before] at *
  omega

theorem not_before_trans {first second third : Location} (notAfter : ¬ second.Before first)
    (notAfter' : ¬ third.Before second)
    : ¬ third.Before first := by
  simp only [Before] at *
  omega

theorem before_next (location : Location) (c : Char)
    : location.Before { location with offset := location.offset + c.utf8Size } :=
  .inr ⟨rfl, Nat.lt_add_of_pos_right c.utf8Size_pos⟩

end Location

namespace Token

/-- Whether an open tag is being read after the token. The token must not stand anywhere
else.
-/
def after? (inTag : Bool) : Token → Option Bool
  | .openTag .. => if inTag then none else some true
  | .openEnd _ => if inTag then some false else none
  | .attribute .. | .spread .. | .dynamicName .. => if inTag then some true else none
  | .text .. | .closeTag .. | .child .. => if inTag then none else some false
  | .ignored _ => some inTag

def closing? : Token → Option Location
  | .closeTag _ location => some location
  | _ => none

/-- The closing tags among some tokens stand between two places, one after another. -/
structure Between (low high : Location) (tokens : List Token) : Prop where
  ordered : ¬ high.Before low
  inside
    : ∀ token ∈ tokens, ∀ location,
        token.closing? = some location → ¬ location.Before low ∧ location.Before high
  apart
    : tokens.Pairwise fun first second =>
        ∀ location other,
          first.closing? = some location
          → second.closing? = some other
          → location.Before other

namespace Between

variable {low middle high : Location} {tokens others : List Token}

/-- Tokens without a closing tag stand between any two places. -/
theorem none (ordered : ¬ high.Before low) (free : ∀ token ∈ tokens, token.closing? = none)
    : Between low high tokens where
  ordered := ordered
  inside token member location same := by simp [free token member] at same
  apart := by
    refine List.Pairwise.imp_of_mem ?_
      (List.pairwise_of_forall fun _ _ => trivial : tokens.Pairwise fun _ _ => True)
    intro _ _ member _ _ location _ same
    simp [free _ member] at same

theorem closing (before : low.Before high) (name : String)
    : Between low high [.closeTag name low] where
  ordered := before.asymm
  inside token member location same := by
    obtain rfl := List.mem_singleton.mp member
    obtain rfl := Option.some.inj same
    exact ⟨Location.Before.irrefl _, before⟩
  apart := List.pairwise_singleton ..

theorem append (first : Between low middle tokens) (second : Between middle high others)
    : Between low high (tokens ++ others) where
  ordered := Location.not_before_trans first.ordered second.ordered
  inside token member location same := by
    rcases List.mem_append.mp member with early | late
    · obtain ⟨notBefore, before⟩ := first.inside token early location same
      exact ⟨notBefore, before.trans_not second.ordered⟩
    · obtain ⟨notBefore, before⟩ := second.inside token late location same
      exact ⟨Location.not_before_trans first.ordered notBefore, before⟩
  apart := by
    refine List.pairwise_append.mpr ⟨first.apart, second.apart, ?_⟩
    intro early member late member' location other same same'
    exact (first.inside early member location same).2.trans_not
      (second.inside late member' other same').1

/-- Two closing tags at one place are the same. -/
theorem unique (between : Between low high tokens) {first second : Token}
    {location : Location} (member : first ∈ tokens) (member' : second ∈ tokens)
    (here : first.closing? = some location) (here' : second.closing? = some location)
    : first = second := by
  obtain ⟨i, inside, rfl⟩ := List.getElem_of_mem member
  obtain ⟨j, inside', rfl⟩ := List.getElem_of_mem member'
  have apart := List.pairwise_iff_getElem.mp between.apart
  rcases Nat.lt_trichotomy i j with less | equal | more
  · exact absurd (apart i j inside inside' less location location here here')
      (Location.Before.irrefl _)
  · simp only [equal]
  · exact absurd (apart j i inside' inside more location location here' here)
      (Location.Before.irrefl _)

end Between

end Token

-----------------------------------------------------------------------------------------
-- Modes
-----------------------------------------------------------------------------------------

namespace Scanner

/-- Whether an open tag has begun and has not ended. -/
def Mode.inTag : Mode → Bool
  | .text .. | .tagStart _ | .tagName .. | .closingName .. | .closingEnd .. => false
  | .commentStart _ | .comment _ => false
  | _ => true

/-- Where the closing tag that is being read began. -/
def Mode.closingStart? : Mode → Option Location
  | .tagStart start | .closingName start _ | .closingEnd start _ => some start
  | _ => none

/-- Where the next closing tag can stand at the earliest. -/
def Mode.floor (mode : Mode) (here : Location) : Location :=
  mode.closingStart?.getD here

/-- A closing tag that is being read began before the present place. -/
def Mode.Started (mode : Mode) (here : Location) : Prop :=
  ∀ start, mode.closingStart? = some start → start.Before here

/-- What a step from `low` to `high` comes to: tokens in order, with their closing tags between
the two places, and a mode that goes on from there.
-/
structure Moves (inTag : Bool) (low high : Location) (tokens : List Token) (next : Mode)
    : Prop where
  order : tokens.foldlM Token.after? inTag = some next.inTag
  between : Token.Between low (next.floor high) tokens
  started : next.Started high

/-- An outcome moves from one place to another one unless it is a failure. -/
def Leads (inTag : Bool) (low high : Location) (outcome : Outcome) : Prop :=
  ∀ tokens next, outcome = .ok (tokens, next) → Moves inTag low high tokens next

namespace Leads

variable {inTag : Bool} {low high : Location}

theorem error (error : Error) : Leads inTag low high (.error error) :=
  fun _ _ same => nomatch same

/-- Tokens without a closing tag, and a mode that does not read one. -/
theorem quiet {tokens : List Token} {next : Mode} (ordered : ¬ high.Before low)
    (order : tokens.foldlM Token.after? inTag = some next.inTag)
    (free : ∀ token ∈ tokens, token.closing? = none) (idle : next.closingStart? = none)
    : Leads inTag low high (.ok (tokens, next)) := by
  intro tokens' next' same
  obtain ⟨rfl, rfl⟩ := Prod.mk.inj (Except.ok.inj same)
  refine ⟨order, ?_, fun start same => by simp [idle] at same⟩
  simpa only [Mode.floor, idle, Option.getD_none] using Token.Between.none ordered free

/-- Tokens without a closing tag, and a mode that reads one from the lower place on. -/
theorem reading {tokens : List Token} {next : Mode} (before : low.Before high)
    (order : tokens.foldlM Token.after? inTag = some next.inTag)
    (free : ∀ token ∈ tokens, token.closing? = none) (start : next.closingStart? = some low)
    : Leads inTag low high (.ok (tokens, next)) := by
  intro tokens' next' same
  obtain ⟨rfl, rfl⟩ := Prod.mk.inj (Except.ok.inj same)
  refine ⟨order, ?_, ?_⟩
  · simpa only [Mode.floor, start, Option.getD_some]
      using Token.Between.none (Location.Before.irrefl low) free
  · intro other same
    exact Option.some.inj (start.symm.trans same) ▸ before

/-- The closing tag that began at the lower place. -/
theorem closing (before : low.Before high) (name : String) (run : String) (offset : Nat)
    : Leads false low high (.ok ([.closeTag name low], .text run offset)) := by
  intro tokens' next' same
  obtain ⟨rfl, rfl⟩ := Prod.mk.inj (Except.ok.inj same)
  exact ⟨rfl, Token.Between.closing before name, fun _ same => nomatch same⟩

theorem endTag {tokens : List Token} {here : Location} {c : Char} (ordered : ¬ high.Before low)
    (order : tokens.foldlM Token.after? inTag = some true)
    (free : ∀ token ∈ tokens, token.closing? = none) (selfClosing : Bool)
    : Leads inTag low high (Scanner.endTag tokens selfClosing here c) := by
  refine quiet ordered ?_ ?_ rfl
  · simp only [List.foldlM_append, order]
    rfl
  · intro token member
    rcases List.mem_append.mp member with early | last
    · exact free token early
    · obtain rfl := List.mem_singleton.mp last
      rfl

theorem stepBeforeAttribute {tokens : List Token} {here : Location} {c : Char}
    (ordered : ¬ high.Before low) (order : tokens.foldlM Token.after? inTag = some true)
    (free : ∀ token ∈ tokens, token.closing? = none)
    : Leads inTag low high (Scanner.stepBeforeAttribute tokens here c) := by
  simp only [Scanner.stepBeforeAttribute]
  split
  · exact quiet ordered order free rfl
  split
  · exact endTag ordered order free false
  all_goals first | exact error _ | exact quiet ordered order free rfl

end Leads

/-- Literal text is a token without a closing tag, or none. -/
theorem textTokens_order (run : String) (location : Location)
    : (textTokens run location).foldlM Token.after? false = some false
      ∧ ∀ token ∈ textTokens run location, token.closing? = none := by
  simp only [textTokens]
  split
  · exact ⟨rfl, by simp⟩
  · exact ⟨rfl, by simp [Token.closing?]⟩

/-- One character leads from the earliest place of the next closing tag to a later one. -/
theorem step_leads (mode : Mode) (here : Location) (c : Char) (rest : List Char)
    (started : mode.Started here)
    : Leads mode.inTag (mode.floor here) { here with offset := here.offset + c.utf8Size }
        (step mode here c rest) := by
  have moved := here.before_next c
  have ordered := moved.asymm
  cases mode with
  | text run offset =>
      obtain ⟨order, free⟩ := textTokens_order run { here with offset }
      simp only [step]
      split
      · exact .reading moved order free rfl
      · exact .quiet ordered rfl (by simp) rfl
  | tagStart start =>
      have before := (started start rfl).trans_not ordered
      simp only [step]
      split
      · exact .reading before rfl (by simp) rfl
      split
      · exact .endTag before.asymm rfl (by simp [Token.closing?]) false
      split
      · split
        · exact .quiet before.asymm rfl (by simp) rfl
        · exact .error _
      split
      · exact .quiet before.asymm rfl (by simp) rfl
      · exact .error _
  | tagName start name =>
      simp only [step]
      split
      · exact .stepBeforeAttribute ordered rfl (by simp [Token.closing?])
      · exact .quiet ordered rfl (by simp) rfl
  | selfClosing =>
      simp only [step]
      split
      · exact .endTag ordered rfl (by simp) true
      · exact .error _
  | closingName start name =>
      have before := (started start rfl).trans_not ordered
      simp only [step]
      split
      · exact .closing before _ _ _
      split
      · split
        · exact .reading before rfl (by simp) rfl
        · exact .reading before rfl (by simp) rfl
      · exact .reading before rfl (by simp) rfl
  | closingEnd start name =>
      have before := (started start rfl).trans_not ordered
      simp only [step]
      split
      · exact .closing before _ _ _
      split
      · exact .reading before rfl (by simp) rfl
      · exact .error _
  | beforeAttribute => exact .stepBeforeAttribute ordered rfl (by simp)
  | attributeName start name =>
      simp only [step]
      repeat' split
      all_goals first | exact .error _ | exact .quiet ordered rfl (by simp [Token.closing?]) rfl
  | afterAttributeName start name =>
      simp only [step]
      repeat' split
      all_goals
        first
        | exact .error _
        | exact .quiet ordered rfl (by simp) rfl
        | exact .stepBeforeAttribute ordered rfl (by simp [Token.closing?])
  | beforeValue start name =>
      simp only [step]
      repeat' split
      all_goals first | exact .error _ | exact .quiet ordered rfl (by simp) rfl
  | quotedValue quote start name value =>
      simp only [step]
      split <;> exact .quiet ordered rfl (by simp [Token.closing?]) rfl
  | unquotedValue start name value =>
      simp only [step]
      repeat' split
      all_goals first | exact .error _ | exact .quiet ordered rfl (by simp [Token.closing?]) rfl
  | afterValue =>
      simp only [step]
      repeat' split
      all_goals
        first
        | exact .error _
        | exact .endTag ordered rfl (by simp) false
        | exact .quiet ordered rfl (by simp) rfl
  | spread start dots =>
      simp only [step]
      split
      · exact .quiet ordered rfl (by simp) rfl
      · exact .error _
  | commentStart remaining =>
      simp only [step]
      split <;> exact .quiet ordered rfl (by simp) rfl
  | comment hyphens =>
      simp only [step]
      repeat' split
      all_goals exact .quiet ordered rfl (by simp) rfl

/-- The end of a fragment leads to the beginning of the next one. -/
theorem boundary_leads (mode : Mode) (fragment offset slot : Nat)
    : Leads mode.inTag (mode.floor ⟨fragment, offset⟩) ⟨fragment + 1, 0⟩
        (boundary mode fragment offset slot) := by
  have ordered : ¬ Location.Before ⟨fragment + 1, 0⟩ ⟨fragment, offset⟩ := by
    simp only [Location.Before]
    omega
  cases mode with
  | text run start =>
      obtain ⟨order, free⟩ := textTokens_order run ⟨fragment, start⟩
      refine .quiet ordered ?_ ?_ rfl
      · simp only [List.foldlM_append, Mode.inTag, order]
        rfl
      · intro token member
        rcases List.mem_append.mp member with early | last
        · exact free token early
        · obtain rfl := List.mem_singleton.mp last
          rfl
  | spread start dots =>
      simp only [boundary]
      split
      · exact .quiet ordered rfl (by simp [Token.closing?]) rfl
      · exact .error _
  | beforeValue | beforeAttribute | afterAttributeName | commentStart | comment =>
      exact .quiet ordered rfl (by simp [Token.closing?]) rfl
  | quotedValue | unquotedValue | tagStart | tagName | closingName | closingEnd | attributeName
  | afterValue | selfClosing =>
      exact .error _

-----------------------------------------------------------------------------------------
-- Whole templates
-----------------------------------------------------------------------------------------

namespace Moves

variable {inTag : Bool} {low : Location} {tokens : List Token} {mode : Mode}

theorem append {middle high : Location} {others : List Token} {next : Mode}
    (first : Moves inTag low middle tokens mode)
    (second : Moves mode.inTag (mode.floor middle) high others next)
    : Moves inTag low high (tokens ++ others) next where
  order := by
    rw [List.foldlM_append, first.order]
    exact second.order
  between := first.between.append second.between
  started := second.started

theorem refl {here : Location} (started : mode.Started here)
    : Moves mode.inTag (mode.floor here) here [] mode where
  order := rfl
  between := Token.Between.none (Location.Before.irrefl _) (by simp)
  started := started

end Moves

/-- The characters of a fragment are read in moves, by induction on them. -/
theorem scanChars_moves {fragment offset offset' : Nat} {mode reached : Mode}
    {chars : List Char} (started : mode.Started ⟨fragment, offset⟩)
    (scanned : (scanChars fragment mode offset chars).result = .ok (reached, offset'))
    : Moves mode.inTag (mode.floor ⟨fragment, offset⟩) ⟨fragment, offset'⟩
        (scanChars fragment mode offset chars).tokens reached := by
  induction chars generalizing mode offset with
  | nil =>
      obtain ⟨rfl, rfl⟩ := Prod.mk.inj (Except.ok.inj scanned)
      exact .refl started
  | cons c rest ih =>
      have leads := step_leads mode ⟨fragment, offset⟩ c rest started
      simp only [scanChars] at scanned ⊢
      split at scanned
      next => cases scanned
      next tokens next stepped =>
          have moves := leads tokens next stepped
          exact moves.append (ih moves.started scanned)

/-- The end of the last fragment is a move as well. -/
theorem finish_moves {mode : Mode} {fragment : Nat} {tokens : List Token} (offset : Nat)
    (finished : finish mode fragment = .ok tokens)
    : Moves mode.inTag (mode.floor ⟨fragment, offset⟩) ⟨fragment + 1, 0⟩ tokens .initial := by
  cases mode with
  | text run start =>
      obtain rfl := Except.ok.inj finished
      obtain ⟨order, free⟩ := textTokens_order run ⟨fragment, start⟩
      refine Leads.quiet ?_ order free rfl _ _ rfl
      simp only [Location.Before, Mode.floor, Mode.closingStart?, Option.getD_none]
      omega
  | _ => cases finished

-----------------------------------------------------------------------------------------
-- Whole templates
-----------------------------------------------------------------------------------------

/-- Fragments that are read to their end, with the tokens that they give. -/
inductive Reads : Nat → Mode → List String → List Token → Prop
  | none {fragment : Nat} {mode : Mode} {tokens : List Token}
    (finished : finish mode fragment = .ok tokens)
    : Reads fragment mode [] tokens
  | last {fragment offset : Nat} {mode reached : Mode} {first : String} {tokens : List Token}
    (scanned : (scanChars fragment mode 0 first.toList).result = .ok (reached, offset))
    (finished : finish reached fragment = .ok tokens)
    : Reads fragment mode [first] ((scanChars fragment mode 0 first.toList).tokens ++ tokens)
  | next {fragment offset : Nat} {mode reached next : Mode} {first second : String}
    {others : List String} {tokens following : List Token}
    (scanned : (scanChars fragment mode 0 first.toList).result = .ok (reached, offset))
    (passed : boundary reached fragment offset fragment = .ok (tokens, next))
    (rest : Reads (fragment + 1) next (second :: others) following)
    : Reads fragment mode (first :: second :: others)
        ((scanChars fragment mode 0 first.toList).tokens ++ tokens ++ following)

/-- Fragments that can be read are read to their end, by induction on them. -/
theorem scanFragments_reads {fragment : Nat} {mode : Mode} {fragments : List String}
    (scanned : (scanFragments fragment mode fragments).result = .ok ())
    : Reads fragment mode fragments (scanFragments fragment mode fragments).tokens := by
  induction fragments generalizing fragment mode with
  | nil =>
      simp only [scanFragments] at scanned ⊢
      split at scanned
      next => cases scanned
      next tokens finished => exact .none finished
  | cons first others ih =>
      cases others with
      | nil =>
          simp only [scanFragments] at scanned ⊢
          split at scanned
          next => cases scanned
          next reached offset read =>
              split at scanned
              next => cases scanned
              next tokens finished => exact .last read finished
      | cons second others =>
          simp only [scanFragments] at scanned ⊢
          split at scanned
          next => cases scanned
          next reached offset read =>
              split at scanned
              next => cases scanned
              next tokens next passed => exact .next read passed (ih scanned)

namespace Reads

variable {fragment : Nat} {mode : Mode} {fragments : List String} {tokens : List Token}

theorem scanFragments_eq (reads : Reads fragment mode fragments tokens)
    : scanFragments fragment mode fragments = ⟨tokens, .ok ()⟩ := by
  induction reads with
  | none finished => simp only [scanFragments, finished]
  | last scanned finished => simp only [scanFragments, scanned, finished]
  | next scanned passed _ ih => simp only [scanFragments, scanned, passed, ih]

/-- The fragments of a template are read in moves that end outside of all tags. -/
theorem moves (reads : Reads fragment mode fragments tokens)
    (started : mode.Started ⟨fragment, 0⟩)
    : ∃ high, Moves mode.inTag (mode.floor ⟨fragment, 0⟩) high tokens .initial := by
  induction reads with
  | none finished => exact ⟨_, finish_moves 0 finished⟩
  | last scanned finished =>
      exact ⟨_, (scanChars_moves started scanned).append (finish_moves _ finished)⟩
  | @next fragment offset _ reached next _ _ _ tokens _ scanned passed _ ih =>
      have crossed := boundary_leads reached fragment offset fragment tokens next passed
      obtain ⟨high, following⟩ := ih crossed.started
      exact ⟨high, ((scanChars_moves started scanned).append crossed).append following⟩

end Reads

end Scanner

namespace Token

/-- The tokens of a template that can be read are read in moves. -/
theorem scan_moves {fragments : List String} (scanned : (scan fragments).result = .ok ())
    : ∃ high, Scanner.Moves false ⟨0, 0⟩ high (scan fragments).tokens .initial := by
  have started : Scanner.Mode.initial.Started ⟨0, 0⟩ := by
    intro start same
    simp [Scanner.Mode.initial, Scanner.Mode.closingStart?] at same
  exact (Scanner.scanFragments_reads scanned).moves started

/-- Two closing tags of a template at one place are the same. -/
theorem scan_closing_unique {fragments : List String} {name other : String}
    {location : Location} (scanned : (scan fragments).result = .ok ())
    (member : .closeTag name location ∈ (scan fragments).tokens)
    (member' : .closeTag other location ∈ (scan fragments).tokens)
    : name = other := by
  obtain ⟨high, moves⟩ := scan_moves scanned
  have same := moves.between.unique member member' rfl rfl
  exact (Token.closeTag.inj same).1

end Token

end TaggedMarkup
