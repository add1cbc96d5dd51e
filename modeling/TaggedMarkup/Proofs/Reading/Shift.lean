import TaggedMarkup.Proofs.Reading.Slots

/-! A template that is read behind other fragments gives the same tokens, with the numbers of
its fragments and of its slots moved on. No state of the scanner passes from one template to the
next when an interpolated child stands between them.
-/

namespace TaggedMarkup

-----------------------------------------------------------------------------------------
-- Tokens behind other fragments
-----------------------------------------------------------------------------------------

def Location.shifted (fragments : Nat) (location : Location) : Location :=
  { location with fragment := fragments + location.fragment }

/-- Slots are numbered as the fragments before them are. -/
def AttributeValue.shifted (fragments : Nat) : AttributeValue → AttributeValue
  | .slot index => .slot (fragments + index)
  | value => value

def Token.shifted (fragments : Nat) : Token → Token
  | .text raw location => .text raw (location.shifted fragments)
  | .openTag name location => .openTag name (location.shifted fragments)
  | .openEnd selfClosing => .openEnd selfClosing
  | .closeTag name location => .closeTag name (location.shifted fragments)
  | .attribute name value location =>
      .attribute name (value.shifted fragments) (location.shifted fragments)
  | .spread slot location => .spread (fragments + slot) (location.shifted fragments)
  | .dynamicName slot location => .dynamicName (fragments + slot) (location.shifted fragments)
  | .child slot location => .child (fragments + slot) (location.shifted fragments)
  | .ignored slot => .ignored (fragments + slot)

@[simp]
theorem Location.shifted_zero : Location.shifted 0 = id := by
  funext location
  simp [Location.shifted]

@[simp]
theorem AttributeValue.shifted_zero : AttributeValue.shifted 0 = id := by
  funext value
  cases value <;> simp [AttributeValue.shifted]

/-- Behind no fragments a token is as it was. -/
@[simp]
theorem Token.shifted_zero : Token.shifted 0 = id := by
  funext token
  cases token <;> simp [Token.shifted]

namespace Scanner

/-- The mode in which the same is being read behind other fragments. -/
def Mode.shifted (fragments : Nat) : Mode → Mode
  | .tagStart start => .tagStart (start.shifted fragments)
  | .tagName start name => .tagName (start.shifted fragments) name
  | .closingName start name => .closingName (start.shifted fragments) name
  | .closingEnd start name => .closingEnd (start.shifted fragments) name
  | .attributeName start name => .attributeName (start.shifted fragments) name
  | .afterAttributeName start name => .afterAttributeName (start.shifted fragments) name
  | .beforeValue start name => .beforeValue (start.shifted fragments) name
  | .quotedValue quote start name value =>
      .quotedValue quote (start.shifted fragments) name value
  | .unquotedValue start name value => .unquotedValue (start.shifted fragments) name value
  | .spread start dots => .spread (start.shifted fragments) dots
  | mode => mode

/-- What one outcome reads, the other one reads behind other fragments. -/
def Shifts (fragments : Nat) (outcome behind : Outcome) : Prop :=
  ∀ tokens next,
    outcome = .ok (tokens, next)
    → behind = .ok (tokens.map (Token.shifted fragments), next.shifted fragments)

namespace Shifts

variable {fragments : Nat}

theorem error (error : Error) (behind : Outcome) : Shifts fragments (.error error) behind :=
  fun _ _ same => nomatch same

theorem ok {tokens behind : List Token} {next reached : Mode}
    (isTokens : behind = tokens.map (Token.shifted fragments))
    (isNext : reached = next.shifted fragments)
    : Shifts fragments (.ok (tokens, next)) (.ok (behind, reached)) := by
  intro tokens' next' same
  obtain ⟨rfl, rfl⟩ := Prod.mk.inj (Except.ok.inj same)
  rw [isTokens, isNext]

theorem endTag {tokens behind : List Token}
    (isTokens : behind = tokens.map (Token.shifted fragments)) (selfClosing : Bool)
    (here : Location) (c : Char)
    : Shifts fragments (Scanner.endTag tokens selfClosing here c)
        (Scanner.endTag behind selfClosing (here.shifted fragments) c) := by
  refine ok ?_ rfl
  rw [List.map_append, isTokens]
  rfl

theorem stepBeforeAttribute {tokens behind : List Token}
    (isTokens : behind = tokens.map (Token.shifted fragments)) (here : Location) (c : Char)
    : Shifts fragments (Scanner.stepBeforeAttribute tokens here c)
        (Scanner.stepBeforeAttribute behind (here.shifted fragments) c) := by
  simp only [Scanner.stepBeforeAttribute]
  split
  · exact ok isTokens rfl
  split
  · exact endTag isTokens false here _
  all_goals first | exact error _ _ | exact ok isTokens rfl

end Shifts

theorem textTokens_shifted (fragments : Nat) (run : String) (location : Location)
    : textTokens run (location.shifted fragments)
      = (textTokens run location).map (Token.shifted fragments) := by
  simp only [textTokens]
  split <;> rfl

/-- A character is read behind other fragments as it is read without them. -/
theorem step_shifts (fragments : Nat) (mode : Mode) (here : Location) (c : Char)
    (rest : List Char)
    : Shifts fragments (step mode here c rest)
        (step (mode.shifted fragments) (here.shifted fragments) c rest) := by
  cases mode with
  | text run offset =>
      simp only [step, Mode.shifted]
      split
      · exact .ok (textTokens_shifted fragments run { here with offset }) rfl
      · exact .ok rfl rfl
  | beforeAttribute => exact .stepBeforeAttribute rfl here c
  | _ =>
      simp only [step, Mode.shifted]
      repeat' split
      all_goals
        first
        | exact .error _ _
        | exact .ok rfl rfl
        | exact .endTag rfl _ here c
        | exact .stepBeforeAttribute rfl here c

/-- The end of a fragment is read behind other fragments as it is read without them. -/
theorem boundary_shifts (fragments : Nat) (mode : Mode) (fragment offset slot : Nat)
    : Shifts fragments (boundary mode fragment offset slot)
        (boundary (mode.shifted fragments) (fragments + fragment) offset (fragments + slot)) := by
  cases mode with
  | text run start =>
      refine .ok ?_ rfl
      rw [List.map_append, ← textTokens_shifted]
      rfl
  | spread start dots =>
      simp only [boundary, Mode.shifted]
      split
      · exact .ok rfl rfl
      · exact .error _ _
  | beforeValue | beforeAttribute | afterAttributeName | commentStart | comment =>
      exact .ok rfl rfl
  | _ => exact .error _ _

theorem finish_shifts (fragments : Nat) {mode : Mode} {fragment : Nat} {tokens : List Token}
    (finished : finish mode fragment = .ok tokens)
    : finish (mode.shifted fragments) (fragments + fragment)
      = .ok (tokens.map (Token.shifted fragments)) := by
  cases mode with
  | text run start =>
      obtain rfl := Except.ok.inj finished
      exact congrArg Except.ok (textTokens_shifted fragments run ⟨fragment, start⟩)
  | _ => cases finished

/-- The characters of a fragment are read behind other fragments as they are read without them,
by induction on the characters.
-/
theorem scanChars_shifts (fragments : Nat) {fragment offset offset' : Nat} {mode reached : Mode}
    {chars : List Char}
    (scanned : (scanChars fragment mode offset chars).result = .ok (reached, offset'))
    : scanChars (fragments + fragment) (mode.shifted fragments) offset chars
      = ⟨(scanChars fragment mode offset chars).tokens.map (Token.shifted fragments),
          .ok (reached.shifted fragments, offset')⟩ := by
  induction chars generalizing mode offset with
  | nil =>
      obtain ⟨rfl, rfl⟩ := Prod.mk.inj (Except.ok.inj scanned)
      rfl
  | cons c rest ih =>
      have shifts := step_shifts fragments mode ⟨fragment, offset⟩ c rest
      simp only [scanChars] at scanned ⊢
      split at scanned
      next => cases scanned
      next tokens next stepped =>
          have stepped' := shifts tokens next stepped
          simp only [Location.shifted] at stepped'
          simp only [stepped', ih scanned, List.map_append]

/-- A template is read behind other fragments as it is read without them. -/
theorem Reads.shifts (before : Nat) {fragment : Nat} {mode : Mode} {fragments : List String}
    {tokens : List Token} (reads : Reads fragment mode fragments tokens)
    : Reads (before + fragment) (mode.shifted before) fragments
        (tokens.map (Token.shifted before)) := by
  induction reads with
  | none finished => exact .none (finish_shifts before finished)
  | last scanned finished =>
      have same := scanChars_shifts before scanned
      have behind := Reads.last (congrArg Scanned.result same) (finish_shifts before finished)
      simpa only [same, List.map_append] using behind
  | @next fragment offset _ reached next _ _ _ tokens _ scanned passed _ ih =>
      have same := scanChars_shifts before scanned
      have passed' := boundary_shifts before reached fragment offset fragment tokens next passed
      rw [← Nat.add_assoc] at ih
      have behind := Reads.next (congrArg Scanned.result same) passed' ih
      simpa only [same, List.map_append] using behind

-----------------------------------------------------------------------------------------
-- Templates behind one another
-----------------------------------------------------------------------------------------

/-- Where a template could end, an interpolated value is a child, and after it the scanner is in
the mode in which a template begins.
-/
theorem boundary_of_finish {mode : Mode} {fragment : Nat} {tokens : List Token}
    (offset slot : Nat) (finished : finish mode fragment = .ok tokens)
    : boundary mode fragment offset slot
      = .ok (tokens ++ [.child slot ⟨fragment, offset⟩], .initial) := by
  cases mode with
  | text run start =>
      obtain rfl := Except.ok.inj finished
      rfl
  | _ => cases finished

/-- Fragments that could be a template are read as one when others follow. The others are read
from the beginning.
-/
theorem Reads.append {fragment : Nat} {mode : Mode} {fragments : List String}
    {tokens : List Token} (reads : Reads fragment mode fragments tokens)
    (nonempty : fragments ≠ []) (next : String) (others : List String)
    : ∃ location,
        scanFragments fragment mode (fragments ++ next :: others)
        = ⟨tokens
              ++ .child (fragment + fragments.length - 1) location
              :: (scanFragments (fragment + fragments.length) .initial (next :: others)).tokens,
            (scanFragments (fragment + fragments.length) .initial (next :: others)).result⟩ := by
  induction reads with
  | none => exact absurd rfl nonempty
  | @last fragment offset _ _ _ _ scanned finished =>
      refine ⟨⟨fragment, offset⟩, ?_⟩
      simp [scanFragments, scanned, boundary_of_finish offset fragment finished]
  | next scanned passed _ ih =>
      obtain ⟨location, following⟩ := ih (by simp)
      refine ⟨location, ?_⟩
      rw [List.cons_append] at following
      simp [scanFragments, scanned, passed, following, List.length_cons, Nat.add_assoc,
        Nat.add_comm 1]

end Scanner

/-- The tokens of two templates with an interpolated child between them are those of the first
one, the child, and those of the second one with their numbers moved on.
-/
theorem Token.scan_append {first second : List String} (nonempty : first ≠ [])
    (nonempty' : second ≠ []) (scanned : (scan first).result = .ok ())
    (scanned' : (scan second).result = .ok ())
    : ∃ location,
        scan (first ++ second)
        = ⟨(scan first).tokens
              ++ .child (first.length - 1) location
              :: (scan second).tokens.map (Token.shifted first.length),
            .ok ()⟩ := by
  obtain ⟨next, others, rfl⟩ := List.exists_cons_of_ne_nil nonempty'
  obtain ⟨location, read⟩ :=
    (Scanner.scanFragments_reads scanned).append nonempty next others
  have behind
      : Scanner.scanFragments first.length .initial (next :: others)
        = ⟨(scan (next :: others)).tokens.map (Token.shifted first.length), .ok ()⟩ :=
    ((Scanner.scanFragments_reads scanned').shifts first.length).scanFragments_eq
  simp only [Nat.zero_add, behind] at read
  exact ⟨location, read⟩

end TaggedMarkup
