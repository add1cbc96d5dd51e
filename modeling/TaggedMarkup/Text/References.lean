import TaggedMarkup.Text.CharacterReference

/-! What a decoder of character references has to do: to replace every reference of a text once,
from left to right, by the longest match. Decoding with the names of the standard does so.
-/

namespace TaggedMarkup.Text

namespace CharacterReference

/-- A name is written with its semicolon, or without it when the semicolon may be missing. -/
inductive Name.Spelled (reference : Name) : List Char → Prop
  | closed : Spelled reference (reference.name.toList ++ [';'])
  | bare (isBare : reference.bare = true) : Spelled reference reference.name.toList

/-- The marks of numeric references, with the base and the digits of the number. -/
inductive Mark : List Char → Nat → (Char → Option Nat) → Prop
  | decimal : Mark ['#'] 10 Numeral.digit?
  | smallX : Mark ['#', 'x'] 16 Numeral.hexDigit?
  | capitalX : Mark ['#', 'X'] 16 Numeral.hexDigit?

/-- The characters behind an ampersand are, in front of the rest, a reference for certain
characters. No longer name stands there, and a number takes all of its digits and a semicolon.
-/
inductive Stands (rest : List Char) : List Char → List Char → Prop
  | named {initial : Char} {reference : Name} {front : List Char}
    (begins : (front ++ rest).head? = some initial) (listed : reference ∈ namesFrom initial)
    (spelled : reference.Spelled front)
    (longest
      : ∀ other ∈ namesFrom initial,
          ∀ longer,
            other.Spelled longer → longer <+: front ++ rest → longer.length ≤ front.length)
    : Stands rest front reference.chars
  | number {mark digits closing : List Char} {base : Nat} {digit? : Char → Option Nat}
    (marked : Mark mark base digit?) (some : digits ≠ [])
    (areDigits : ∀ c ∈ digits, (digit? c).isSome)
    (closes : closing = [';'] ∨ closing = [] ∧ rest.head? ≠ .some ';')
    (ends : ∀ c ∈ (closing ++ rest).head?, digit? c = none)
    : Stands rest (mark ++ (digits ++ closing))
        [ofCode (Numeral.digitsValue base (digits.filterMap digit?))]

/-- The first text with its references replaced is the second one. -/
inductive Replaced : List Char → List Char → Prop
  | nil : Replaced [] []
  | kept {c : Char} {rest others : List Char}
    (plain : c = '&' → ∀ front after chars, rest = front ++ after → ¬Stands after front chars)
    (replaced : Replaced rest others)
    : Replaced (c :: rest) (c :: others)
  | reference {front rest chars others : List Char} (stands : Stands rest front chars)
    (replaced : Replaced rest others)
    : Replaced ('&' :: (front ++ rest)) (chars ++ others)

-----------------------------------------------------------------------------------------
-- Names
-----------------------------------------------------------------------------------------

/-- What a name takes is one of its spellings. -/
theorem Name.spelled_of_matchLength? {reference : Name} {chars : List Char} {length : Nat}
    (isMatch : reference.matchLength? chars = some length)
    : ∃ front, reference.Spelled front ∧ front <+: chars ∧ front.length = length := by
  simp only [matchLength?] at isMatch
  split at isMatch
  next closed =>
      obtain rfl := Option.some.inj isMatch
      exact ⟨_, .closed, List.isPrefixOf_iff_prefix.mp closed, by simp⟩
  next =>
      split at isMatch
      next bare =>
          obtain rfl := Option.some.inj isMatch
          obtain ⟨isBare, stands⟩ := Bool.and_eq_true_iff.mp bare
          exact ⟨_, .bare isBare, List.isPrefixOf_iff_prefix.mp stands, rfl⟩
      next => cases isMatch

/-- A name takes the longest of its spellings that stands there. -/
theorem Name.Spelled.matchLength? {reference : Name} {front chars : List Char}
    (spelled : reference.Spelled front) (stands : front <+: chars)
    : ∃ length, reference.matchLength? chars = some length ∧ front.length ≤ length := by
  have isPrefix := List.isPrefixOf_iff_prefix.mpr stands
  simp only [Name.matchLength?]
  split
  next => cases spelled <;> exact ⟨_, rfl, by simp⟩
  next other =>
      cases spelled with
      | closed => exact absurd isPrefix other
      | bare isBare => exact ⟨_, if_pos (by simp [isBare, isPrefix]), Nat.le_refl _⟩

/-- What has been found among names is as long as the longest match of them. -/
def Longest (names : List Name) (chars : List Char) : Option Found → Prop
  | none => ∀ reference ∈ names, reference.matchLength? chars = none
  | some found =>
      (∃ reference ∈ names,
          reference.matchLength? chars = some found.length ∧ found.chars = reference.chars)
      ∧ ∀ other ∈ names, ∀ length ∈ other.matchLength? chars, length ≤ found.length

/-- One more name is taken into account. -/
theorem Longest.preferred {names : List Name} {chars : List Char} {best : Option Found}
    (longest : Longest names chars best) (reference : Name)
    : Longest (names ++ [reference]) chars (preferred chars best reference) := by
  simp only [CharacterReference.preferred]
  cases isMatch : reference.matchLength? chars with
  | none =>
      cases best with
      | none => simpa [Longest, or_imp, forall_and, isMatch] using longest
      | some found =>
          obtain ⟨⟨chosen, member, same⟩, others⟩ := longest
          exact ⟨⟨chosen, List.mem_append_left _ member, same⟩, by grind⟩
  | some length =>
      have last : reference ∈ names ++ [reference] := by simp
      cases best with
      | none => exact ⟨⟨reference, last, isMatch, rfl⟩, by grind [Longest]⟩
      | some found =>
          obtain ⟨⟨chosen, member, same⟩, others⟩ := longest
          simp only [Found.longer]
          split
          next => exact ⟨⟨reference, last, isMatch, rfl⟩, by grind⟩
          next => exact ⟨⟨chosen, List.mem_append_left _ member, same⟩, by grind⟩

/-- The longest match is found, by induction on the names that are left. -/
theorem longest_longest? (names : List Name) (chars : List Char)
    : Longest names chars (longest? names chars) := by
  have fold (tried left : List Name) (best : Option Found) (longest : Longest tried chars best)
      : Longest (tried ++ left) chars (left.foldl (preferred chars) best) := by
    induction left generalizing tried best with
    | nil => simpa using longest
    | cons reference left ih =>
        simpa using ih (tried ++ [reference]) _ (longest.preferred reference)
  exact fold [] names none (by simp [Longest])

-----------------------------------------------------------------------------------------
-- References
-----------------------------------------------------------------------------------------

theorem stands_of_longest? {initial : Char} {chars : List Char} {found : Found}
    (isFound : longest? (namesFrom initial) (initial :: chars) = some found)
    : ∃ front rest,
        initial :: chars = front ++ rest
        ∧ front.length = found.length
        ∧ Stands rest front found.chars := by
  have longest := isFound ▸ longest_longest? (namesFrom initial) (initial :: chars)
  obtain ⟨⟨reference, listed, isMatch, same⟩, others⟩ := longest
  obtain ⟨front, spelled, ⟨rest, split⟩, length⟩ := Name.spelled_of_matchLength? isMatch
  refine ⟨front, rest, split.symm, length, same ▸ .named (split ▸ rfl) listed spelled ?_⟩
  intro other member longer spelled stands
  obtain ⟨taken, isTaken, within⟩ := spelled.matchLength? (split ▸ stands)
  exact length ▸ Nat.le_trans within (others other member taken isTaken)

theorem stands_of_numeric? {mark chars : List Char} {base : Nat} {digit? : Char → Option Nat}
    {found : Found} (marked : Mark mark base digit?)
    (isFound : numeric? mark.length base digit? chars = some found)
    : ∃ front rest,
        mark ++ chars = front ++ rest
        ∧ front.length = found.length
        ∧ Stands rest front found.chars := by
  have split := List.takeWhile_append_dropWhile (p := fun c => (digit? c).isSome) (l := chars)
  have areDigits := List.all_eq_true.mp (@List.all_takeWhile _ (fun c => (digit? c).isSome) chars)
  have ends := List.head?_dropWhile_not (fun c => (digit? c).isSome) chars
  simp only [numeric?] at isFound
  generalize chars.takeWhile (fun c => (digit? c).isSome) = digits at *
  generalize chars.dropWhile (fun c => (digit? c).isSome) = others at *
  have apart : ∀ c ∈ others.head?, digit? c = none := by
    intro c member
    rw [Option.mem_def] at member
    simpa [member] using ends
  split at isFound
  next => cases isFound
  next some =>
      obtain rfl := Option.some.inj isFound
      by_cases closed : others.head? = .some ';'
      · obtain ⟨rest, rfl⟩ := List.head?_eq_some_iff.mp closed
        refine ⟨mark ++ (digits ++ [';']), rest, by simp [← split], by simp [Nat.add_assoc], ?_⟩
        exact .number marked some areDigits (.inl rfl) apart
      · refine ⟨mark ++ (digits ++ []), others, by simp [← split], by simp [closed], ?_⟩
        exact .number marked some areDigits (.inr ⟨rfl, closed⟩) apart

/-- The reference that is found stands there. -/
theorem stands_of_reference? {text : List Char} {found : Found}
    (isFound : reference? text = some found)
    : ∃ front rest,
        text = front ++ rest ∧ front.length = found.length ∧ Stands rest front found.chars := by
  unfold reference? at isFound
  split at isFound
  · exact stands_of_numeric? .smallX isFound
  · exact stands_of_numeric? .capitalX isFound
  · exact stands_of_numeric? .decimal isFound
  · exact stands_of_longest? isFound
  · cases isFound

theorem numeric?_ne_none {before base : Nat} {digit? : Char → Option Nat} {c : Char}
    (isDigit : (digit? c).isSome) (chars : List Char)
    : numeric? before base digit? (c :: chars) ≠ none := by
  simp [numeric?, isDigit]

theorem reference?_letter {initial : Char} (apart : initial ≠ '#') (chars : List Char)
    : reference? (initial :: chars) = longest? (namesFrom initial) (initial :: chars) := by
  unfold reference?
  split <;> simp_all

theorem reference?_decimal {first : Char} (small : first ≠ 'x') (capital : first ≠ 'X')
    (chars : List Char)
    : reference? ('#' :: first :: chars) = numeric? 1 10 Numeral.digit? (first :: chars) := by
  unfold reference?
  split <;> grind

/-- Where a reference stands, one is found. -/
theorem Stands.reference?_ne_none {rest front chars : List Char} (stands : Stands rest front chars)
    : reference? (front ++ rest) ≠ none := by
  cases stands with
  | @named initial reference _ begins listed spelled _ =>
      have apart : initial ≠ '#' := by
        rintro rfl
        cases listed
      obtain ⟨others, isText⟩ := List.head?_eq_some_iff.mp begins
      obtain ⟨length, isMatch, -⟩ := spelled.matchLength? (List.prefix_append front rest)
      have longest := longest_longest? (namesFrom initial) (front ++ rest)
      intro none
      rw [isText, reference?_letter apart, ← isText] at none
      rw [none] at longest
      cases isMatch.symm.trans (longest reference listed)
  | @number mark digits closing base digit? marked some areDigits _ _ =>
      obtain ⟨first, others, rfl⟩ := List.exists_cons_of_ne_nil some
      have isDigit := areDigits first List.mem_cons_self
      cases marked with
      | decimal =>
          have small : first ≠ 'x' := by
            rintro rfl
            cases isDigit
          have capital : first ≠ 'X' := by
            rintro rfl
            cases isDigit
          rw [List.singleton_append, List.cons_append, List.cons_append, List.cons_append,
            reference?_decimal small capital]
          exact numeric?_ne_none isDigit _
      | smallX | capitalX => exact numeric?_ne_none isDigit _

/-- The characters of a reference are passed over. -/
theorem decodedFrom_passed (chars rest : List Char)
    : decodedFrom chars.length (chars ++ rest) = decodedFrom 0 rest := by
  induction chars with
  | nil => rfl
  | cons c chars ih => simpa only [List.length_cons, List.cons_append, decodedFrom] using ih

/-- Decoding replaces the references, by recursion on what is left behind a reference. -/
theorem replaced_decodedFrom : ∀ text, Replaced text (decodedFrom 0 text)
  | [] => .nil
  | c :: rest => by
      simp only [decodedFrom]
      split
      next isAmpersand =>
          obtain rfl := isAmpersand
          split
          next found isFound =>
              obtain ⟨front, after, rfl, length, stands⟩ := stands_of_reference? isFound
              rw [← length, decodedFrom_passed]
              exact .reference stands (replaced_decodedFrom after)
          next none =>
              refine .kept ?_ (replaced_decodedFrom rest)
              rintro - front after chars rfl stands
              exact stands.reference?_ne_none none
      next other =>
          exact .kept (fun isAmpersand => absurd isAmpersand other) (replaced_decodedFrom rest)
termination_by text => text.length

end CharacterReference

/-- What decodes the character references of a text, whatever it does so with. -/
structure References where
  decode : String → String
  replaced : ∀ text, CharacterReference.Replaced text.toList (decode text).toList

/-- The references of the standard, decoded with its names. -/
def References.standard : References where
  decode := Text.decode
  replaced text := by
    simpa only [Text.decode, String.toList_ofList] using
      CharacterReference.replaced_decodedFrom text.toList

end TaggedMarkup.Text
