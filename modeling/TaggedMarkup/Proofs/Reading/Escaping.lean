import Mathlib.Data.List.Basic
import TaggedMarkup.Proofs.Rendering.AttributeText
import TaggedMarkup.Program.Compile
import TaggedMarkup.Tree.Builder

/-! Decoding undoes escaping. Escaping ends every reference that it writes with a semicolon, and
no name of the standard goes on behind one, so nothing that follows a reference has a say in what
it is decoded to.
-/

namespace TaggedMarkup.Text

namespace CharacterReference

/-- What stands behind a semicolon does not matter to a text that has none but at its end, by
induction on what stands before the semicolon.
-/
theorem isPrefixOf_closed {front : List Char} (last : ';' ∉ front.dropLast)
    (chars rest : List Char)
    : front.isPrefixOf (chars ++ ';' :: rest) = front.isPrefixOf (chars ++ [';']) := by
  induction chars generalizing front with
  | nil =>
      match front with
      | [] | [_] => simp [List.isPrefixOf]
      | c :: next :: others =>
          have apart : c ≠ ';' := by
            rintro rfl
            simp at last
          simp [List.isPrefixOf, apart]
  | cons first chars ih =>
      match front with
      | [] => rfl
      | c :: others =>
          have later : ';' ∉ others.dropLast := by
            cases others with
            | nil => simp
            | cons next others => exact fun member => last (List.mem_cons_of_mem _ member)
          simp only [List.cons_append, List.isPrefixOf_cons_cons, ih later]

/-- A name is looked for in front of a semicolon and not behind it. -/
theorem matchLength?_closed {reference : Name} (apart : ';' ∉ reference.name.toList)
    (chars rest : List Char)
    : reference.matchLength? (chars ++ ';' :: rest)
      = reference.matchLength? (chars ++ [';']) := by
  have bare : ';' ∉ reference.name.toList.dropLast :=
    fun member => apart (List.dropLast_subset _ member)
  have closed : ';' ∉ (reference.name.toList ++ [';']).dropLast := by
    rwa [List.dropLast_concat]
  simp only [Name.matchLength?, isPrefixOf_closed closed, isPrefixOf_closed bare]

/-- No name that begins as those of the escaped characters do contains a semicolon. -/
theorem namesFrom_apart {initial : Char} (begins : initial ∈ ['a', 'g', 'l', 'q'])
    : ∀ name ∈ namesFrom initial, ';' ∉ name.name.toList := by
  have all
      : ['a', 'g', 'l', 'q'].all (fun initial =>
          (namesFrom initial).all fun name => !name.name.toList.contains ';') = true := by
    decide +kernel
  intro name member
  simpa using List.all_eq_true.mp (List.all_eq_true.mp all initial begins) name member

/-- In front of the rest the characters are a reference, and nothing else is one there. -/
structure Alone (front rest chars : List Char) : Prop where
  stands : Stands rest front chars
  only
    : ∀ other after decoded,
        front ++ rest = other ++ after
        → Stands after other decoded
        → other = front ∧ decoded = chars

/-- A text whose front is nothing but one reference is decoded to what it stands for and to what
its rest is decoded to.
-/
theorem Alone.replaced {front rest chars decoded : List Char} (alone : Alone front rest chars)
    (replaced : Replaced ('&' :: (front ++ rest)) decoded)
    : ∃ others, decoded = chars ++ others ∧ Replaced rest others := by
  generalize split : '&' :: (front ++ rest) = text at replaced
  cases replaced with
  | nil => cases split
  | kept plain =>
      obtain ⟨isAmpersand, rfl⟩ := List.cons.inj split
      exact absurd alone.stands (plain isAmpersand.symm front rest chars rfl)
  | reference stands others =>
      obtain ⟨rfl, rfl⟩ := alone.only _ _ _ (List.cons.inj split).2 stands
      obtain rfl := List.append_cancel_left (List.cons.inj split).2
      exact ⟨_, rfl, others⟩

/-- The names of a list that stand at the front, with what they take and what they stand for. -/
def matching (names : List Name) (chars : List Char) : List (Nat × List Char) :=
  names.filterMap fun reference =>
    (reference.matchLength? chars).map fun length => (length, reference.chars)

section

variable {initial c : Char} {chars : List Char}

/-- Where there is only one name, everything that stands there takes no more than it. -/
theorem takes_of_matching (begins : initial ∈ ['a', 'g', 'l', 'q'])
    (only
      : matching (namesFrom initial) (initial :: chars ++ [';']) = [(chars.length + 2, [c])])
    {reference : Name} {front rest : List Char} (listed : reference ∈ namesFrom initial)
    (spelled : reference.Spelled front) (stands : front <+: initial :: chars ++ [';'] ++ rest)
    : reference.chars = [c] ∧ front.length ≤ chars.length + 2 := by
  have closed : initial :: chars ++ ';' :: rest = initial :: chars ++ [';'] ++ rest := by simp
  obtain ⟨length, isMatch, within⟩ := spelled.matchLength? stands
  rw [← closed, matchLength?_closed (namesFrom_apart begins reference listed)] at isMatch
  have member
      : (length, reference.chars)
        ∈ matching (namesFrom initial) (initial :: chars ++ [';']) :=
    List.mem_filterMap.mpr ⟨reference, listed, by simp only [isMatch, Option.map_some]⟩
  rw [only, List.mem_singleton, Prod.mk.injEq] at member
  exact ⟨member.2, member.1 ▸ within⟩

/-- A name that a semicolon ends is a reference, whatever follows it, when it is the only name
there.
-/
theorem alone_named (begins : initial ∈ ['a', 'g', 'l', 'q'])
    (only
      : matching (namesFrom initial) (initial :: chars ++ [';']) = [(chars.length + 2, [c])])
    (rest : List Char)
    : Alone (initial :: chars ++ [';']) rest [c] := by
  have whole : (initial :: chars ++ [';']).length = chars.length + 2 := by simp
  have found : (chars.length + 2, [c]) ∈ matching (namesFrom initial) (initial :: chars ++ [';']) :=
    only ▸ List.mem_singleton_self _
  obtain ⟨reference, listed, isFound⟩ := List.mem_filterMap.mp found
  obtain ⟨length, isMatch, same⟩ := Option.map_eq_some_iff.mp isFound
  obtain ⟨rfl, isChar⟩ := Prod.mk.inj same
  obtain ⟨front, spelled, isFront, length⟩ := Name.spelled_of_matchLength? isMatch
  obtain rfl := isFront.eq_of_length (length.trans whole.symm)
  constructor
  case stands =>
    refine isChar ▸ .named rfl listed spelled ?_
    intro other member longer isSpelled stands
    exact whole ▸ (takes_of_matching begins only member isSpelled stands).2
  case only =>
    intro other after decoded split stands
    cases stands with
    | @named first another _ isFirst isListed isSpelled longest =>
        rw [← split] at isFirst longest
        obtain rfl := Option.some.inj isFirst
        have isPrefix : other <+: initial :: chars ++ [';'] ++ rest := ⟨after, split.symm⟩
        obtain ⟨isSame, within⟩ := takes_of_matching begins only isListed isSpelled isPrefix
        rw [← whole] at within
        have atLeast := longest reference listed _ spelled (List.prefix_append _ rest)
        have prefixes := List.prefix_of_prefix_length_le isPrefix (List.prefix_append _ rest) within
        exact ⟨prefixes.eq_of_length (Nat.le_antisymm within atLeast), isSame⟩
    | @number mark digits closing base digit? marked =>
        obtain ⟨more, isMark⟩ : ∃ more, mark = '#' :: more := by
          cases marked <;> exact ⟨_, rfl⟩
        rw [isMark] at split
        obtain ⟨rfl, -⟩ := List.cons.inj split
        simp at begins

end

/-- Digits that no digit follows are the digits at the front. -/
theorem takeWhile_digits {digit? : Char → Option Nat} {digits others : List Char}
    (areDigits : ∀ c ∈ digits, (digit? c).isSome) (ends : ∀ c ∈ others.head?, digit? c = none)
    : (digits ++ others).takeWhile (fun c => (digit? c).isSome) = digits := by
  rw [List.takeWhile_append_of_pos areDigits]
  cases others with
  | nil => simp
  | cons c others => simp [ends c rfl]

/-- The reference to an apostrophe is numeric: its digits end at the semicolon. -/
theorem alone_apostrophe (rest : List Char)
    : Alone ['#', 'x', '2', '7', ';'] rest ['\''] where
  stands := by
    have areDigits : ∀ c ∈ ['2', '7'], (Numeral.hexDigit? c).isSome :=
      List.forall_mem_cons.mpr ⟨rfl, List.forall_mem_singleton.mpr rfl⟩
    have stands : Stands rest (['#', 'x'] ++ (['2', '7'] ++ [';'])) _ :=
      .number .smallX (by simp) areDigits (.inl rfl) (by simp; decide)
    exact stands
  only := by
    intro other after decoded split stands
    cases stands with
    | named begins listed =>
        rw [← split] at begins
        obtain rfl := Option.some.inj begins
        cases listed
    | @number mark digits closing base digit? marked some areDigits closes ends =>
        have front := takeWhile_digits areDigits ends
        cases marked with
        | capitalX => simp at split
        | decimal =>
            obtain ⟨first, digits, rfl⟩ := List.exists_cons_of_ne_nil some
            obtain ⟨isX, -⟩ : 'x' = first ∧ _ := by simpa using split
            cases isX ▸ areDigits first List.mem_cons_self
        | smallX =>
            have numeral : '2' :: '7' :: ';' :: rest = digits ++ (closing ++ after) := by
              simpa using split
            rw [← numeral] at front
            obtain rfl : ['2', '7'] = digits := front
            obtain rfl | ⟨rfl, isOpen⟩ := closes
            · exact ⟨rfl, rfl⟩
            · obtain rfl : ';' :: rest = after := by simpa using numeral
              exact absurd rfl isOpen

/-- An escaped character is decoded to itself, and what follows it is read on its own. -/
theorem replaced_escapedChar (c : Char) {rest decoded : List Char}
    (replaced : Replaced (escapedChar c ++ rest) decoded)
    : ∃ others, decoded = c :: others ∧ Replaced rest others := by
  simp only [escapedChar] at replaced
  split at replaced
  next =>
      have alone := @alone_named 'a' '&' ['m', 'p'] (by decide) (by decide +kernel) rest
      exact alone.replaced replaced
  next =>
      have alone := @alone_named 'l' '<' ['t'] (by decide) (by decide +kernel) rest
      exact alone.replaced replaced
  next =>
      have alone := @alone_named 'g' '>' ['t'] (by decide) (by decide +kernel) rest
      exact alone.replaced replaced
  next =>
      have alone := @alone_named 'q' '"' ['u', 'o', 't'] (by decide) (by decide +kernel) rest
      exact alone.replaced replaced
  next => exact (alone_apostrophe rest).replaced replaced
  next apart _ _ _ _ =>
      generalize split : [c] ++ rest = text at replaced
      cases replaced with
      | nil => cases split
      | kept _ others =>
          obtain ⟨rfl, rfl⟩ := List.cons.inj split
          exact ⟨_, rfl, others⟩
      | reference => exact absurd (List.cons.inj split).1 apart

/-- Escaped text is decoded to what it was, character by character. -/
theorem replaced_escapedChars {chars decoded : List Char}
    (replaced : Replaced (escapedChars chars) decoded)
    : decoded = chars := by
  induction chars generalizing decoded with
  | nil =>
      cases replaced
      rfl
  | cons c rest ih =>
      obtain ⟨others, rfl, isRest⟩ := replaced_escapedChar c replaced
      rw [ih isRest]

end CharacterReference

/-- Whatever decodes references, escaped text is decoded to what it was. -/
theorem References.decode_escaped (references : References) (text : String)
    : references.decode (escape text) = text := by
  have replaced := references.replaced (escape text)
  rw [escape, String.toList_ofList] at replaced
  exact String.toList_inj.mp (CharacterReference.replaced_escapedChars replaced)

/-- Escaped text has none of the characters that end a text or an attribute, and whatever decodes
references gives back what was escaped, also when that looks like a reference. So different texts
are escaped differently, and a program shows literal text as it was decoded once.
-/
theorem decode_escape (references : References) (text : String)
    : references.decode (escape text) = text
      ∧ (∀ c ∈ (escape text).toList, c ∉ ['<', '>', '"', '\''])
      ∧ (∀ other, escape text = escape other → text = other)
      ∧ ∀ options raw top leadNewline,
          ∃ written,
            Program.ofChild top leadNewline (.text (Tree.decoded options raw))
              = .ok ([.call (.text written)], [])
            ∧ references.decode written = Tree.decoded options raw := by
  refine ⟨references.decode_escaped text, Escaped.special (escaped_escape text), ?_, ?_⟩
  · intro other same
    rw [← references.decode_escaped text, same, references.decode_escaped]
  · intro options raw top leadNewline
    exact ⟨_, by simp only [Program.ofChild], references.decode_escaped _⟩

/-- A text of references, one of them without its semicolon, is not taken for what they stand
for.
-/
theorem decode_escape_references
    : decode "&gt;&#x27" = ">'"
      ∧ escape "&gt;&#x27" = "&amp;gt;&amp;#x27"
      ∧ decode "&amp;gt;&amp;#x27" = "&gt;&#x27" := by
  have escaped : escape "&gt;&#x27" = "&amp;gt;&amp;#x27" := by decide +kernel
  exact ⟨by decide +kernel, escaped, escaped ▸ (decode_escape .standard "&gt;&#x27").1⟩

end TaggedMarkup.Text
