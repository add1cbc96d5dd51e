import TaggedMarkup.Tree.Builder

/-! Literal text of a tree is never empty: neither the treatment of spaces nor the decoding of
character references makes an empty text out of one that is not.
-/

namespace TaggedMarkup

namespace Text.CharacterReference

/-- Every name of the standard stands for some character. -/
theorem namesFrom_codes (initial : Char)
    : (namesFrom initial).all (fun reference => !reference.codes.isEmpty) = true := by
  unfold namesFrom
  split <;> decide +kernel

theorem Stands.chars_ne_nil {rest front chars : List Char} (stands : Stands rest front chars)
    : chars ≠ [] := by
  cases stands with
  | @named initial reference _ _ listed =>
      have codes := List.all_eq_true.mp (namesFrom_codes initial) reference listed
      simpa [Name.chars] using codes
  | number => simp

theorem Replaced.ne_nil {text decoded : List Char} (replaced : Replaced text decoded)
    (some : text ≠ [])
    : decoded ≠ [] := by
  cases replaced with
  | nil => exact some
  | kept => simp
  | reference stands => simp [stands.chars_ne_nil]

end Text.CharacterReference

namespace Tree

/-- A text that is left after the treatment of its spaces is not empty. -/
theorem cleaned?_ne {options : ReadOptions} {raw text : String}
    (cleaned : cleaned? options raw = some text)
    : text ≠ "" := by
  simp only [cleaned?] at cleaned
  split at cleaned
  · simp only [Text.condense?] at cleaned
    split at cleaned
    · cases cleaned
    next chars some =>
        obtain rfl := Option.some.inj cleaned
        simpa [String.ext_iff] using some
  · split at cleaned
    · cases cleaned
    next some =>
        obtain rfl := Option.some.inj cleaned
        simpa using some

/-- A text that is not empty is decoded to one that is not. -/
theorem decoded_ne {options : ReadOptions} {text : String} (some : text ≠ "")
    : decoded options text ≠ "" := by
  simp only [decoded]
  split
  · have written := (options.references.replaced text).ne_nil (by simpa using some)
    simpa using written
  · exact some

end Tree

end TaggedMarkup
