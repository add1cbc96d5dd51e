import TaggedMarkup.WrittenAttribute
import TaggedMarkup.Proofs.Outcomes

/-! What properties become, taken apart. A property becomes an attribute in one of a few ways, and
several properties become what each of them becomes, in order.
-/

namespace TaggedMarkup.WrittenAttribute

variable {name written body : String} {value : Value} {custom : Bool}
  {props : List (String × Value)} {pieces : List Piece} {piece : Piece}

-----------------------------------------------------------------------------------------
-- One property
-----------------------------------------------------------------------------------------

/-- The ways in which a property other than the style becomes an attribute. -/
inductive Becomes (name : String) (value : Value) : Bool → Piece → Prop
  | custom (free : Html.isReservedOnCustom name = false) (safe : Html.isSafeName name = true)
    : Becomes name value true (.attribute name (Text.escape value.text))
  | emptied {line : Html.Property} (found : Html.property? name = some line)
    (isEmptied : isEmptied line.kind value = true)
    : Becomes name value false (.attribute line.written "")
  | listed {line : Html.Property} (found : Html.property? name = some line)
    (notEmptied : isEmptied line.kind value = false)
    : Becomes name value false (.attribute line.written (Text.escape value.text))
  | unlisted (found : Html.property? name = none) (quiet : Html.isEventHandler name = false)
    (safe : Html.isSafeName name = true)
    : Becomes name value false (.attribute name (Text.escape value.text))

theorem becomes_of_custom? (isWritten : custom? name value = some piece)
    : Becomes name value true piece := by
  simp only [custom?] at isWritten
  split at isWritten
  next => cases isWritten
  next accepted =>
      obtain ⟨free, safe⟩ : Html.isReservedOnCustom name = false ∧ Html.isSafeName name = true := by
        simpa using accepted
      split at isWritten
      all_goals first | exact Option.some.inj isWritten ▸ .custom free safe | cases isWritten

theorem becomes_of_standard? (isWritten : standard? name value = some piece)
    : Becomes name value false piece := by
  simp only [standard?] at isWritten
  split at isWritten
  next => cases isWritten
  next accepted =>
      split at isWritten
      next line found =>
          split at isWritten
          next isEmptied => exact Option.some.inj isWritten ▸ .emptied found isEmptied
          next notEmptied =>
              exact Option.some.inj isWritten ▸ .listed found (Bool.eq_false_iff.mpr notEmptied)
      next found =>
          split at isWritten
          next safe =>
              have quiet : Html.isEventHandler name = false := by
                simp only [Html.isIgnored, found, Bool.or_eq_true, not_or] at accepted
                exact Bool.eq_false_iff.mpr accepted.1
              exact Option.some.inj isWritten ▸ .unlisted found quiet safe
          next => cases isWritten

/-- A property becomes an attribute in one of the ways. -/
theorem becomes_of_ofProperty? (isWritten : ofProperty? name value custom = some piece)
    : Becomes name value custom piece := by
  cases custom with
  | true => exact becomes_of_custom? isWritten
  | false => exact becomes_of_standard? isWritten

/-- A style becomes the attribute of its declarations. -/
theorem ofStyle?_eq (isWritten : ofStyle? value = .ok (some piece))
    : ∃ css, piece = .attribute "style" (Text.escape css) := by
  cases value with
  | object styles =>
      obtain ⟨css, -, rfl⟩ := Option.map_eq_some_iff.mp (Except.ok.inj isWritten)
      exact ⟨css, rfl⟩
  | undefined | null => cases Except.ok.inj isWritten
  | _ => cases isWritten

theorem ofStyle?_error {error : Error} (failed : ofStyle? value = .error error)
    : error = .styleNotObject := by
  cases value with
  | undefined | null | object => cases failed
  | _ => exact (Except.error.inj failed).symm

/-- What becomes an attribute is the style or another property. -/
theorem ofProp?_eq (isWritten : ofProp? name value custom = .ok (some piece))
    : (name = "style" ∧ ∃ css, piece = .attribute "style" (Text.escape css))
      ∨ Becomes name value custom piece := by
  simp only [ofProp?] at isWritten
  split at isWritten
  · cases Except.ok.inj isWritten
  split at isWritten
  next isStyle => exact .inl ⟨isStyle, ofStyle?_eq isWritten⟩
  next => exact .inr (becomes_of_ofProperty? (Except.ok.inj isWritten))

theorem ofProp?_error {error : Error} (failed : ofProp? name value custom = .error error)
    : error = .styleNotObject := by
  simp only [ofProp?] at failed
  split at failed
  · cases failed
  split at failed
  · exact ofStyle?_error failed
  · cases failed

/-- The name of an attribute is that of its property, unless the property table gives another. -/
theorem name_of_ofProp?
    (isWritten : ofProp? name value custom = .ok (some (.attribute written body)))
    : name = written
      ∨ ∃ property ∈ Html.properties, property.name = name ∧ property.written = written := by
  have fromTable {line : Html.Property} (found : Html.property? name = some line)
      : ∃ property ∈ Html.properties, property.name = name ∧ property.written = line.written :=
    ⟨line, List.mem_of_find?_eq_some found, by simpa using List.find?_some found, rfl⟩
  rcases ofProp?_eq isWritten with ⟨isStyle, css, same⟩ | becomes
  · exact .inl (isStyle.trans (Piece.attribute.inj same).1.symm)
  · cases becomes with
    | custom | unlisted => exact .inl rfl
    | emptied found | listed found => exact .inr (fromTable found)

-----------------------------------------------------------------------------------------
-- Several properties
-----------------------------------------------------------------------------------------

/-- What the first property becomes stands before what the others become. -/
theorem ofProps_cons (isWritten : ofProps ((name, value) :: props) custom = .ok pieces)
    : ∃ first others,
        ofProp? name value custom = .ok first
        ∧ ofProps props custom = .ok others
        ∧ first.toList ++ others = pieces := by
  obtain ⟨first, isFirst, isWritten⟩ := exists_of_bind isWritten
  obtain ⟨others, isOthers, isWritten⟩ := exists_of_bind isWritten
  exact ⟨first, others, isFirst, isOthers, Except.ok.inj isWritten⟩

/-- What properties become is what each of them becomes, by induction on them. -/
theorem mem_ofProps (isWritten : ofProps props custom = .ok pieces) (member : piece ∈ pieces)
    : ∃ field ∈ props, ofProp? field.1 field.2 custom = .ok (some piece) := by
  induction props generalizing pieces with
  | nil =>
      obtain rfl := Except.ok.inj isWritten
      cases member
  | cons field rest ih =>
      obtain ⟨first, others, isFirst, isOthers, rfl⟩ := ofProps_cons isWritten
      rcases List.mem_append.mp member with here | later
      · obtain rfl := Option.mem_toList.mp here
        exact ⟨field, List.mem_cons_self .., isFirst⟩
      · obtain ⟨field, isField, becomes⟩ := ih isOthers later
        exact ⟨field, List.mem_cons_of_mem _ isField, becomes⟩

theorem ofProps_attribute (isWritten : ofProps props custom = .ok pieces)
    : ∀ piece ∈ pieces, ∃ written body, piece = .attribute written body := by
  intro piece member
  obtain ⟨field, -, becomes⟩ := mem_ofProps isWritten member
  rcases ofProp?_eq becomes with ⟨-, css, rfl⟩ | becomes
  · exact ⟨_, _, rfl⟩
  · cases becomes <;> exact ⟨_, _, rfl⟩

/-- An attribute that is named by no other property comes from the property of its name. -/
theorem mem_ofProps_own
    (own : ∀ property ∈ Html.properties, property.written = written → property.name = written)
    (isWritten : ofProps props custom = .ok pieces) (member : .attribute written body ∈ pieces)
    : ∃ value,
        (written, value) ∈ props
        ∧ ofProp? written value custom = .ok (some (.attribute written body)) := by
  obtain ⟨⟨name, value⟩, isField, becomes⟩ := mem_ofProps isWritten member
  have named : name = written := by
    rcases name_of_ofProp? becomes with named | ⟨property, listed, rfl, written⟩
    · exact named
    · exact own property listed written
  subst named
  exact ⟨value, isField, becomes⟩

/-- Properties are refused for a style only. -/
theorem ofProps_error {error : Error} (failed : ofProps props custom = .error error)
    : error = .styleNotObject := by
  induction props with
  | nil => cases failed
  | cons field rest ih =>
      simp only [ofProps, bind, Except.bind] at failed
      split at failed
      next one => exact Except.error.inj failed ▸ ofProp?_error one
      next =>
          split at failed
          next later => exact ih (Except.error.inj failed ▸ later)
          next => cases failed

/-- Several properties become what they become in two parts. -/
theorem ofProps_append (fields others : List (String × Value)) (custom : Bool)
    : ofProps (fields ++ others) custom
      = (do
          let first ← ofProps fields custom
          let second ← ofProps others custom
          .ok (first ++ second)) := by
  induction fields with
  | nil =>
      simp only [List.nil_append, ofProps, bind, Except.bind]
      cases ofProps others custom <;> rfl
  | cons field rest ih =>
      obtain ⟨name, value⟩ := field
      simp only [List.cons_append, ofProps, ih, bind, Except.bind]
      cases ofProp? name value custom with
      | error error => rfl
      | ok first =>
          cases ofProps rest custom with
          | error error => rfl
          | ok second =>
              cases ofProps others custom with
              | error error => rfl
              | ok third => simp

/-- The names that the renderer reads itself may be left out before writing. -/
theorem ofProps_filter (fields : List (String × Value)) (custom : Bool)
    : ofProps (fields.filter fun field => !isContentOrIdentity field.1) custom
      = ofProps fields custom := by
  induction fields with
  | nil => rfl
  | cons field rest ih =>
      obtain ⟨name, value⟩ := field
      cases excluded : isContentOrIdentity name with
      | false =>
          rw [List.filter_cons_of_pos (by simp [excluded])]
          simp only [ofProps, ih]
      | true =>
          rw [List.filter_cons_of_neg (by simp [excluded]), ih]
          simp only [ofProps, ofProp?, excluded, if_true, bind, Except.bind]
          cases ofProps rest custom <;> rfl

theorem ofProps_single (name : String) (value : Value) (custom : Bool)
    : ofProps [(name, value)] custom = (ofProp? name value custom).map Option.toList := by
  simp only [ofProps, bind, Except.bind]
  cases ofProp? name value custom with
  | error error => rfl
  | ok piece => simp [Except.map]

end TaggedMarkup.WrittenAttribute
