import Mathlib.Data.List.Basic
import Mathlib.Data.List.DropRight
import TaggedMarkup.Text.Lines

/-! What condensing does to a text, said by its lines. Spaces at a line break are dropped, then
lines that are empty, and one space joins the others. The text is read once for this and the
lines are never built.
-/

namespace TaggedMarkup.Text

-----------------------------------------------------------------------------------------
-- Lines
-----------------------------------------------------------------------------------------

/-- The lines of a text. A line ends at a line feed, at a carriage return or at both together. -/
def lines : List Char → List (List Char)
  | [] => [[]]
  | '\r' :: '\n' :: rest => [] :: lines rest
  | c :: rest =>
      if c = '\n' ∨ c = '\r' then [] :: lines rest else (lines rest).modifyHead (c :: ·)

/-- The text with a space for every tab. -/
def spaced (chars : List Char) : List Char :=
  chars.map fun c => if c = '\t' then ' ' else c

/-- The line without the spaces in front. -/
def unindented (line : List Char) : List Char :=
  line.dropWhile (· == ' ')

/-- The lines without the spaces at their ends, which only the last line keeps. -/
def untrailed : List (List Char) → List (List Char)
  | [] => []
  | [last] => [last]
  | line :: later => line.rdropWhile (· == ' ') :: untrailed later

/-- The lines as they are kept. All but the first lose the spaces in front, all but the last the
spaces at the end, and lines without a character are dropped.
-/
def kept : List (List Char) → List (List Char)
  | [] => []
  | first :: later =>
      (untrailed (spaced first :: later.map fun line => unindented (spaced line))).filter
        fun line => !line.isEmpty

theorem lines_eq_cons (chars : List Char) : ∃ first later, lines chars = first :: later := by
  fun_induction lines chars with
  | case1 => exact ⟨_, _, rfl⟩
  | case2 => exact ⟨_, _, rfl⟩
  | case3 => exact ⟨_, _, rfl⟩
  | case4 c rest _ _ ih =>
      obtain ⟨first, later, isLines⟩ := ih
      exact ⟨c :: first, later, by rw [isLines, List.modifyHead_cons]⟩

theorem untrailed_cons (line : List Char) (later : List (List Char))
    : untrailed (line :: later)
      = (if later = [] then line else line.rdropWhile (· == ' ')) :: untrailed later := by
  cases later <;> rfl

/-- Only what follows the last character of a line that is no space is dropped from its end, by
induction on the end.
-/
theorem rdropWhile_append_cons {c : Char} (inked : c ≠ ' ') (before after : List Char)
    : (before ++ c :: after).rdropWhile (· == ' ')
      = before ++ c :: after.rdropWhile (· == ' ') := by
  induction after using List.reverseRecOn with
  | nil => exact List.rdropWhile_concat_neg (fun c => c == ' ') before c (by simpa)
  | append_singleton after last ih =>
      rw [← List.cons_append, ← List.append_assoc]
      by_cases space : last = ' '
      · rw [List.rdropWhile_concat_pos _ _ _ (by simpa),
          List.rdropWhile_concat_pos _ _ _ (by simpa), ih]
      · rw [List.rdropWhile_concat_neg _ _ _ (by simpa),
          List.rdropWhile_concat_neg _ _ _ (by simpa), List.append_assoc, List.cons_append]

/-- By induction on the lines after the first. -/
theorem intercalate_cons (line : List Char) (later : List (List Char))
    : [' '].intercalate (line :: later) = line ++ later.flatMap (' ' :: ·) := by
  induction later generalizing line with
  | nil => simp
  | cons next rest ih => simp [List.intercalate_cons_cons, ih]

-----------------------------------------------------------------------------------------
-- Reading
-----------------------------------------------------------------------------------------

/-- What is written for lines when something has been written before or nothing. -/
def continued (started : Bool) (lines : List (List Char)) : List Char :=
  if started then lines.flatMap (' ' :: ·) else [' '].intercalate lines

/-- The lines after the first, as they are kept. -/
def laterKept (later : List (List Char)) : List (List Char) :=
  (untrailed (later.map fun line => unindented (spaced line))).filter fun line => !line.isEmpty

/-- A line and what comes after it. -/
def lineThen (started : Bool) (line : List Char) (later : List (List Char)) : List Char :=
  let line := if later = [] then line else line.rdropWhile (· == ' ')
  line ++ continued (started || !line.isEmpty) (laterKept later)

theorem lineThen_append_cons {c : Char} (inked : c ≠ ' ') (started : Bool)
    (before after : List Char) (later : List (List Char))
    : lineThen started (before ++ c :: after) later
      = before ++ c :: lineThen true after later := by
  have written : ∀ line : List Char, (!(before ++ c :: line).isEmpty) = true := by simp
  simp only [lineThen]
  split <;> simp [rdropWhile_append_cons inked, written]

/-- A line that is blank is not kept. -/
theorem continued_blank (started : Bool) {line : List Char} (blank : unindented (spaced line) = [])
    (later : List (List Char))
    : continued started (laterKept (line :: later)) = continued started (laterKept later) := by
  simp [laterKept, untrailed_cons, blank]

/-- A line that is not blank is joined to what has been written. -/
theorem continued_inked (started : Bool) {line after : List Char} {c : Char} (inked : c ≠ ' ')
    (begins : unindented (spaced line) = c :: after) (later : List (List Char))
    : continued started (laterKept (line :: later))
      = (if started then [' '] else []) ++ c :: lineThen true after later := by
  have written : ∀ (line : List Char) (others : List (List Char)),
      continued started ((c :: line) :: others)
        = (if started then [' '] else []) ++ c :: (line ++ continued true others) := by
    intro line others
    cases started <;> simp [continued, intercalate_cons]
  have trailed := rdropWhile_append_cons inked [] after
  rw [List.nil_append, List.nil_append] at trailed
  simp only [laterKept, List.map_cons, untrailed_cons, begins, List.map_eq_nil_iff, lineThen]
  split <;> simp [trailed, written]

theorem condensedFrom_break {c : Char} (isBreak : c = '\n' ∨ c = '\r') (state : LineState)
    (started : Bool) (rest : List Char)
    : condensedFrom state started (c :: rest) = condensedFrom .blankLine started rest := by
  cases state <;> simp [condensedFrom, isBreak]

theorem condensedFrom_space {c : Char} (noBreak : ¬ (c = '\n' ∨ c = '\r'))
    (isSpace : c = ' ' ∨ c = '\t') (state : LineState) (started : Bool) (rest : List Char)
    : condensedFrom state started (c :: rest)
      = condensedFrom
          (match state with
            | .blankLine => .blankLine
            | .spaces count => .spaces (count + 1))
          started rest := by
  cases state <;> rw [condensedFrom, if_neg noBreak, if_pos isSpace]

/-- What is written before the next character that is kept. -/
def LineState.waiting : LineState → Bool → List Char
  | .blankLine, started => if started then [' '] else []
  | .spaces count, _ => List.replicate count ' '

theorem condensedFrom_ink {c : Char} (noBreak : ¬ (c = '\n' ∨ c = '\r'))
    (noSpace : ¬ (c = ' ' ∨ c = '\t')) (state : LineState) (started : Bool) (rest : List Char)
    : condensedFrom state started (c :: rest)
      = state.waiting started ++ c :: condensedFrom (.spaces 0) true rest := by
  cases state with
  | spaces count => rw [condensedFrom, if_neg noBreak, if_neg noSpace, LineState.waiting]
  | blankLine =>
      rw [condensedFrom, if_neg noBreak, if_neg noSpace]
      cases started <;> rfl

/-- A line of spaces is nothing before a line break. -/
theorem lineThen_spaces (started : Bool) (count : Nat) {later : List (List Char)}
    (more : later ≠ [])
    : lineThen started (List.replicate count ' ') later = continued started (laterKept later) := by
  have nothing : (List.replicate count ' ').rdropWhile (· == ' ') = [] := by
    simp [List.rdropWhile_eq_nil_iff]
  simp [lineThen, more, nothing]

/-- Reading from anywhere in a text, by induction on its lines. The spaces that wait belong to the
line that is being read.
-/
theorem condensedFrom_lines (chars : List Char)
    : (∀ started,
        condensedFrom .blankLine started chars = continued started (laterKept (lines chars)))
      ∧ ∀ count started first later,
          lines chars = first :: later
          → condensedFrom (.spaces count) started chars
            = lineThen started (List.replicate count ' ' ++ spaced first) later := by
  have ended : ∀ rest : List Char, lines rest ≠ [] := by
    intro rest
    obtain ⟨first, later, isLines⟩ := lines_eq_cons rest
    simp [isLines]
  fun_induction lines chars with
  | case1 =>
      refine ⟨fun started => ?_, ?_⟩
      · cases started <;> rfl
      · rintro count started first later ⟨⟩
        cases started <;> simp [condensedFrom, lineThen, spaced, laterKept, untrailed, continued]
  | case2 rest ih =>
      refine ⟨fun started => ?_, ?_⟩
      · rw [continued_blank started rfl]
        simpa [condensedFrom] using ih.1 started
      · rintro count started first later ⟨⟩
        rw [spaced, List.map_nil, List.append_nil, lineThen_spaces _ _ (ended rest)]
        simpa [condensedFrom] using ih.1 started
  | case3 c rest _ isBreak ih =>
      refine ⟨fun started => ?_, ?_⟩
      · rw [continued_blank started rfl]
        simpa [condensedFrom, isBreak] using ih.1 started
      · rintro count started first later ⟨⟩
        rw [spaced, List.map_nil, List.append_nil, lineThen_spaces _ _ (ended rest)]
        simpa [condensedFrom, isBreak] using ih.1 started
  | case4 c rest _ noBreak ih =>
      obtain ⟨line, others, isLines⟩ := lines_eq_cons rest
      rw [isLines, List.modifyHead_cons]
      rw [isLines] at ih
      by_cases isSpace : c = ' ' ∨ c = '\t'
      · have space : spaced (c :: line) = ' ' :: spaced line := by
          rcases isSpace with rfl | rfl <;> rfl
        refine ⟨fun started => ?_, ?_⟩
        · have same : unindented (spaced (c :: line)) = unindented (spaced line) := by
            rw [space]
            rfl
          have read := condensedFrom_space noBreak isSpace (.blankLine) started rest
          rw [read, ih.1 started]
          simp only [laterKept, List.map_cons, same]
        · rintro count started first later ⟨⟩
          have read := condensedFrom_space noBreak isSpace (.spaces count) started rest
          rw [read, ih.2 (count + 1) started line others rfl, space, List.replicate_succ',
            List.append_assoc]
          rfl
      · have inked : c ≠ ' ' := fun same => isSpace (.inl same)
        have same : spaced (c :: line) = c :: spaced line := by
          simp only [spaced, List.map_cons, if_neg (fun isTab => isSpace (.inr isTab))]
        have begins : unindented (spaced (c :: line)) = c :: spaced line := by
          simp [unindented, same, inked]
        have written := ih.2 0 true line others rfl
        rw [List.replicate_zero, List.nil_append] at written
        refine ⟨fun started => ?_, ?_⟩
        · rw [continued_inked started inked begins, condensedFrom_ink noBreak isSpace, written]
          rfl
        · rintro count started first later ⟨⟩
          rw [same, lineThen_append_cons inked, condensedFrom_ink noBreak isSpace, written]
          rfl

/-- A text is condensed to the lines that are kept of it, with a space between each two. -/
theorem condensedFrom_kept (chars : List Char)
    : condensedFrom (.spaces 0) false chars = [' '].intercalate (kept (lines chars)) := by
  obtain ⟨first, later, isLines⟩ := lines_eq_cons chars
  rw [(condensedFrom_lines chars).2 0 false first later isLines, isLines]
  simp only [lineThen, kept, untrailed_cons, List.map_eq_nil_iff, List.replicate_zero,
    List.nil_append]
  generalize (if later = [] then spaced first else (spaced first).rdropWhile (· == ' ')) = line
  cases line with
  | nil => simp [continued, laterKept]
  | cons c line => simp [continued, laterKept, intercalate_cons]

-----------------------------------------------------------------------------------------
-- What is kept
-----------------------------------------------------------------------------------------

def HasBreak (chars : List Char) : Prop :=
  '\n' ∈ chars ∨ '\r' ∈ chars

/-- The characters that are no spaces, tabs or line breaks. -/
def inked (chars : List Char) : List Char :=
  chars.filter fun c => c ∉ [' ', '\t', '\n', '\r']

/-- A line break, as it may be written. -/
inductive LineBreak where
  | feed
  | carriageReturn
  | both

def LineBreak.chars : LineBreak → List Char
  | .feed => ['\n']
  | .carriageReturn => ['\r']
  | .both => ['\r', '\n']

/-- Lines with the line breaks that end them, and what comes after the last. -/
def broken (lines : List (List Char × LineBreak)) (last : List Char) : List Char :=
  lines.flatMap (fun line => line.1 ++ line.2.chars) ++ last

theorem mem_waiting {state : LineState} {started : Bool} {c : Char}
    (member : c ∈ state.waiting started)
    : c = ' ' := by
  cases state with
  | blankLine => cases started <;> simp_all [LineState.waiting]
  | spaces count => exact List.eq_of_mem_replicate member

theorem condensedFrom_nil (state : LineState) (started : Bool)
    : condensedFrom state started [] = state.waiting false := by
  cases state <;> rfl

/-- No line break and no tab is written, by induction on the text. -/
theorem mem_condensedFrom {chars : List Char} {c : Char}
    : ∀ {state started},
        c ∈ condensedFrom state started chars → c ∉ ['\n', '\r', '\t'] := by
  induction chars with
  | nil =>
      intro state started member
      rw [condensedFrom_nil] at member
      simp [mem_waiting member]
  | cons first rest ih =>
      intro state started member
      by_cases isBreak : first = '\n' ∨ first = '\r'
      · rw [condensedFrom_break isBreak] at member
        exact ih member
      by_cases isSpace : first = ' ' ∨ first = '\t'
      · rw [condensedFrom_space isBreak isSpace] at member
        exact ih member
      rw [condensedFrom_ink isBreak isSpace, List.mem_append, List.mem_cons] at member
      rcases member with waiting | rfl | later
      · simp [mem_waiting waiting]
      · simp_all
      · exact ih later

theorem inked_append (chars others : List Char)
    : inked (chars ++ others) = inked chars ++ inked others :=
  List.filter_append ..

theorem inked_cons {c : Char} (ink : c ∉ [' ', '\t', '\n', '\r']) (rest : List Char)
    : inked (c :: rest) = c :: inked rest :=
  List.filter_cons_of_pos (decide_eq_true ink)

theorem inked_waiting (state : LineState) (started : Bool)
    : inked (state.waiting started) = [] := by
  refine List.filter_eq_nil_iff.mpr fun c member => ?_
  simp [mem_waiting member]

/-- The characters that are no spaces are written in order, by induction on the text. -/
theorem inked_condensedFrom (chars : List Char)
    : ∀ state started, inked (condensedFrom state started chars) = inked chars := by
  induction chars with
  | nil => exact fun state started => by rw [condensedFrom_nil, inked_waiting]; rfl
  | cons first rest ih =>
      intro state started
      by_cases isBreak : first = '\n' ∨ first = '\r'
      · rw [condensedFrom_break isBreak, ih]
        rcases isBreak with rfl | rfl <;> rfl
      by_cases isSpace : first = ' ' ∨ first = '\t'
      · rw [condensedFrom_space isBreak isSpace, ih]
        rcases isSpace with rfl | rfl <;> rfl
      have ink : first ∉ [' ', '\t', '\n', '\r'] := by simp_all
      rw [condensedFrom_ink isBreak isSpace, inked_append, inked_waiting, inked_cons ink, ih,
        inked_cons ink]
      rfl

/-- A text without line breaks is one line. -/
theorem lines_unbroken {chars : List Char} (unbroken : ¬ HasBreak chars)
    : lines chars = [chars] := by
  fun_induction lines chars with
  | case1 => rfl
  | case2 => simp [HasBreak] at unbroken
  | case3 c rest _ isBreak => rcases isBreak with rfl | rfl <;> simp [HasBreak] at unbroken
  | case4 c rest _ noBreak ih =>
      simp only [HasBreak, List.mem_cons, not_or] at unbroken
      rw [ih (by simp [HasBreak, unbroken]), List.modifyHead_cons]

/-- Texts that are read alike are read alike after any characters, by induction on these. -/
theorem condensedFrom_append {rest other : List Char}
    (same : ∀ state started, condensedFrom state started rest = condensedFrom state started other)
    (chars : List Char)
    : ∀ state started,
        condensedFrom state started (chars ++ rest)
        = condensedFrom state started (chars ++ other) := by
  induction chars with
  | nil => exact same
  | cons first chars ih =>
      intro state started
      rw [List.cons_append, List.cons_append]
      by_cases isBreak : first = '\n' ∨ first = '\r'
      · rw [condensedFrom_break isBreak, condensedFrom_break isBreak, ih]
      by_cases isSpace : first = ' ' ∨ first = '\t'
      · rw [condensedFrom_space isBreak isSpace, condensedFrom_space isBreak isSpace, ih]
      rw [condensedFrom_ink isBreak isSpace, condensedFrom_ink isBreak isSpace, ih]

theorem condensedFrom_lineBreak (lineBreak : LineBreak) (state : LineState) (started : Bool)
    (rest : List Char)
    : condensedFrom state started (lineBreak.chars ++ rest)
      = condensedFrom .blankLine started rest := by
  cases lineBreak with
  | feed => exact condensedFrom_break (.inl rfl) ..
  | carriageReturn => exact condensedFrom_break (.inr rfl) ..
  | both =>
      exact (condensedFrom_break (.inr rfl) ..).trans (condensedFrom_break (.inl rfl) ..)

/-- How the line breaks of a text are written does not matter, by induction on its lines. -/
theorem condensedFrom_broken {written others : List (List Char × LineBreak)} (last : List Char)
    (same : written.map Prod.fst = others.map Prod.fst)
    : ∀ state started,
        condensedFrom state started (broken written last)
        = condensedFrom state started (broken others last) := by
  induction written generalizing others with
  | nil =>
      obtain rfl := List.map_eq_nil_iff.mp same.symm
      exact fun _ _ => rfl
  | cons line written ih =>
      cases others with
      | nil => cases same
      | cons other others =>
          obtain ⟨sameLine, sameLines⟩ := List.cons.inj same
          simp only [broken, List.flatMap_cons, List.append_assoc, sameLine]
          refine condensedFrom_append (fun state started => ?_) other.1
          rw [condensedFrom_lineBreak, condensedFrom_lineBreak]
          exact ih sameLines ..

-----------------------------------------------------------------------------------------
-- Whole texts
-----------------------------------------------------------------------------------------

theorem condense?_eq (text : String)
    : condense? text
      = if condensedFrom (.spaces 0) false text.toList = [] then
          none
        else
          some (String.ofList (condensedFrom (.spaces 0) false text.toList)) := by
  rw [condense?]
  split <;> simp_all

theorem kept_nonempty {all : List (List Char)} {line : List Char} (member : line ∈ kept all)
    : line ≠ [] := by
  cases all with
  | nil => cases member
  | cons first later => simpa using (List.mem_filter.mp member).2

/-- A text is condensed to nothing exactly when no line of it is kept. -/
theorem condense?_kept (text : String)
    : condense? text
      = if kept (lines text.toList) = [] then
          none
        else
          some (String.ofList ([' '].intercalate (kept (lines text.toList)))) := by
  rw [condense?_eq, condensedFrom_kept]
  have nonempty : ∀ line ∈ kept (lines text.toList), line ≠ [] := fun line => kept_nonempty
  cases isKept : kept (lines text.toList) with
  | nil => rfl
  | cons first later =>
      have written : [' '].intercalate (first :: later) ≠ [] := by
        simp [intercalate_cons, nonempty first (by simp [isKept])]
      rw [if_neg written, if_neg (List.cons_ne_nil first later)]

theorem condense?_unbroken {text : String} (unbroken : ¬ HasBreak text.toList)
    : condense? text
      = if text = "" then none else some (String.ofList (spaced text.toList)) := by
  rw [condense?_kept, lines_unbroken unbroken]
  by_cases empty : text = ""
  · simp [empty, kept, spaced, untrailed]
  · have some : spaced text.toList ≠ [] := by simpa [spaced] using empty
    simp [kept, untrailed, some, empty]

/-- What is condensed once stays as it is. -/
theorem condense?_of_some {raw text : String} (condensed : condense? raw = some text)
    : (∀ c ∈ text.toList, c ∉ ['\n', '\r', '\t'])
      ∧ inked text.toList = inked raw.toList
      ∧ condense? text = some text := by
  rw [condense?_eq] at condensed
  split at condensed
  · cases condensed
  next written =>
      obtain rfl := Option.some.inj condensed
      have flat : ∀ c ∈ (String.ofList (condensedFrom (.spaces 0) false raw.toList)).toList,
          c ∉ ['\n', '\r', '\t'] := by
        intro c member
        rw [String.toList_ofList] at member
        exact mem_condensedFrom member
      refine ⟨flat, by rw [String.toList_ofList, inked_condensedFrom], ?_⟩
      have unbroken
          : ¬ HasBreak (String.ofList (condensedFrom (.spaces 0) false raw.toList)).toList := by
        rintro (feed | carriageReturn)
        · exact flat _ feed (by simp)
        · exact flat _ carriageReturn (by simp)
      have same : spaced (condensedFrom (.spaces 0) false raw.toList)
          = condensedFrom (.spaces 0) false raw.toList := by
        refine (List.map_congr_left fun c member => if_neg fun isTab => ?_).trans (List.map_id' _)
        exact mem_condensedFrom member (by simp [isTab])
      rw [condense?_unbroken unbroken, if_neg (by simpa using written), String.toList_ofList, same]

/-- Condensing keeps the lines of a text, as the line rule says, and a text of one line as it is but
for its tabs. What it gives has no line break and no tab, the characters of the text in order, and
stays as it is when it is condensed again. How the line breaks are written does not matter.
-/
theorem condense_lines (raw : String)
    : (HasBreak raw.toList
        → condense? raw
          = if kept (lines raw.toList) = [] then
              none
            else
              some (String.ofList ([' '].intercalate (kept (lines raw.toList)))))
      ∧ (¬ HasBreak raw.toList
        → condense? raw = if raw = "" then none else some (String.ofList (spaced raw.toList)))
      ∧ (∀ text,
          condense? raw = some text
          → (∀ c ∈ text.toList, c ∉ ['\n', '\r', '\t'])
            ∧ inked text.toList = inked raw.toList
            ∧ condense? text = some text)
      ∧ (condense? raw = none → inked raw.toList = [])
      ∧ ∀ (written others : List (List Char × LineBreak)) last,
          written.map Prod.fst = others.map Prod.fst
          → condense? (String.ofList (broken written last))
            = condense? (String.ofList (broken others last)) := by
  refine ⟨fun _ => condense?_kept raw, condense?_unbroken, fun text => condense?_of_some, ?_, ?_⟩
  · intro nothing
    rw [condense?_eq] at nothing
    split at nothing
    next empty => rw [← inked_condensedFrom raw.toList (.spaces 0) false, empty]; rfl
    next => cases nothing
  · intro written others last same
    simp only [condense?_eq, String.toList_ofList, condensedFrom_broken last same]

/-- An indented text with a blank line and two kinds of line breaks, a text of one line, and one of
blank lines only.
-/
theorem condense_lines_indented
    : let raw := " one \r\n\t two\t2 \n  \n"
      HasBreak raw.toList
      ∧ condense? raw = some " one two 2"
      ∧ inked raw.toList = inked " one two 2".toList
      ∧ condense? " one two 2" = some " one two 2"
      ∧ condense? " a\t" = some " a "
      ∧ (condense? "\n \n" = none ∧ inked "\n \n".toList = [])
      ∧ condense? "one\r\ntwo" = condense? "one\rtwo" := by
  have hasBreak : HasBreak " one \r\n\t two\t2 \n  \n".toList := .inl (by decide)
  have ruled := condense_lines " one \r\n\t two\t2 \n  \n"
  have condensed : condense? " one \r\n\t two\t2 \n  \n" = some " one two 2" :=
    (ruled.1 hasBreak).trans (by decide +kernel)
  obtain ⟨-, same, again⟩ := ruled.2.2.1 _ condensed
  have nothing : condense? "\n \n" = none :=
    ((condense_lines "\n \n").1 (.inl (by decide))).trans (by decide +kernel)
  refine ⟨hasBreak, condensed, same.symm, again, ?_, ?_, ?_⟩
  · exact ((condense_lines " a\t").2.1 (by simp [HasBreak])).trans (by decide +kernel)
  · exact ⟨nothing, (condense_lines "\n \n").2.2.2.1 nothing⟩
  · exact ruled.2.2.2.2 [("one".toList, .both)] [("one".toList, .carriageReturn)] "two".toList rfl

end TaggedMarkup.Text
