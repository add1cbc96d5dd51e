import TaggedMarkup.Proofs.Reading.Cuts

/-! A template that is read byte by byte comes to the same as one that is read character by
character, and no cut fails. The special characters are all of one byte. A character of several
bytes has none below 128, so all but the first of them are read in states that do not look at
them, and a section begins and ends between characters.
-/

namespace TaggedMarkup.Bytes

open Scanner (Mode Scanned)

-----------------------------------------------------------------------------------------
-- Steps
-----------------------------------------------------------------------------------------

/-- The registers hold what a mode of the reader of characters holds. In a comment it is not yet
reached what would have ended the comment before.
-/
def Registers.Shows (registers : Registers) (fragment : Nat) (read : String) (rest : List Char)
    : Mode → Prop
  | .text run offset =>
      registers.state = .text ∧ registers.sectionStart = offset ∧ registers.Reads read run
  | .tagStart start => registers.state = .tagStart ∧ registers.tagStart = start
  | .tagName start name =>
      registers.state = .tagName ∧ registers.tagStart = start ∧ registers.Reads read name
  | .selfClosing => registers.state = .selfClosing
  | .closingName start name =>
      registers.state = .closingName ∧ registers.tagStart = start ∧ registers.Reads read name
  | .closingEnd start name =>
      registers.state = .closingEnd
      ∧ registers.tagStart = start
      ∧ registers.closingName = name
  | .beforeAttribute => registers.state = .beforeAttribute
  | .attributeName start name =>
      registers.state = .attributeName
      ∧ start = ⟨fragment, registers.sectionStart⟩
      ∧ registers.Reads read name
  | .afterAttributeName start name =>
      registers.state = .afterAttributeName ∧ registers.pending = some (name, start)
  | .beforeValue start name =>
      registers.state = .beforeValue ∧ registers.pending = some (name, start)
  | .quotedValue quote start name value =>
      registers.state = .quotedValue quote.toUInt8
      ∧ quote.val ≤ 127
      ∧ registers.pending = some (name, start)
      ∧ registers.Reads read value
  | .unquotedValue start name value =>
      registers.state = .unquotedValue
      ∧ registers.pending = some (name, start)
      ∧ registers.Reads read value
  | .afterValue => registers.state = .afterValue
  | .spread start dots =>
      registers.state = .spread ∧ registers.spreadStart = start ∧ registers.dots = dots
  | .commentStart _ => False
  | .comment hyphens =>
      registers.state = .comment
      ∧ (1 ≤ hyphens → ¬ ['-', '>'] <+: rest)
      ∧ (hyphens = 2 → ¬ ['>'] <+: rest)

/-- What a byte leads to is what the character that it begins leads to. -/
inductive Agrees (fragment : Nat) (read : String) (rest : List Char)
    : Option Outcome → Scanner.Outcome → Prop
  | error (error : Error) : Agrees fragment read rest (some (.error error)) (.error error)
  | ok (tokens : List Token) {registers : Registers} {mode : Mode}
    (shows : registers.Shows fragment read rest mode)
    : Agrees fragment read rest (some (.ok (tokens, registers, 0))) (.ok (tokens, mode))

variable {cursor : Cursor} {read : String} {rest : List Char} {c : Char} {registers : Registers}
  {written : String} {fragment : Nat} {tokens : List Token}

theorem Registers.Reads.push (reads : registers.Reads read written) (c : Char)
    : registers.Reads (read.push c) (written.push c) := by
  obtain ⟨before, rfl, isStart⟩ := reads
  exact ⟨before, Scanner.push_append .., isStart⟩

/-- A section that begins at the cursor has one character when that is read. -/
theorem Registers.Reads.begin (stands : cursor.At read rest) (c : Char)
    (isStart : registers.sectionStart = cursor.index)
    : registers.Reads (read.push c) (String.singleton c) :=
  ⟨read, String.push_eq_append c, isStart.trans stands.index⟩

/-- A section that begins behind a character of one byte. -/
theorem Registers.Reads.behind (stands : cursor.At read rest) {c : Char} (narrow : c.utf8Size = 1)
    (isStart : registers.sectionStart = cursor.index + 1)
    : registers.Reads (read.push c) "" := by
  refine ⟨read.push c, String.append_empty.symm, ?_⟩
  rw [isStart, stands.index, String.utf8ByteSize_push, narrow]

/-- The section reaches to the cursor. -/
theorem Cursor.At.index_eq (stands : cursor.At read rest) (reads : registers.Reads read written)
    : cursor.index = registers.sectionStart + written.utf8ByteSize := by
  obtain ⟨before, rfl, isStart⟩ := reads
  rw [stands.index, isStart, String.utf8ByteSize_append]

theorem Cursor.At.closesItself? (stands : cursor.At read (c :: rest))
    : cursor.closesItself? (lead c) = some (decide (c = '/' ∧ rest.head? = some '>')) := by
  simp (disch := decide) only [Cursor.closesItself?, lead_eq_iff]
  split
  next isSlash =>
      subst isSlash
      have behind
          : (bytesOf (String.ofList ('/' :: rest)))[1]? = (bytesOf (String.ofList rest))[0]? := by
        rw [Scanner.ofList_cons, bytesOf_append, bytesOf_singleton]
        rfl
      rw [stands.rest?, Option.map_some, behind]
      cases rest with
      | nil => rfl
      | cons d others =>
          have first := getElem?_bytesOf_lead "" d others
          rw [String.empty_append, String.utf8ByteSize_empty] at first
          rw [first, List.head?_cons]
          congr 1
          rw [Bool.eq_iff_iff]
          simp (disch := decide) [lead_eq_iff]
  next notSlash => simp [notSlash]

namespace Agrees

theorem pass {mode : Mode} (shows : registers.Shows fragment read rest mode)
    : Agrees fragment read rest (pass tokens registers) (.ok (tokens, mode)) :=
  .ok tokens shows

theorem unexpected (stands : cursor.At read (c :: rest)) (place : CharacterPlace)
    : Agrees cursor.fragment (read.push c) rest (cursor.unexpected? place)
        (.error (.unexpectedCharacter c place ⟨cursor.fragment, read.utf8ByteSize⟩)) := by
  rw [stands.unexpected?]
  exact .error _

theorem textBehind (stands : cursor.At read (c :: rest)) (narrow : c.utf8Size = 1)
    : ({ registers with state := .text, sectionStart := cursor.index + 1 } : Registers).Shows
        cursor.fragment (read.push c) rest
        (Scanner.textAfter ⟨cursor.fragment, read.utf8ByteSize⟩ c) := by
  refine ⟨rfl, ?_, .behind stands narrow rfl⟩
  rw [stands.index, narrow]

theorem endTag (stands : cursor.At read (c :: rest)) (narrow : c.utf8Size = 1)
    (selfClosing : Bool)
    : Agrees cursor.fragment (read.push c) rest (cursor.endTag tokens selfClosing registers)
        (Scanner.endTag tokens selfClosing ⟨cursor.fragment, read.utf8ByteSize⟩ c) :=
  pass (textBehind stands narrow)

/-- The characters that may not begin an attribute are tested one after the other. -/
theorem stepBeforeAttribute_eq (tokens : List Token) (here : Location) (c : Char)
    : Scanner.stepBeforeAttribute tokens here c
      = if Scanner.isSpace c then .ok (tokens, .beforeAttribute)
        else if c = '>' then Scanner.endTag tokens false here c
        else if c = '/' then .ok (tokens, .selfClosing)
        else if c = '=' then .error (.missingAttributeName here)
        else if c = '.' then .ok (tokens, .spread here 1)
        else if c = '"' ∨ c = '\'' ∨ c = '<' then
          .error (.unexpectedCharacter c .beforeAttributeName here)
        else .ok (tokens, .attributeName here (String.singleton c)) := by
  by_cases special : c ∈ ['>', '/', '=', '.', '"', '\'', '<']
  · simp only [List.mem_cons, List.not_mem_nil, or_false] at special
    rcases special with rfl | rfl | rfl | rfl | rfl | rfl | rfl <;> rfl
  · simp only [List.mem_cons, List.not_mem_nil, or_false, not_or] at special
    simp [Scanner.stepBeforeAttribute, special]

theorem stepBeforeAttribute (stands : cursor.At read (c :: rest))
    : Agrees cursor.fragment (read.push c) rest
        (stepBeforeAttribute? cursor tokens registers (lead c))
        (Scanner.stepBeforeAttribute tokens ⟨cursor.fragment, read.utf8ByteSize⟩ c) := by
  rw [stepBeforeAttribute_eq]
  simp (disch := decide) only [stepBeforeAttribute?, isSpace_lead, lead_eq_iff]
  split
  · exact pass rfl
  split
  next isEnd =>
      subst isEnd
      exact endTag stands rfl false
  split
  · exact pass rfl
  split
  · exact stands.here ▸ .error _
  split
  · exact pass ⟨rfl, stands.here, rfl⟩
  split
  · exact unexpected stands _
  · exact pass ⟨rfl, stands.index ▸ rfl, .begin stands c rfl⟩

end Agrees

theorem isSpace_narrow {c : Char} (isBlank : Scanner.isSpace c = true) : c.utf8Size = 1 := by
  simp only [Scanner.isSpace, Bool.or_eq_true, beq_iff_eq] at isBlank
  rcases isBlank with (((rfl | rfl) | rfl) | rfl) | rfl <;> rfl

/-- A character from which the beginning or the end of a comment is read at once. -/
def Jumps (c : Char) (rest : List Char) : Mode → Prop
  | .tagStart _ => c = '!' ∧ ['-', '-'] <+: rest
  | .comment _ => c = '-' ∧ ['-', '>'] <+: rest
  | _ => False

/-- The first byte of a character leads to what the character leads to. -/
theorem agrees_step (stands : cursor.At read (c :: rest)) (mode : Mode)
    (shows : registers.Shows cursor.fragment read (c :: rest) mode) (stays : ¬ Jumps c rest mode)
    : Agrees cursor.fragment (read.push c) rest (step? cursor registers (lead c))
        (Scanner.step mode ⟨cursor.fragment, read.utf8ByteSize⟩ c rest) := by
  cases mode with
  | text run offset =>
      obtain ⟨state, rfl, reads⟩ := shows
      simp (disch := decide) only [step?, state, lead_eq_iff, Scanner.step]
      split
      · rw [stands.text? reads, Option.bind_some]
        exact .pass ⟨rfl, stands.here⟩
      · exact .pass ⟨state, rfl, reads.push c⟩
  | tagStart start =>
      obtain ⟨state, rfl⟩ := shows
      simp (disch := decide) only [step?, state, isLetter_lead, lead_eq_iff, Scanner.step]
      split
      next isSlash =>
          subst isSlash
          exact .pass ⟨rfl, rfl, .behind stands rfl rfl⟩
      split
      next isEnd =>
          subst isEnd
          exact .endTag stands rfl false
      split
      next isMark =>
          subst isMark
          have notComment : ['-', '-'].isPrefixOf rest = false := by
            simpa [Jumps, ← List.isPrefixOf_iff_prefix] using stays
          rw [stands.rest?, Option.bind_some]
          simp only [List.isPrefixOf, notComment, BEq.rfl, Bool.and_false, Bool.false_eq_true,
            if_false]
          exact .unexpected stands _
      split
      · exact .pass ⟨rfl, rfl, .begin stands c rfl⟩
      · exact .unexpected stands _
  | tagName start name =>
      obtain ⟨state, rfl, reads⟩ := shows
      simp (disch := decide) only [step?, state, isSpace_lead, lead_eq_iff, Scanner.step]
      split
      · rw [(stands.section? reads).1, Option.bind_some]
        exact .stepBeforeAttribute stands
      · exact .pass ⟨state, rfl, reads.push c⟩
  | selfClosing =>
      have state : registers.state = .selfClosing := shows
      simp (disch := decide) only [step?, state, lead_eq_iff, Scanner.step]
      split
      next isEnd =>
          subst isEnd
          exact .endTag stands rfl true
      · exact .unexpected stands _
  | closingName start name =>
      obtain ⟨state, rfl, reads⟩ := shows
      simp (disch := decide) only [step?, state, isSpace_lead, lead_eq_iff, Scanner.step]
      have isEmpty : cursor.index = registers.sectionStart ↔ name.isEmpty = true := by
        rw [stands.index_eq reads, String.isEmpty_iff_utf8ByteSize_eq_zero]
        omega
      simp only [(stands.section? reads).1, Option.bind_some, isEmpty, ← String.isEmpty_iff]
      split
      next isEnd =>
          subst isEnd
          exact .pass (Agrees.textBehind stands rfl)
      split
      next isBlank =>
          split
          next nothing =>
              obtain rfl := String.isEmpty_iff.mp nothing
              exact .pass ⟨rfl, rfl, .behind stands (isSpace_narrow isBlank) rfl⟩
          next => exact .pass ⟨rfl, rfl, rfl⟩
      next => exact .pass ⟨state, rfl, reads.push c⟩
  | closingEnd start name =>
      obtain ⟨state, rfl, rfl⟩ := shows
      simp (disch := decide) only [step?, state, isSpace_lead, lead_eq_iff, Scanner.step]
      split
      next isEnd =>
          subst isEnd
          exact .pass (Agrees.textBehind stands rfl)
      split
      · exact .pass ⟨state, rfl, rfl⟩
      · exact .unexpected stands _
  | beforeAttribute =>
      have state : registers.state = .beforeAttribute := shows
      simp only [step?, state]
      exact .stepBeforeAttribute stands
  | attributeName start name =>
      obtain ⟨state, rfl, reads⟩ := shows
      obtain ⟨cut, location⟩ := stands.section? reads
      simp (disch := decide) only [step?, state, isSpace_lead, lead_eq_iff, Scanner.step, cut,
        location, Option.bind_some]
      by_cases isEquals : c = '='
      · simp only [isEquals, true_or, if_true]
        exact .pass ⟨rfl, rfl⟩
      by_cases isBlank : Scanner.isSpace c = true
      · simp only [isEquals, isBlank, or_true, if_true, if_false]
        exact .pass ⟨rfl, rfl⟩
      have notBlank : Scanner.isSpace c = false := by simpa using isBlank
      by_cases isSlash : c = '/'
      · subst isSlash
        exact .pass rfl
      by_cases isEnd : c = '>'
      · subst isEnd
        exact .endTag stands rfl false
      simp only [isEquals, notBlank, isSlash, isEnd, Bool.false_eq_true, or_false, if_false]
      split
      · exact .unexpected stands _
      · exact .pass ⟨state, rfl, reads.push c⟩
  | afterAttributeName start name =>
      obtain ⟨state, pending⟩ := shows
      have bare : registers.bare = [.attribute name .bare start] := by
        simp [Registers.bare, pending]
      simp (disch := decide) only [step?, state, isSpace_lead, lead_eq_iff, Scanner.step, bare]
      split
      · exact .pass ⟨state, pending⟩
      split
      · exact .pass ⟨rfl, pending⟩
      split
      · exact .unexpected stands _
      · exact .stepBeforeAttribute stands
  | beforeValue start name =>
      obtain ⟨state, pending⟩ := shows
      simp (disch := decide) only [step?, state, isSpace_lead, lead_eq_iff, Scanner.step,
        Cursor.awaited, pending, Option.getD_some]
      split
      · exact .pass ⟨state, pending⟩
      split
      next isQuote =>
          have narrow : c.val ≤ 127 := by
            rcases isQuote with rfl | rfl <;> decide
          rw [lead_narrow narrow]
          exact .pass
            ⟨rfl, narrow, rfl, .behind stands (Char.utf8Size_eq_one_iff.mpr narrow) rfl⟩
      split
      · exact .error _
      · exact .pass ⟨rfl, rfl, .begin stands c rfl⟩
  | quotedValue quote start name value =>
      obtain ⟨state, narrow, pending, reads⟩ := shows
      simp only [step?, state, lead_eq_iff narrow, Scanner.step, stands.valued? reads pending,
        Option.bind_some]
      split
      · exact .pass rfl
      · exact .pass ⟨state, narrow, pending, reads.push c⟩
  | unquotedValue start name value =>
      obtain ⟨state, pending, reads⟩ := shows
      simp (disch := decide) only [step?, state, isSpace_lead, lead_eq_iff, Scanner.step,
        stands.valued? reads pending, stands.closesItself?, Option.bind_some, decide_eq_true_eq]
      split
      · exact .pass rfl
      split
      next isEnd =>
          subst isEnd
          exact .endTag stands rfl false
      split
      · exact .pass rfl
      split
      · exact .unexpected stands _
      · exact .pass ⟨state, pending, reads.push c⟩
  | afterValue =>
      have state : registers.state = .afterValue := shows
      simp (disch := decide) only [step?, state, isSpace_lead, lead_eq_iff, Scanner.step]
      split
      · exact .pass rfl
      split
      next isEnd =>
          subst isEnd
          exact .endTag stands rfl false
      split
      · exact .pass rfl
      · exact .unexpected stands _
  | spread start dots =>
      obtain ⟨state, rfl, rfl⟩ := shows
      simp (disch := decide) only [step?, state, lead_eq_iff, Scanner.step]
      split
      · exact .pass ⟨rfl, rfl, rfl⟩
      · exact .unexpected stands _
  | commentStart remaining => exact shows.elim
  | comment hyphens =>
      obtain ⟨state, closed, closed'⟩ := shows
      simp (disch := decide) only [step?, state, lead_eq_iff, Scanner.step]
      split
      next isHyphen =>
          subst isHyphen
          have notEnd : ['-', '>'].isPrefixOf rest = false := by
            simpa [Jumps, ← List.isPrefixOf_iff_prefix] using stays
          rw [stands.rest?, Option.bind_some]
          simp only [List.isPrefixOf, notEnd, BEq.rfl, Bool.and_false, Bool.false_eq_true, if_false]
          refine .pass ⟨state, fun _ => by simpa [Jumps] using stays, fun isTwo => ?_⟩
          have before := closed (by omega)
          simpa using before
      next =>
          have goesOn : ¬ (c = '>' ∧ hyphens = 2) := by
            rintro ⟨rfl, isTwo⟩
            exact closed' isTwo ⟨rest, rfl⟩
          rw [if_neg goesOn]
          exact .pass ⟨state, by simp, by simp⟩


-----------------------------------------------------------------------------------------
-- Characters of several bytes
-----------------------------------------------------------------------------------------

/-- A state in which a byte that begins no character of one byte changes nothing. -/
def State.Rests : State → Prop
  | .text | .tagName | .closingName | .attributeName | .unquotedValue | .comment => True
  | .quotedValue quote => quote < 128
  | _ => False

theorem ne_of_high {byte : UInt8} (high : 128 ≤ byte) {d : Char} (narrow : d.val ≤ 127)
    : byte ≠ d.toUInt8 := by
  rintro rfl
  have large := UInt8.le_iff_toNat_le.mp high
  have small : d.val.toNat ≤ 127 := UInt32.le_iff_toNat_le.mp narrow
  rw [toNat_toUInt8 narrow] at large
  exact absurd (Nat.le_trans large small) (by decide)

theorem step?_rests {byte : UInt8} (rests : registers.state.Rests) (high : 128 ≤ byte)
    : step? cursor registers byte = pass [] registers := by
  have other {d : Char} (narrow : d.val ≤ 127) : ¬ byte = d.toUInt8 := ne_of_high high narrow
  have notSpace : isSpace byte = false := by
    simp (disch := decide) [isSpace, other]
  cases state : registers.state with
  | quotedValue quote =>
      have low : quote < 128 := by simpa [state, State.Rests] using rests
      have notQuote : ¬ byte = quote := fun same => absurd (same ▸ high) (UInt8.not_le.mpr low)
      simp only [step?, state, notQuote, if_false]
  | unquotedValue =>
      simp (disch := decide) [step?, state, notSpace, other, Cursor.closesItself?]
  | text | tagName | closingName | attributeName | comment =>
      simp (disch := decide) [step?, state, notSpace, other]
  | _ => simp [state, State.Rests] at rests

/-- A mode in which the reader of bytes rests. -/
def RestsAt : Mode → Prop
  | .text .. | .tagName .. | .closingName .. | .attributeName .. | .quotedValue ..
  | .unquotedValue .. | .commentStart _ | .comment _ =>
      True
  | _ => False

theorem Registers.Shows.rests {mode : Mode} (shows : registers.Shows fragment read rest mode)
    (rests : RestsAt mode)
    : registers.state.Rests := by
  cases mode with
  | text | tagName | closingName | attributeName | unquotedValue | comment =>
      rw [shows.1]
      trivial
  | quotedValue quote start name value =>
      obtain ⟨state, narrow, -⟩ := shows
      have small : quote.val.toNat ≤ 127 := UInt32.le_iff_toNat_le.mp narrow
      rw [state, State.Rests, UInt8.lt_iff_toNat_lt, toNat_toUInt8 narrow]
      exact Nat.lt_succ_of_le small
  | commentStart => exact shows.elim
  | _ => exact rests.elim

/-- A character of several bytes leads to a mode in which the reader of bytes rests. -/
theorem step_wide {mode next : Mode} {here : Location} (wide : 127 < c.val)
    (shows : registers.Shows fragment read (c :: rest) mode)
    (stepped : Scanner.step mode here c rest = .ok (tokens, next))
    : RestsAt next := by
  have other {d : Char} (narrow : d.val ≤ 127) : ¬ c = d := by
    rintro rfl
    exact absurd narrow (UInt32.not_le.mpr wide)
  have notSpace : Scanner.isSpace c = false := by
    simp (disch := decide) [Scanner.isSpace, other]
  have begins {tokens before : List Token} {next : Mode}
      (stepped : Scanner.stepBeforeAttribute before here c = .ok (tokens, next))
      : RestsAt next := by
    simp (disch := decide) only [Agrees.stepBeforeAttribute_eq, notSpace, other, or_self,
      Bool.false_eq_true, if_false] at stepped
    obtain ⟨-, rfl⟩ := Prod.mk.inj (Except.ok.inj stepped)
    trivial
  cases mode with
  | tagStart start =>
      have above {d : Char} (narrow : d.val ≤ 127) : ¬ c ≤ d := fun below =>
        absurd (UInt32.le_trans (Char.le_def.mp below) narrow) (UInt32.not_le.mpr wide)
      have notLetter : Html.isLetter c = false := by
        simp (disch := decide) [Html.isLetter, Html.isCapital, Html.isSmall, above]
      simp (disch := decide) [Scanner.step, other, notLetter] at stepped
  | beforeAttribute => exact begins stepped
  | afterAttributeName start name =>
      simp (disch := decide) only [Scanner.step, notSpace, other, or_self, Bool.false_eq_true,
        if_false] at stepped
      exact begins stepped
  | commentStart remaining =>
      obtain ⟨-, rfl⟩ := Prod.mk.inj (Except.ok.inj stepped)
      split <;> trivial
  | quotedValue quote start name value =>
      simp only [Scanner.step, other shows.2.1, if_false] at stepped
      obtain ⟨-, rfl⟩ := Prod.mk.inj (Except.ok.inj stepped)
      trivial
  | _ =>
      simp (disch := decide) only [Scanner.step, notSpace, other, or_self, Bool.false_eq_true,
        false_and, if_false] at stepped
      cases stepped <;> trivial

-----------------------------------------------------------------------------------------
-- Runs
-----------------------------------------------------------------------------------------

/-- The cursor when some bytes have been passed. -/
def Cursor.moved (cursor : Cursor) (count : Nat) : Cursor :=
  { cursor with index := cursor.index + count }

theorem Cursor.At.moved (stands : cursor.At read (c :: rest))
    : (cursor.moved c.utf8Size).At (read.push c) rest where
  input := by
    rw [Cursor.moved, stands.input, Scanner.ofList_cons, String.push_eq_append,
      String.append_assoc]
  index := by rw [Cursor.moved, stands.index, String.utf8ByteSize_push]
  few := stands.few
  short := stands.short

theorem run?_end (stands : cursor.At read [])
    : run? cursor registers = some ⟨[], .ok (registers, read.utf8ByteSize)⟩ := by
  have atEnd : (bytesOf cursor.input)[cursor.index]? = none := by
    rw [stands.input, String.ofList_nil, String.append_empty, stands.index, ← length_bytesOf]
    exact List.getElem?_eq_none (Nat.le_refl _)
  rw [run?]
  split
  next => rw [stands.index]
  next byte isByte => cases atEnd.symm.trans isByte

/-- One byte is read, and then those behind the bytes that it passes over. -/
theorem run?_byte {byte : UInt8} (isByte : (bytesOf cursor.input)[cursor.index]? = some byte)
    : run? cursor registers
      = (step? cursor registers byte).bind fun
        | .error error => some ⟨[], .error error⟩
        | .ok (tokens, next, passed) =>
            (run? (cursor.moved (1 + passed)) next).map fun scanned =>
              ⟨tokens ++ scanned.tokens, scanned.result⟩ := by
  rw [run?]
  split
  next atEnd => cases isByte.symm.trans atEnd
  next other isOther =>
      obtain rfl := Option.some.inj (isByte.symm.trans isOther)
      cases stepped : step? cursor registers byte with
      | none => rfl
      | some outcome =>
          cases outcome with
          | error error => rfl
          | ok reached =>
              simp only [Option.bind_some, Cursor.moved, Nat.add_assoc]

/-- The bytes of a character but its first one change nothing in a state that rests, by induction
on how many there are.
-/
theorem run?_rests (rests : registers.state.Rests) (count : Nat)
    (high
      : ∀ i < count, ∃ byte, (bytesOf cursor.input)[cursor.index + i]? = some byte ∧ 128 ≤ byte)
    : run? cursor registers = run? (cursor.moved count) registers := by
  induction count generalizing cursor with
  | zero => rfl
  | succ count ih =>
      obtain ⟨byte, isByte, isHigh⟩ := high 0 (Nat.succ_pos _)
      have later := @ih (cursor.moved 1) <| by
        intro i inside
        simpa [Cursor.moved, Nat.add_assoc] using high (1 + i) (by omega)
      have joined : (cursor.moved 1).moved count = cursor.moved (count + 1) := by
        simp only [Cursor.moved, Nat.add_assoc, Nat.add_comm 1 count]
      rw [run?_byte isByte, step?_rests rests isHigh, pass, Option.bind_some]
      simp only [Nat.add_zero, List.nil_append, Option.map_id']
      rw [later, joined]

/-- The bytes of a fragment are read with the same tokens as its characters, and lead to the same.
-/
inductive Follows (fragment : Nat) (input : String)
    : Option (Scanned (Registers × Nat)) → Scanned (Mode × Nat) → Prop
  | error (tokens : List Token) (error : Error)
    : Follows fragment input (some ⟨tokens, .error error⟩) ⟨tokens, .error error⟩
  | ok (tokens : List Token) {registers : Registers} {mode : Mode}
    (shows : registers.Shows fragment input [] mode)
    : Follows fragment input (some ⟨tokens, .ok (registers, input.utf8ByteSize)⟩)
        ⟨tokens, .ok (mode, input.utf8ByteSize)⟩

/-- What has been read before does not matter. -/
theorem Follows.after {input : String} {run : Option (Scanned (Registers × Nat))}
    {scanned : Scanned (Mode × Nat)} (follows : Follows fragment input run scanned)
    (tokens : List Token)
    : Follows fragment input (run.map fun scanned => ⟨tokens ++ scanned.tokens, scanned.result⟩)
        ⟨tokens ++ scanned.tokens, scanned.result⟩ := by
  cases follows with
  | error => exact .error _ _
  | ok _ shows => exact .ok _ shows

/-- At a character stands its first byte. -/
theorem Cursor.At.byte (stands : cursor.At read (c :: rest))
    : (bytesOf cursor.input)[cursor.index]? = some (lead c) := by
  rw [stands.input, stands.index, getElem?_bytesOf_lead]

/-- From a character that is read for itself, the bytes are read on behind it. -/
theorem run?_char (stands : cursor.At read (c :: rest)) {mode next : Mode}
    (shows : registers.Shows cursor.fragment read (c :: rest) mode) (stays : ¬ Jumps c rest mode)
    (stepped : Scanner.step mode ⟨cursor.fragment, read.utf8ByteSize⟩ c rest = .ok (tokens, next))
    : ∃ reached,
        run? cursor registers
          = ((run? (cursor.moved c.utf8Size) reached).map fun scanned =>
              ⟨tokens ++ scanned.tokens, scanned.result⟩)
        ∧ reached.Shows cursor.fragment (read.push c) rest next := by
  have agrees := agrees_step stands mode shows stays
  rw [stepped] at agrees
  obtain ⟨reached, led, shown⟩
      : ∃ reached,
          step? cursor registers (lead c) = some (.ok (tokens, reached, 0))
          ∧ reached.Shows cursor.fragment (read.push c) rest next := by
    generalize step? cursor registers (lead c) = outcome at agrees ⊢
    cases agrees with
    | ok _ shown => exact ⟨_, rfl, shown⟩
  refine ⟨reached, ?_, shown⟩
  rw [run?_byte stands.byte, led, Option.bind_some]
  suffices run? (cursor.moved 1) reached = run? (cursor.moved c.utf8Size) reached by
    simp only [Nat.add_zero, this]
  by_cases narrow : c.val ≤ 127
  · rw [Char.utf8Size_eq_one_iff.mpr narrow]
  · have wide := UInt32.not_le.mp narrow
    have rests := shown.rests (step_wide wide shows stepped)
    have size : 1 + (c.utf8Size - 1) = c.utf8Size := by
      have := c.utf8Size_pos
      omega
    have others := @run?_rests (cursor.moved 1) reached rests (c.utf8Size - 1) <| by
      intro i inside
      have here := getElem?_bytesOf read c rest (1 + i) (by omega)
      rw [← stands.input, ← stands.index] at here
      have within : 1 + i < (String.utf8EncodeChar c).length := by
        rw [String.length_utf8EncodeChar]
        omega
      rw [List.getElem?_eq_getElem within] at here
      refine ⟨_, ?_, le_of_mem_wide wide (List.getElem_mem within)⟩
      simpa only [Cursor.moved, Nat.add_assoc] using here
    rw [others]
    simp only [Cursor.moved, Nat.add_assoc, size]

/-- At a character that may not stand there the bytes are not read on. -/
theorem run?_error (stands : cursor.At read (c :: rest)) {mode : Mode} {error : Error}
    (shows : registers.Shows cursor.fragment read (c :: rest) mode) (stays : ¬ Jumps c rest mode)
    (failed : Scanner.step mode ⟨cursor.fragment, read.utf8ByteSize⟩ c rest = .error error)
    : run? cursor registers = some ⟨[], .error error⟩ := by
  have agrees := agrees_step stands mode shows stays
  rw [failed] at agrees
  generalize led : step? cursor registers (lead c) = outcome at agrees
  obtain ⟨_⟩ := agrees
  rw [run?_byte stands.byte, led]
  rfl

theorem scanChars_commentStart (fragment offset : Nat) (start : Location) (others : List Char)
    : Scanner.scanChars fragment (.tagStart start) offset ('!' :: '-' :: '-' :: others)
      = Scanner.scanChars fragment (.comment 0) (offset + 3) others := by
  have mark : '!'.utf8Size = 1 := rfl
  have hyphen : '-'.utf8Size = 1 := rfl
  simp [Scanner.scanChars, Scanner.step, mark, hyphen]

theorem scanChars_commentEnd (fragment offset hyphens : Nat) (others : List Char)
    : Scanner.scanChars fragment (.comment hyphens) offset ('-' :: '-' :: '>' :: others)
      = Scanner.scanChars fragment (.text "" (offset + 3)) (offset + 3) others := by
  have two : min 2 (min 2 (hyphens + 1) + 1) = 2 := by omega
  have hyphen : '-'.utf8Size = 1 := rfl
  have greater : '>'.utf8Size = 1 := rfl
  have notHyphen : '>' ≠ '-' := by decide
  simp only [Scanner.scanChars, Scanner.step, Scanner.textAfter, two, hyphen, greater, notHyphen,
    and_self, if_true, if_false, List.nil_append, Nat.add_assoc]

/-- The beginning and the end of a comment are read at once. -/
theorem run?_jump (stands : cursor.At read (c :: rest)) {mode : Mode}
    (shows : registers.Shows cursor.fragment read (c :: rest) mode) (jumps : Jumps c rest mode)
    : ∃ others behind reached next,
        others.length < rest.length
        ∧ (cursor.moved 3).At behind others
        ∧ reached.Shows cursor.fragment behind others next
        ∧ run? cursor registers = run? (cursor.moved 3) reached
        ∧ Scanner.scanChars cursor.fragment mode read.utf8ByteSize (c :: rest)
          = Scanner.scanChars cursor.fragment next behind.utf8ByteSize others := by
  cases mode with
  | tagStart start =>
      obtain ⟨state, rfl⟩ := shows
      obtain ⟨rfl, others, rfl⟩ := jumps
      have led
          : step? cursor registers (lead '!')
            = some (.ok ([], { registers with state := .comment }, 2)) := by
        simp (disch := decide) [step?, state, lead_eq_iff, stands.rest?]
      have moved : (cursor.moved 3).At (((read.push '!').push '-').push '-') others :=
        stands.moved.moved.moved
      refine ⟨others, _, { registers with state := .comment }, .comment 0,
        Nat.lt_add_of_pos_right (Nat.succ_pos 1), moved, ⟨rfl, by simp, by simp⟩, ?_, ?_⟩
      · rw [run?_byte stands.byte, led, Option.bind_some]
        simp
      · rw [← moved.index, Cursor.moved, stands.index]
        exact scanChars_commentStart ..
  | comment hyphens =>
      obtain ⟨state, -⟩ := shows
      obtain ⟨rfl, others, rfl⟩ := jumps
      let reached : Registers :=
        { registers with state := .text, sectionStart := cursor.index + 3 }
      have led
          : step? cursor registers (lead '-') = some (.ok ([], reached, 2)) := by
        simp (disch := decide) [step?, state, lead_eq_iff, stands.rest?, reached]
      have moved : (cursor.moved 3).At (((read.push '-').push '-').push '>') others :=
        stands.moved.moved.moved
      refine ⟨others, _, reached, .text "" (cursor.index + 3),
        Nat.lt_add_of_pos_right (Nat.succ_pos 1), moved,
        ⟨rfl, rfl, .behind (c := '>') stands.moved.moved rfl rfl⟩, ?_, ?_⟩
      · rw [run?_byte stands.byte, led, Option.bind_some]
        simp
      · rw [← moved.index, Cursor.moved, stands.index]
        exact scanChars_commentEnd ..
  | _ => exact jumps.elim

/-- The bytes of a fragment are read as its characters are, by induction on how many characters
remain.
-/
theorem follows_run (stands : cursor.At read rest) {mode : Mode}
    (shows : registers.Shows cursor.fragment read rest mode)
    : Follows cursor.fragment cursor.input (run? cursor registers)
        (Scanner.scanChars cursor.fragment mode read.utf8ByteSize rest) := by
  induction size : rest.length using Nat.strongRecOn
    generalizing cursor registers read mode rest with
  | ind size ih =>
      cases rest with
      | nil =>
          have whole : cursor.input = read := by
            rw [stands.input, String.ofList_nil, String.append_empty]
          rw [run?_end stands, ← whole]
          exact .ok [] (whole ▸ shows)
      | cons c rest =>
          by_cases jumps : Jumps c rest mode
          · obtain ⟨others, behind, reached, next, fewer, moved, shown, ran, scanned⟩ :=
              run?_jump stands shows jumps
            rw [ran, scanned]
            exact ih others.length (by rw [← size, List.length_cons]; omega) moved shown rfl
          · simp only [Scanner.scanChars]
            split
            next error failed =>
                rw [run?_error stands shows jumps failed]
                exact .error [] error
            next tokens next stepped =>
                obtain ⟨reached, ran, shown⟩ := run?_char stands shows jumps stepped
                have later :=
                  ih rest.length (by rw [← size, List.length_cons]; omega) stands.moved shown rfl
                rw [String.utf8ByteSize_push] at later
                exact ran ▸ later.after tokens

-----------------------------------------------------------------------------------------
-- Fragments
-----------------------------------------------------------------------------------------

/-- The registers show a mode in the fragment that follows, whatever stands in it. -/
def Enters (fragment : Nat) (registers : Registers) (mode : Mode) : Prop :=
  ∀ rest, ({ registers with sectionStart := 0 } : Registers).Shows fragment "" rest mode

/-- What the end of a fragment leads to for the bytes is what it leads to for the characters. -/
inductive Crosses (fragment : Nat)
    : Option (Except Error (List Token × Registers)) → Scanner.Outcome → Prop
  | error (error : Error) : Crosses fragment (some (.error error)) (.error error)
  | ok (tokens : List Token) {registers : Registers} {mode : Mode}
    (enters : Enters (fragment + 1) registers mode)
    : Crosses fragment (some (.ok (tokens, registers))) (.ok (tokens, mode))

theorem Cursor.At.atEnd (stands : cursor.At read [])
    : cursor.location (bytesOf cursor.input).length = ⟨cursor.fragment, read.utf8ByteSize⟩ := by
  rw [stands.input, String.ofList_nil, String.append_empty, length_bytesOf]
  exact stands.location String.append_empty.symm

theorem crosses_boundary (stands : cursor.At read []) {mode : Mode}
    (shows : registers.Shows cursor.fragment read [] mode)
    : Crosses cursor.fragment (boundary? cursor registers)
        (Scanner.boundary mode cursor.fragment read.utf8ByteSize cursor.fragment) := by
  cases mode with
  | text run offset =>
      obtain ⟨state, rfl, reads⟩ := shows
      simp only [boundary?, state, Scanner.boundary, stands.text? reads, stands.atEnd,
        Option.map_some]
      exact .ok _ fun rest => ⟨state, rfl, "", rfl, rfl⟩
  | spread start dots =>
      obtain ⟨state, rfl, rfl⟩ := shows
      simp only [boundary?, state, Scanner.boundary, stands.atEnd]
      split
      · exact .ok _ fun rest => rfl
      · exact .error _
  | beforeValue start name =>
      obtain ⟨state, pending⟩ := shows
      simp only [boundary?, state, Scanner.boundary, Cursor.awaited, pending, Option.getD_some]
      exact .ok _ fun rest => rfl
  | beforeAttribute =>
      have state : registers.state = .beforeAttribute := shows
      simp only [boundary?, state, Scanner.boundary, stands.atEnd]
      exact .ok _ fun rest => rfl
  | afterAttributeName start name =>
      obtain ⟨state, pending⟩ := shows
      simp only [boundary?, state, Scanner.boundary, stands.atEnd, Registers.bare, pending]
      exact .ok _ fun rest => rfl
  | commentStart remaining => exact shows.elim
  | comment hyphens =>
      obtain ⟨state, -⟩ := shows
      simp only [boundary?, state, Scanner.boundary]
      exact .ok _ fun rest => ⟨state, by simp, by simp⟩
  | selfClosing | afterValue =>
      have state := shows
      simp only [Registers.Shows] at state
      simp only [boundary?, state, Scanner.boundary, stands.atEnd]
      exact .error _
  | tagStart | tagName | closingName | closingEnd | attributeName | quotedValue | unquotedValue =>
      simp only [boundary?, shows.1, Scanner.boundary, stands.atEnd]
      exact .error _

theorem finish?_eq (stands : cursor.At read []) {mode : Mode}
    (shows : registers.Shows cursor.fragment read [] mode)
    : finish? cursor registers = some (Scanner.finish mode cursor.fragment) := by
  cases mode with
  | text run offset =>
      obtain ⟨state, rfl, reads⟩ := shows
      simp only [finish?, state, stands.text? reads, Option.map_some, Scanner.finish]
  | commentStart remaining => exact shows.elim
  | selfClosing | afterValue | beforeAttribute =>
      have state := shows
      simp only [Registers.Shows] at state
      simp only [finish?, state, Scanner.finish]
  | _ => simp only [finish?, shows.1, Scanner.finish]

/-- The bytes of the fragments are read as their characters are, by induction on the fragments
that remain.
-/
theorem scanFrom?_eq {fragments : List String} {mode : Mode}
    (few : fragment + fragments.length < UInt32.size)
    (short : ∀ text ∈ fragments, text.utf8ByteSize < UInt32.size)
    (enters : Enters fragment registers mode)
    : scanFrom? fragment registers fragments
      = some (Scanner.scanFragments fragment mode fragments) := by
  induction fragments generalizing fragment registers mode with
  | nil =>
      have begins : Cursor.At ⟨"", fragment, 0⟩ "" [] :=
        ⟨rfl, rfl, by simpa using few, Nat.succ_pos _⟩
      have same
          : finish? ⟨"", fragment, 0⟩ registers
            = finish? ⟨"", fragment, 0⟩ { registers with sectionStart := 0 } := by
        simp only [finish?, Cursor.text?, Nat.not_lt_zero, if_false]
      have finished := finish?_eq begins (enters [])
      cases ends : Scanner.finish mode fragment with
      | error => simp only [scanFrom?, same, finished, ends, Option.map_some, Scanner.scanFragments]
      | ok => simp only [scanFrom?, same, finished, ends, Option.map_some, Scanner.scanFragments]
  | cons first others ih =>
      have isFew : fragment < UInt32.size := Nat.lt_of_le_of_lt (Nat.le_add_right _ _) few
      have isShort := short first (by simp)
      have begins : Cursor.At ⟨first, fragment, 0⟩ "" first.toList :=
        ⟨by rw [String.ofList_toList, String.empty_append], rfl, isFew, isShort⟩
      have ended : Cursor.At ⟨first, fragment, first.utf8ByteSize⟩ first [] :=
        ⟨by rw [String.ofList_nil, String.append_empty], rfl, isFew, isShort⟩
      have follows := follows_run begins (enters first.toList)
      rw [String.utf8ByteSize_empty] at follows
      generalize isRun : run? ⟨first, fragment, 0⟩ { registers with sectionStart := 0 } = run
        at follows
      generalize isScanned : Scanner.scanChars fragment mode 0 first.toList = scanned at follows
      cases others with
      | nil =>
          rw [scanFrom?, Scanner.scanFragments, isRun, isScanned]
          cases follows with
          | error => rfl
          | @ok tokens _ reached shows =>
              have finished := finish?_eq ended shows
              cases ends : Scanner.finish reached fragment with
              | error => simp only [Option.bind_some, finished, ends, Option.map_some]
              | ok => simp only [Option.bind_some, finished, ends, Option.map_some]
      | cons second others =>
          rw [scanFrom?, Scanner.scanFragments, isRun, isScanned]
          cases follows with
          | error => rfl
          | ok tokens shows =>
              have crosses := crosses_boundary ended shows
              have fewer : fragment + 1 + (second :: others).length < UInt32.size := by
                rw [List.length_cons] at few
                omega
              have later : ∀ text ∈ second :: others, text.utf8ByteSize < UInt32.size :=
                fun text member => short text (List.mem_cons_of_mem _ member)
              simp only [Option.bind_some]
              generalize boundary? _ _ = outcome at crosses ⊢
              generalize Scanner.boundary _ _ _ _ = outcome' at crosses ⊢
              cases crosses with
              | error => rfl
              | ok _ enters =>
                  simp only [Option.bind_some, ih fewer later enters, Option.map_some]

/-- The bytes of a template are read as its characters are, and no cut fails. -/
theorem scan?_eq {fragments : List String} (few : fragments.length < UInt32.size)
    (short : ∀ text ∈ fragments, text.utf8ByteSize < UInt32.size)
    : scan? fragments = some (Token.scan fragments) :=
  scanFrom?_eq (by omega) short fun _ => ⟨rfl, rfl, "", rfl, rfl⟩

end TaggedMarkup.Bytes
