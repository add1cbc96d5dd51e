import TaggedMarkup.Proofs.Reading.Bytes
import TaggedMarkup.Proofs.Reading.Locations

/-! The first byte of a character tells the characters of one byte, and a character of several
bytes has none that looks like one of them. A cursor that stands between two characters can cut
out what has been read last.
-/

namespace TaggedMarkup.Bytes

-----------------------------------------------------------------------------------------
-- Bytes of characters
-----------------------------------------------------------------------------------------

/-- The first byte of a character. -/
def lead (c : Char) : UInt8 :=
  (String.utf8EncodeChar c).headD 0

theorem utf8EncodeChar_narrow {c : Char} (narrow : c.val ≤ 127)
    : String.utf8EncodeChar c = [c.toUInt8] :=
  String.utf8EncodeChar_eq_singleton (Char.utf8Size_eq_one_iff.mpr narrow)

/-- A character of several bytes has none below 128. -/
theorem le_of_mem_wide {c : Char} (wide : 127 < c.val) {byte : UInt8}
    (member : byte ∈ String.utf8EncodeChar c)
    : 128 ≤ byte := by
  have large : ¬ c.val.toNat ≤ 127 := by
    have := UInt32.lt_iff_toNat_lt.mp wide
    simpa using this
  simp only [String.utf8EncodeChar, if_neg large] at member
  rw [UInt8.le_iff_toNat_le]
  split at member
  · simp only [List.mem_cons, List.not_mem_nil, or_false] at member
    rcases member with rfl | rfl <;> simp <;> omega
  split at member
  · simp only [List.mem_cons, List.not_mem_nil, or_false] at member
    rcases member with rfl | rfl | rfl <;> simp <;> omega
  · simp only [List.mem_cons, List.not_mem_nil, or_false] at member
    rcases member with rfl | rfl | rfl | rfl <;> simp <;> omega

theorem utf8EncodeChar_eq_lead (c : Char)
    : ∃ others, String.utf8EncodeChar c = lead c :: others := by
  cases encoded : String.utf8EncodeChar c with
  | nil => exact absurd encoded String.utf8EncodeChar_ne_nil
  | cons byte others => exact ⟨others, by simp [lead, encoded]⟩

theorem lead_narrow {c : Char} (narrow : c.val ≤ 127) : lead c = c.toUInt8 := by
  simp [lead, utf8EncodeChar_narrow narrow]

theorem le_lead_wide {c : Char} (wide : 127 < c.val) : 128 ≤ lead c := by
  obtain ⟨others, encoded⟩ := utf8EncodeChar_eq_lead c
  exact le_of_mem_wide wide (encoded ▸ List.mem_cons_self)

theorem toNat_toUInt8 {c : Char} (narrow : c.val ≤ 127) : c.toUInt8.toNat = c.val.toNat := by
  have small : c.val.toNat ≤ 127 := UInt32.le_iff_toNat_le.mp narrow
  simp only [Char.toUInt8, UInt32.toNat_toUInt8]
  omega

/-- The first byte of a character tells the characters of one byte. -/
theorem lead_eq_iff {c d : Char} (narrow : d.val ≤ 127) : lead c = d.toUInt8 ↔ c = d := by
  constructor
  · intro same
    by_cases isNarrow : c.val ≤ 127
    · rw [lead_narrow isNarrow] at same
      have values := congrArg UInt8.toNat same
      rw [toNat_toUInt8 isNarrow, toNat_toUInt8 narrow] at values
      exact Char.ext (UInt32.toNat_inj.mp values)
    · have large := UInt8.le_iff_toNat_le.mp (le_lead_wide (UInt32.not_le.mp isNarrow))
      have small : d.val.toNat ≤ 127 := UInt32.le_iff_toNat_le.mp narrow
      rw [same, toNat_toUInt8 narrow] at large
      exact absurd (Nat.le_trans large small) (by decide)
  · rintro rfl
    exact lead_narrow narrow

/-- Between two characters of one byte are only characters of one byte. -/
theorem lead_between_iff {c low high : Char} (narrow : low.val ≤ 127) (narrow' : high.val ≤ 127)
    : low.toUInt8 ≤ lead c ∧ lead c ≤ high.toUInt8 ↔ low ≤ c ∧ c ≤ high := by
  have small : high.val.toNat ≤ 127 := UInt32.le_iff_toNat_le.mp narrow'
  simp only [UInt8.le_iff_toNat_le, Char.le_def, UInt32.le_iff_toNat_le, toNat_toUInt8 narrow,
    toNat_toUInt8 narrow']
  by_cases isNarrow : c.val ≤ 127
  · rw [lead_narrow isNarrow, toNat_toUInt8 isNarrow]
  · have large := UInt8.le_iff_toNat_le.mp (le_lead_wide (UInt32.not_le.mp isNarrow))
    have wide := UInt32.lt_iff_toNat_lt.mp (UInt32.not_le.mp isNarrow)
    constructor <;> rintro ⟨-, below⟩
    · exact absurd (Nat.le_trans large (Nat.le_trans below small)) (by decide)
    · exact absurd (Nat.lt_of_lt_of_le wide (Nat.le_trans below small)) (by decide)

theorem isSpace_lead (c : Char) : isSpace (lead c) = Scanner.isSpace c := by
  rw [Bool.eq_iff_iff]
  simp only [isSpace, Scanner.isSpace, Bool.or_eq_true, beq_iff_eq]
  rw [lead_eq_iff (by decide), lead_eq_iff (by decide), lead_eq_iff (by decide),
    lead_eq_iff (by decide), lead_eq_iff (by decide)]

theorem isLetter_lead (c : Char) : isLetter (lead c) = Html.isLetter c := by
  rw [Bool.eq_iff_iff]
  simp only [isLetter, Html.isLetter, Html.isCapital, Html.isSmall, Bool.or_eq_true,
    Bool.and_eq_true, decide_eq_true_eq]
  rw [lead_between_iff (by decide) (by decide), lead_between_iff (by decide) (by decide)]

-----------------------------------------------------------------------------------------
-- Bytes of texts
-----------------------------------------------------------------------------------------

theorem length_bytesOf (text : String) : (bytesOf text).length = text.utf8ByteSize := by
  rw [← String.size_toByteArray, ← String.utf8Encode_toList, List.utf8Encode,
    List.size_toByteArray, bytesOf]

theorem bytesOf_append (text other : String)
    : bytesOf (text ++ other) = bytesOf text ++ bytesOf other := by
  simp [bytesOf]

theorem bytesOf_singleton (c : Char) : bytesOf (String.singleton c) = String.utf8EncodeChar c := by
  simp [bytesOf]

/-- The bytes of a character stand behind those of the text before it. -/
theorem getElem?_bytesOf (read : String) (c : Char) (rest : List Char) (i : Nat)
    (inside : i < c.utf8Size)
    : (bytesOf (read ++ String.ofList (c :: rest)))[read.utf8ByteSize + i]?
      = (String.utf8EncodeChar c)[i]? := by
  rw [Scanner.ofList_cons, bytesOf_append, bytesOf_append, bytesOf_singleton,
    ← length_bytesOf, List.getElem?_append_right (Nat.le_add_right _ _), Nat.add_sub_cancel_left,
    List.getElem?_append_left (by simpa using inside)]

/-- At a character stands its first byte. -/
theorem getElem?_bytesOf_lead (read : String) (c : Char) (rest : List Char)
    : (bytesOf (read ++ String.ofList (c :: rest)))[read.utf8ByteSize]? = some (lead c) := by
  obtain ⟨others, encoded⟩ := utf8EncodeChar_eq_lead c
  have here := getElem?_bytesOf read c rest 0 c.utf8Size_pos
  rw [Nat.add_zero, encoded, List.getElem?_cons_zero] at here
  exact here

theorem cut?_ofList (before after : List Char)
    : cut? (before ++ after) (String.ofList before).utf8ByteSize = some (before, after) := by
  induction before with
  | nil =>
      rw [String.ofList_nil, String.utf8ByteSize_empty]
      cases after <;> rfl
  | cons c rest ih =>
      have size
          : (String.ofList (c :: rest)).utf8ByteSize
            = c.utf8Size + (String.ofList rest).utf8ByteSize := by
        rw [Scanner.ofList_cons, String.utf8ByteSize_append, String.utf8ByteSize_singleton]
      obtain ⟨offset, isOffset⟩
          : ∃ offset, c.utf8Size + (String.ofList rest).utf8ByteSize = offset + 1 :=
        Nat.exists_eq_succ_of_ne_zero (by have := c.utf8Size_pos; omega)
      have behind : offset + 1 - c.utf8Size = (String.ofList rest).utf8ByteSize := by omega
      rw [size, isOffset, List.cons_append, cut?, if_pos (by omega), behind, ih, Option.map_some]

/-- Between two characters a text can be cut. -/
theorem cut?_append (before : String) (after : List Char)
    : cut? (before.toList ++ after) before.utf8ByteSize = some (before.toList, after) := by
  have cut := cut?_ofList before.toList after
  rwa [String.ofList_toList] at cut

-----------------------------------------------------------------------------------------
-- Cursors
-----------------------------------------------------------------------------------------

/-- The section that is being read is the last part of what has been read. -/
def Registers.Reads (registers : Registers) (read written : String) : Prop :=
  ∃ before, read = before ++ written ∧ registers.sectionStart = before.utf8ByteSize

namespace Cursor

/-- The cursor stands between what has been read of a fragment and what is still to be read, and
its numbers fit into a location.
-/
structure At (cursor : Cursor) (read : String) (rest : List Char) : Prop where
  input : cursor.input = read ++ String.ofList rest
  index : cursor.index = read.utf8ByteSize
  few : cursor.fragment < UInt32.size
  short : cursor.input.utf8ByteSize < UInt32.size

namespace At

variable {cursor : Cursor} {read : String} {rest : List Char} {c : Char} {registers : Registers}
  {written : String}

theorem cut? (stands : cursor.At read rest)
    : Bytes.cut? cursor.input.toList cursor.index = some (read.toList, rest) := by
  rw [stands.input, stands.index, String.toList_append, String.toList_ofList, cut?_append]

theorem rest? (stands : cursor.At read rest) : cursor.rest? = some rest := by
  rw [Cursor.rest?, stands.cut?, Option.map_some]

/-- What has been read last is cut out. -/
theorem since? (stands : cursor.At read rest) {before : String} (isRead : read = before ++ written)
    : cursor.since? before.utf8ByteSize = some written := by
  subst isRead
  simp only [Cursor.since?, stands.cut?, String.toList_append, cut?_append, Option.bind_eq_bind,
    Option.bind_some, String.ofList_toList, Option.pure_def]

theorem location (stands : cursor.At read rest) {before : String}
    (isRead : read = before ++ written)
    : cursor.location before.utf8ByteSize = ⟨cursor.fragment, before.utf8ByteSize⟩ := by
  have short := stands.short
  rw [stands.input, isRead, String.append_assoc, String.utf8ByteSize_append] at short
  rw [Cursor.location, Nat.mod_eq_of_lt stands.few, Nat.mod_eq_of_lt (by omega)]

theorem here (stands : cursor.At read rest)
    : cursor.here = ⟨cursor.fragment, read.utf8ByteSize⟩ := by
  rw [Cursor.here, stands.index]
  exact stands.location String.append_empty.symm

theorem unexpected? (stands : cursor.At read (c :: rest)) (place : CharacterPlace)
    : cursor.unexpected? place
      = some (.error (.unexpectedCharacter c place ⟨cursor.fragment, read.utf8ByteSize⟩)) := by
  rw [Cursor.unexpected?, stands.rest?, stands.here]
  rfl

theorem section? (stands : cursor.At read rest) (reads : registers.Reads read written)
    : cursor.since? registers.sectionStart = some written
      ∧ cursor.location registers.sectionStart = ⟨cursor.fragment, registers.sectionStart⟩ := by
  obtain ⟨before, isRead, isStart⟩ := reads
  rw [isStart]
  exact ⟨stands.since? isRead, stands.location isRead⟩

theorem text? (stands : cursor.At read rest) (reads : registers.Reads read written)
    : cursor.text? registers
      = some (Scanner.textTokens written ⟨cursor.fragment, registers.sectionStart⟩) := by
  obtain ⟨cut, location⟩ := stands.section? reads
  obtain ⟨before, isRead, isStart⟩ := reads
  have size : cursor.index = registers.sectionStart + written.utf8ByteSize := by
    rw [stands.index, isRead, isStart, String.utf8ByteSize_append]
  rw [Cursor.text?, Scanner.textTokens, cut, location, size]
  by_cases isEmpty : written.isEmpty = true
  · have nothing : written.utf8ByteSize = 0 := String.isEmpty_iff_utf8ByteSize_eq_zero.mp isEmpty
    rw [if_pos isEmpty, if_neg (by omega)]
  · have something : written.utf8ByteSize ≠ 0 :=
      fun nothing => isEmpty (String.isEmpty_iff_utf8ByteSize_eq_zero.mpr nothing)
    rw [if_neg isEmpty, if_pos (by omega), Option.map_some]

/-- The attribute that waits for its value gets the section. -/
theorem valued? (stands : cursor.At read rest) (reads : registers.Reads read written)
    {name : String} {start : Location} (pending : registers.pending = some (name, start))
    : cursor.valued? registers = some (.attribute name (.literal written) start) := by
  simp only [Cursor.valued?, Cursor.awaited, pending, Option.getD_some, (stands.section? reads).1,
    Option.bind_eq_bind, Option.bind_some, Option.pure_def]

end At

end Cursor

end TaggedMarkup.Bytes
