import TaggedMarkup.Token.Scanner

/-! The way of a scan. Whatever a scan reports, it reports at a place that it has come to: tokens
are emitted there, and the scan fails there. So what every mode on the way holds is shown step by
step, and what it says of the tokens and of the failure follows.
-/

namespace TaggedMarkup

namespace Scanner

theorem ofList_cons (c : Char) (rest : List Char)
    : String.ofList (c :: rest) = String.singleton c ++ String.ofList rest := by
  rw [String.singleton_eq_ofList, ← String.ofList_append]
  rfl

theorem push_append (before after : String) (c : Char)
    : (before ++ after).push c = before ++ after.push c := by
  rw [String.push_eq_append, String.push_eq_append, String.append_assoc]

/-- The present fragment, of which some characters are still to be read. -/
def Holds (fragments : List String) (fragment : Nat) (read : String) (rest : List Char) : Prop :=
  fragments[fragment]? = some (read ++ String.ofList rest)

/-- The modes that a scan comes to, with what has been read of a fragment and what remains. -/
inductive Comes (fragments : List String) : Nat → String → List Char → Mode → Prop
  | start {text : String} (isFirst : fragments[0]? = some text)
    : Comes fragments 0 "" text.toList .initial
  | char {fragment : Nat} {read : String} {c : Char} {rest : List Char} {mode next : Mode}
    {tokens : List Token} (comes : Comes fragments fragment read (c :: rest) mode)
    (stepped : step mode ⟨fragment, read.utf8ByteSize⟩ c rest = .ok (tokens, next))
    : Comes fragments fragment (read.push c) rest next
  | slot {fragment : Nat} {read text : String} {mode next : Mode} {tokens : List Token}
    (comes : Comes fragments fragment read [] mode)
    (crossed : boundary mode fragment read.utf8ByteSize fragment = .ok (tokens, next))
    (isNext : fragments[fragment + 1]? = some text)
    : Comes fragments (fragment + 1) "" text.toList next

/-- The tokens that a scan emits on its way. -/
inductive Emits (fragments : List String) (token : Token) : Prop
  | char {fragment : Nat} {read : String} {c : Char} {rest : List Char} {mode next : Mode}
    {tokens : List Token} (comes : Comes fragments fragment read (c :: rest) mode)
    (stepped : step mode ⟨fragment, read.utf8ByteSize⟩ c rest = .ok (tokens, next))
    (member : token ∈ tokens)
  | slot {fragment : Nat} {read : String} {mode next : Mode} {tokens : List Token}
    (comes : Comes fragments fragment read [] mode)
    (crossed : boundary mode fragment read.utf8ByteSize fragment = .ok (tokens, next))
    (member : token ∈ tokens)
  | last {fragment : Nat} {read : String} {mode : Mode} {tokens : List Token}
    (comes : Comes fragments fragment read [] mode)
    (finished : finish mode fragment = .ok tokens) (member : token ∈ tokens)

/-- The failures that a scan comes to. -/
inductive Fails (fragments : List String) (error : Error) : Prop
  | char {fragment : Nat} {read : String} {c : Char} {rest : List Char} {mode : Mode}
    (comes : Comes fragments fragment read (c :: rest) mode)
    (failed : step mode ⟨fragment, read.utf8ByteSize⟩ c rest = .error error)
  | slot {fragment : Nat} {read : String} {mode : Mode}
    (comes : Comes fragments fragment read [] mode)
    (failed : boundary mode fragment read.utf8ByteSize fragment = .error error)
  | last {fragment : Nat} {read : String} {mode : Mode}
    (comes : Comes fragments fragment read [] mode)
    (failed : finish mode fragment = .error error)

variable {fragments : List String} {fragment : Nat} {read : String} {c : Char}
  {rest : List Char} {mode : Mode}

theorem Holds.push (holds : Holds fragments fragment read (c :: rest))
    : Holds fragments fragment (read.push c) rest := by
  rw [Holds, String.push_eq_append, String.append_assoc, ← ofList_cons]
  exact holds

theorem holds_start {text : String} (isHere : fragments[fragment]? = some text)
    : Holds fragments fragment "" text.toList := by
  rw [Holds, String.empty_append, String.ofList_toList]
  exact isHere

theorem Comes.holds (comes : Comes fragments fragment read rest mode)
    : Holds fragments fragment read rest := by
  induction comes with
  | start isFirst => exact holds_start isFirst
  | char _ _ ih => exact ih.push
  | slot _ _ isNext _ => exact holds_start isNext

-----------------------------------------------------------------------------------------
-- Whole templates
-----------------------------------------------------------------------------------------

/-- What has been scanned is reported on the way of the scan. -/
structure Scanned.OnWay {α : Type} (fragments : List String) (scanned : Scanned α) : Prop where
  tokens : ∀ token ∈ scanned.tokens, Emits fragments token
  failure : ∀ error, scanned.result = .error error → Fails fragments error

theorem Scanned.OnWay.failed {α : Type} {tokens : List Token} {error : Error}
    (early : ∀ token ∈ tokens, Emits fragments token) (fails : Fails fragments error)
    : (⟨tokens, .error error⟩ : Scanned α).OnWay fragments :=
  ⟨early, fun _ same => Except.error.inj same ▸ fails⟩

/-- The characters of a fragment are read on the way of the scan, by induction on them. -/
theorem Comes.scanChars_onWay {chars : List Char} (comes : Comes fragments fragment read chars mode)
    : let scanned := scanChars fragment mode read.utf8ByteSize chars
      scanned.OnWay fragments
      ∧ ∀ reached offset,
          scanned.result = .ok (reached, offset)
          → ∃ whole, Comes fragments fragment whole [] reached ∧ offset = whole.utf8ByteSize := by
  induction chars generalizing read mode with
  | nil =>
      refine ⟨⟨by simp [scanChars], by simp [scanChars]⟩, ?_⟩
      intro reached offset same
      obtain ⟨rfl, rfl⟩ := Prod.mk.inj (Except.ok.inj same)
      exact ⟨read, comes, rfl⟩
  | cons c rest ih =>
      simp only [scanChars]
      split
      next error failed => exact ⟨.failed (by simp) (.char comes failed), by simp⟩
      next tokens next stepped =>
          obtain ⟨late, reaches⟩ := ih (comes.char stepped)
          rw [String.utf8ByteSize_push] at late reaches
          have early : ∀ token ∈ tokens, Emits fragments token :=
            fun _ member => .char comes stepped member
          exact ⟨⟨List.forall_mem_append.mpr ⟨early, late.tokens⟩, late.failure⟩, reaches⟩

/-- The fragments are read on the way of the scan, by induction on those behind the first. -/
theorem Comes.scanFragments_onWay {first : String} {others : List String}
    (comes : Comes fragments fragment "" first.toList mode)
    (remain : fragments.drop (fragment + 1) = others)
    : (scanFragments fragment mode (first :: others)).OnWay fragments := by
  induction others generalizing fragment mode first with
  | nil =>
      obtain ⟨early, reaches⟩ := comes.scanChars_onWay
      simp only [scanFragments]
      split
      next error failed => exact .failed early.tokens (early.failure error failed)
      next reached offset read =>
          obtain ⟨whole, comes, rfl⟩ := reaches reached offset read
          split
          next error failed => exact .failed early.tokens (.last comes failed)
          next tokens finished =>
              have last : ∀ token ∈ tokens, Emits fragments token :=
                fun _ member => .last comes finished member
              exact ⟨List.forall_mem_append.mpr ⟨early.tokens, last⟩, by simp⟩
  | cons second others ih =>
      obtain ⟨early, reaches⟩ := comes.scanChars_onWay
      simp only [scanFragments]
      split
      next error failed => exact .failed early.tokens (early.failure error failed)
      next reached offset read =>
          obtain ⟨whole, comes, rfl⟩ := reaches reached offset read
          split
          next error failed => exact .failed early.tokens (.slot comes failed)
          next tokens next crossed =>
              have isNext : fragments[fragment + 1]? = some second := by
                rw [← List.head?_drop, remain]
                rfl
              have later : fragments.drop (fragment + 1 + 1) = others := by
                rw [← List.tail_drop, remain, List.tail_cons]
              have middle : ∀ token ∈ tokens, Emits fragments token :=
                fun _ member => .slot comes crossed member
              have late := ih (comes.slot crossed isNext) later
              have before := List.forall_mem_append.mpr ⟨early.tokens, middle⟩
              exact ⟨List.forall_mem_append.mpr ⟨before, late.tokens⟩, late.failure⟩

end Scanner

/-- What the scan of a template reports is reported on its way. -/
theorem Token.scan_onWay (fragments : List String) : (scan fragments).OnWay fragments := by
  cases fragments with
  | nil => exact ⟨fun _ => nofun, fun _ => nofun⟩
  | cons first others => exact (Scanner.Comes.start rfl).scanFragments_onWay rfl

end TaggedMarkup
