import TaggedMarkup.Engine
import TaggedMarkup.Proofs.Checking
import TaggedMarkup.Proofs.Outcomes
import TaggedMarkup.Proofs.Reading.Reports

/-! What is wrong with a template is found when it is read, compiled and bound to values. It is
never what can only go wrong when components are run.
-/

namespace TaggedMarkup

open Stateful

/-- An outcome that is no failure of a component. -/
def Early {α : Type} (outcome : Except Error α) : Prop :=
  ∀ error, outcome = .error error → error.kind ≠ .component

namespace Early

variable {α β : Type}

theorem ok (result : α) : Early (.ok result) := by
  simp [Early]

theorem error {error : Error} (other : error.kind ≠ .component)
    : Early (.error error : Except Error α) :=
  fun _ same => Except.error.inj same ▸ other

theorem bind {first : Except Error α} {next : α → Except Error β} (start : Early first)
    (rest : ∀ result, Early (next result))
    : Early (first >>= next) := by
  cases first with
  | error failure => exact .error (start failure rfl)
  | ok result => exact rest result

theorem verdict {outcome : Except Error α} (early : Early outcome)
    : Early (TaggedMarkup.verdict outcome) := by
  cases outcome with
  | error failure => exact .error (early failure rfl)
  | ok result => exact .ok ()

end Early

-----------------------------------------------------------------------------------------
-- Templates
-----------------------------------------------------------------------------------------

theorem Node.staticFault?_kind {node : Node} {tag : String} {error : Error}
    (fault : node.staticFault? tag = some error)
    : error.kind ≠ .component := by
  simp only [staticFault?] at fault
  split at fault
  · obtain rfl := Option.some.inj fault
    simp [Error.kind]
  · split at fault
    · obtain rfl := Option.some.inj fault
      simp [Error.kind]
    · cases fault

namespace Program

theorem early_ofNamed (node : Node) (name : String) (value : AttributeValue)
    : Early (ofNamed node name value) := by
  cases value <;> simp only [ofNamed] <;> split <;> first | exact .ok _ | exact .error (by decide)

theorem early_ofAttribute (node : Node) (entry : Nat) (written : Attribute)
    : Early (ofAttribute node entry written) := by
  cases written with
  | spread | dynamicName => exact .ok _
  | named name value location =>
      simp only [ofAttribute]
      split
      · exact .ok _
      split
      · exact .error (by decide)
      split
      · exact .ok _
      · exact early_ofNamed node name value

theorem early_ofAttributes (node : Node) (entry : Nat) (attributes : List Attribute)
    : Early (ofAttributes node entry attributes) := by
  induction attributes generalizing entry with
  | nil => exact .ok _
  | cons first rest ih =>
      exact (early_ofAttribute node entry first).bind fun _ => (ih _).bind fun _ => .ok _

theorem early_ofOpening (node : Node) (tag : String) (top : Bool)
    : Early (ofOpening node tag top) := by
  simp only [ofOpening]
  split
  · exact .ok _
  · exact (early_ofAttributes node 0 node.attributes).bind fun _ => .ok _

end Program

mutual

/-- What is wrong with a child is wrong before components are run, by induction on the child. -/
theorem Child.early_check : ∀ child : Child, Early child.check
  | .text _ | .slot _ => by
      simp only [Child.check]
      exact .ok ()
  | .branch node children => by
      simp only [Child.check]
      split
      · exact Child.early_checkAll children
      · exact Child.early_checkAll children
      · split
        next fault => exact .error (Node.staticFault?_kind fault)
        next =>
          split
          · exact Child.early_checkAll children
          · refine (Program.early_ofOpening node _ false).verdict.bind fun _ => ?_
            split
            · exact .ok ()
            · exact Child.early_checkAll children

theorem Child.early_checkAll : ∀ children : List Child, Early (Child.checkAll children)
  | [] => by
      simp only [Child.checkAll]
      exact .ok ()
  | first :: rest => by
      simp only [Child.checkAll]
      exact (Child.early_check first).bind fun _ => Child.early_checkAll rest

end

theorem Error.Located.kind {fragments : List String} {error : Error}
    (located : error.Located fragments)
    : error.kind = .malformed := by
  cases error <;> first | rfl | exact located.elim

namespace Work

/-- Work that never fails because of a component. -/
def FailsEarly {α : Type} (work : Work α) : Prop :=
  ∀ store, Early (work store).1

namespace FailsEarly

variable {α β : Type}

theorem pure (result : α) : FailsEarly (pure result) :=
  fun _ => .ok result

theorem throw {error : Error} (other : error.kind ≠ .component)
    : FailsEarly (throw error : Work α) :=
  fun _ => .error other

theorem bind {first : Work α} {next : α → Work β} (start : first.FailsEarly)
    (rest : ∀ result, (next result).FailsEarly)
    : (first >>= next).FailsEarly := by
  intro store
  have early := start store
  rw [bind_apply]
  cases ran : first store with
  | mk result reached =>
      rw [ran] at early
      cases result with
      | ok value => exact rest value reached
      | error error => exact .error (early error rfl)

end FailsEarly

variable (settings : Settings)

end Work

end TaggedMarkup
