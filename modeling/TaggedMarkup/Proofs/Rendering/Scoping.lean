import TaggedMarkup.Proofs.Rendering.Following

/-! Contexts and selections are scoped by the structure of what is rendered. Code is given the
values of the innermost providers around its component and an option the value of the innermost
selection around it, and whatever succeeds leaves all that stands around it as it was.
-/

namespace TaggedMarkup

open Stateful

/-- The templates that are read have no void selections, so every selection that is entered is
left.
-/
def Settings.LeavesSelections (settings : Settings) : Prop :=
  settings.options.read.isVoid "select" = false

/-- A genuine template, which has no void selections if the templates that are read have none. -/
structure Compiled.Fit (settings : Settings) (form : Compiled) : Prop where
  genuine : form.Genuine
  selecting : settings.LeavesSelections → form.Selecting

theorem Compiled.selecting_of_parse {resolver : Resolver} {options : ReadOptions}
    {fragments : List String} {form : Compiled}
    (parsed : Tree.parse resolver options fragments = .ok form.tree)
    (notVoid : options.isVoid "select" = false)
    : form.Selecting := by
  intro branch member isSelect
  have named := ((Tree.parse_read parsed).roots.branches branch member).opened.named
  rw [named.isVoid, Node.elementName?_element isSelect]
  exact notVoid

namespace Render

variable {cx : RenderSettings} {paired : Prop}

/-- Steps write behind what has been written and do not forget that an element was marked. -/
theorem Rendering.grows {steps : List Step} {subjects : List Subject} {start finish : Progress}
    (rendering : Rendering cx paired steps subjects start finish)
    : start.output.toList <+: finish.output.toList
      ∧ (start.rootMarked = true → finish.rootMarked = true) := by
  induction rendering with
  | done => exact ⟨List.prefix_rfl, id⟩
  | @write piece _ _ start _ _ ih =>
      obtain ⟨before, marked⟩ := ih
      refine ⟨.trans ?_ before, marked⟩
      simp only [Progress.write, Array.toList_push]
      exact List.prefix_append _ _
  | @text text _ _ start _ _ ih =>
      obtain ⟨before, marked⟩ := ih
      refine ⟨.trans ?_ before, marked⟩
      simp only [Progress.writeText]
      split
      · simp only [Array.toList_push, List.append_assoc]
        exact List.prefix_append _ _
      · simp only [Array.toList_push]
        exact List.prefix_append _ _
  | @rootMarker _ _ start _ _ ih =>
      obtain ⟨before, marked⟩ := ih
      refine ⟨.trans ?_ before, fun _ => marked rfl⟩
      simp only [Progress.markRoot]
      split
      · simp only [Array.toList_push]
        exact List.prefix_append _ _
      · exact List.prefix_rfl
  | run _ _ _ ih => exact ih
  | inside _ _ _ within rest =>
      exact ⟨within.1.trans rest.1, fun isMarked => rest.2 (within.2 isMarked)⟩

/-- Values with fit templates can be trusted when code keeps them. -/
theorem trusted_fit
    (keeps : cx.host.Keeps (Value.Among (Compiled.Fit cx.settings)) fun _ => True)
    : Trusted cx cx.settings.LeavesSelections (Value.Among (Compiled.Fit cx.settings)) where
  closed := Value.closed_among _
  binds _ _ _ := fun ⟨_, _, parsed⟩ genuine inside =>
    .markup ⟨genuine, Compiled.selecting_of_parse parsed⟩ inside
  host := keeps
  genuine := by
    rintro markup (_ | _)
    rename_i fit _
    exact fit.genuine
  selecting := by
    rintro markup leaves (_ | _)
    rename_i fit _
    exact fit.selecting leaves

/-- Whatever a value is rendered in, a render that succeeds leaves providers, selections and the
nesting of components as they were, and it only adds to the output. It makes the steps of the
value, each in the surroundings that the structure of the value gives it. Only where the templates
that are read may have void selections can some stay entered, on top of those that were before.
-/
theorem renderValue_scoped
    (keeps : cx.host.Keeps (Value.Among (Compiled.Fit cx.settings)) fun _ => True) {value : Value}
    (fit : Value.Among (Compiled.Fit cx.settings) value) (remaining : Nat)
    {before reached : RenderState}
    (ready : Ready cx (Value.Among (Compiled.Fit cx.settings)) before)
    (rendered : renderValue cx (invoke cx remaining) value before = (.ok (), reached))
    : reached.providers = before.providers
      ∧ before.selections <:+ reached.selections
      ∧ (cx.settings.LeavesSelections → reached.selections = before.selections)
      ∧ reached.depth = before.depth
      ∧ before.output.toList <+: reached.output.toList
      ∧ (before.rootMarked = true → reached.rootMarked = true)
      ∧ ∃ subjects,
          Rendering cx cx.settings.LeavesSelections
            [.inside (before.around cx.host) (.value value)] subjects before.progress
            reached.progress := by
  obtain ⟨⟨subjects, makes⟩, restored⟩ :=
    follows_render (trusted_fit keeps) remaining fit before reached ready rendered
  obtain ⟨behind, marked⟩ := makes.grows
  exact ⟨restored.providers, restored.keeps, restored.selections, restored.depth, behind, marked,
    _, .inside (.refl _) makes .done⟩

/-- A reader of a context inside and beside a provider, and an option inside and beside a
selection, in a state that has a provider and a selection around them.
-/
theorem renderValue_scoped_beside
    : let host : Host :=
        { Host.constant fun _ => .undefined with
          function := fun _ _ => .context "c" fun value => .done value }
      let cx : RenderSettings := { settings := {}, options := {}, host }
      let reader : Value := .element ⟨0, none, .component (.function 0), none, none, []⟩
      let option : Value := .element ⟨1, none, .host "option", none, none, [("value", .string "b")]⟩
      let provider : Value :=
        .element ⟨2, none, .component (.provider "c"), none, none,
          [("value", .string "inner"), ("children", reader)]⟩
      let selection : Value :=
        .element ⟨3, none, .host "select", none, none,
          [("value", .string "a"), ("children", option)]⟩
      let value : Value := .array [provider, reader, selection, option]
      let before : RenderState :=
        { store := {}
          output := #[.openEnd]
          rootMarked := true
          selections := [.string "b"]
          providers := [("c", .string "outer")]
          depth := 3 }
      ∃ reached,
        renderValue cx (invoke cx 2) value before = (.ok (), reached)
        ∧ reached.output.toList
          = [.openEnd, .text "inner", .separator, .text "outer", .openTag "select", .openEnd,
              .openTag "option", .attribute "value" "b", .openEnd, .closeTag "option",
              .closeTag "select", .openTag "option", .attribute "selected" "",
              .attribute "value" "b", .openEnd, .closeTag "option"]
        ∧ reached.providers = before.providers
        ∧ reached.selections = before.selections
        ∧ reached.depth = before.depth
        ∧ ∃ subjects,
            Rendering cx cx.settings.LeavesSelections
              [.inside (before.around cx.host) (.value value)] subjects before.progress
              reached.progress := by
  intro host cx reader option provider selection value before
  have keeps : cx.host.Keeps (Value.Among (Compiled.Fit cx.settings)) fun _ => True :=
    { Host.keeps_constant .undefined fun _ => .undefined with
      function := fun _ _ _ _ holds => holds }
  have isReader : Value.Among (Compiled.Fit cx.settings) reader := .element (by simp) (by simp)
  have isOption : Value.Among (Compiled.Fit cx.settings) option :=
    .element (by simpa using .string "b") (by simp)
  have isProvider : Value.Among (Compiled.Fit cx.settings) provider :=
    .element (by simpa using ⟨.string "inner", isReader⟩) (by simp)
  have isSelection : Value.Among (Compiled.Fit cx.settings) selection :=
    .element (by simpa using ⟨.string "a", isOption⟩) (by simp)
  have fit : Value.Among (Compiled.Fit cx.settings) value :=
    .array (by simpa using ⟨isProvider, isReader, isSelection, isOption⟩)
  have ready : Ready cx (Value.Among (Compiled.Fit cx.settings)) before :=
    ⟨⟨fun _ _ => nofun, fun _ _ => nofun⟩, by simpa [before] using .string "outer",
      fun _ _ read => read⟩
  have checked
      : (renderValue cx (invoke cx 2) value before).1 = .ok ()
        ∧ (renderValue cx (invoke cx 2) value before).2.output.toList
          = [.openEnd, .text "inner", .separator, .text "outer", .openTag "select", .openEnd,
              .openTag "option", .attribute "value" "b", .openEnd, .closeTag "option",
              .closeTag "select", .openTag "option", .attribute "selected" "",
              .attribute "value" "b", .openEnd, .closeTag "option"] := by
    decide +kernel
  obtain ⟨reached, outcome, writes⟩ :=
    exists_of_apply (fun reached => reached.output.toList) checked
  obtain ⟨providers, -, selections, depth, -, -, makes⟩ :=
    renderValue_scoped keeps fit 2 ready outcome
  exact ⟨reached, outcome, writes, providers, selections rfl, depth, makes⟩

/-- A void selection is entered and not left, so its value stays. A tag in capitals is that of no
selection, so an option inside it looks at the selection around.
-/
theorem void_selection_stays
    : let host : Host := .constant fun _ => .undefined
      let settings : Settings := { options := { read := { isVoid := (· == "select") } } }
      let cx : RenderSettings := { settings, options := {}, host }
      let template : Template := ⟨0, ["<div><select value=b /><option value=b /></div>"]⟩
      let capital : Template :=
        ⟨1, ["<select value=a><SELECT value=b><option value=b>x</option></SELECT></select>"]⟩
      let bound := Work.markup settings template [] {}
      (bound.1.map fun markup =>
          let ended := renderRoot cx (.markup markup) { store := bound.2 }
          (ended.1, ended.2.selections.map Value.text))
        = .ok (.ok (), ["b"])
      ∧ ((Engine.ofOptions {}).render host false capital []).1
        = .ok
            ("<select data-reactroot=\"\"><SELECT value=\"b\"><option value=\"b\">x</option>"
              ++ "</SELECT></select>") := by
  decide +kernel

end Render

end TaggedMarkup
