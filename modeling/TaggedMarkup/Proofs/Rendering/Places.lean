import TaggedMarkup.Proofs.Rendering.Scoping

/-! A render is recorded place by place. Each subject that is rendered has a place, with what was
there before and after it and with the innermost selection around it, which is known from what
has been entered on the way to the place.
-/

namespace TaggedMarkup.Render

-----------------------------------------------------------------------------------------
-- Records
-----------------------------------------------------------------------------------------

/-- The host element that a subject is, with its properties. What stands between the tags of a
node is one of them.
-/
def Subject.element? : Subject → Option (String × Props)
  | .host tag props => some (tag, props)
  | .node markup _ _ (.branch opened nested) =>
      opened.elementName?.map fun tag => (tag, ((Step.slots markup).nodeProps ⟨opened, nested⟩).2)
  | _ => none

/-- The properties of the innermost selection inside a subject, given those of the one around. -/
def Subject.selection (outer : Option Props) (subject : Subject) : Option Props :=
  match subject.element? with
  | some (tag, props) => if tag = "select" then some props else outer
  | none => outer

/-- A subject that has been rendered. -/
structure Place where
  /-- The properties of the innermost selection around the subject, if there is one. -/
  selection : Option Props
  around : Surroundings
  subject : Subject
  start : Progress
  finish : Progress

/-- A rendering of steps inside a selection or outside of all, with the place of each subject. -/
inductive Traced (cx : RenderSettings) (paired : Prop)
    : Option Props → List Step → List Place → Progress → Progress → Prop
  | done {outer : Option Props} {start : Progress} : Traced cx paired outer [] [] start start
  | write {outer : Option Props} {piece : Piece} {steps : List Step} {places : List Place}
    {start finish : Progress}
    (rest : Traced cx paired outer steps places (start.write piece) finish)
    : Traced cx paired outer (.write piece :: steps) places start finish
  | text {outer : Option Props} {text : String} {steps : List Step} {places : List Place}
    {start finish : Progress}
    (rest : Traced cx paired outer steps places (start.writeText cx.options text) finish)
    : Traced cx paired outer (.text text :: steps) places start finish
  | rootMarker {outer : Option Props} {steps : List Step} {places : List Place}
    {start finish : Progress}
    (rest : Traced cx paired outer steps places (start.markRoot cx.options) finish)
    : Traced cx paired outer (.rootMarker :: steps) places start finish
  | run {outer : Option Props} {around here : Surroundings} {body : Body Value} {value : Value}
    {store : Store} {steps : List Step} {places : List Place} {start finish : Progress}
    (agrees : here.Agrees paired around)
    (runs : body.run cx.settings cx.inner here.context start.store = (.ok value, store))
    (rest
      : Traced cx paired outer (.inside here (.value value) :: steps) places { start with store }
          finish)
    : Traced cx paired outer (.run around body :: steps) places start finish
  | inside {outer : Option Props} {around here : Surroundings} {subject : Subject}
    {steps : List Step} {inner later : List Place} {start middle finish : Progress}
    (agrees : here.Agrees paired around)
    (within
      : Traced cx paired (subject.selection outer) (stepsOf cx.host here subject) inner start
          middle)
    (rest : Traced cx paired outer steps later middle finish)
    : Traced cx paired outer (.inside around subject :: steps)
        (⟨outer, here, subject, start, middle⟩ :: inner ++ later) start finish

variable {cx : RenderSettings} {paired : Prop} {outer : Option Props} {steps : List Step}
  {places : List Place} {start finish : Progress}

/-- Every rendering can be recorded, by induction on it. -/
theorem Rendering.traced {subjects : List Subject}
    (rendering : Rendering cx paired steps subjects start finish) (outer : Option Props)
    : ∃ places,
        Traced cx paired outer steps places start finish
        ∧ places.map Place.subject = subjects := by
  induction rendering generalizing outer with
  | done => exact ⟨[], .done, rfl⟩
  | write _ ih =>
      obtain ⟨places, traced, same⟩ := ih outer
      exact ⟨places, .write traced, same⟩
  | text _ ih =>
      obtain ⟨places, traced, same⟩ := ih outer
      exact ⟨places, .text traced, same⟩
  | rootMarker _ ih =>
      obtain ⟨places, traced, same⟩ := ih outer
      exact ⟨places, .rootMarker traced, same⟩
  | run agrees runs _ ih =>
      obtain ⟨places, traced, same⟩ := ih outer
      exact ⟨places, .run agrees runs traced, same⟩
  | @inside _ _ subject _ _ _ _ _ _ agrees _ _ within rest =>
      obtain ⟨inner, traced, rfl⟩ := within (subject.selection outer)
      obtain ⟨later, traced', rfl⟩ := rest outer
      exact ⟨_, .inside agrees traced traced', by simp⟩

/-- A value that is rendered in a fit environment is recorded. -/
theorem traced_render
    (keeps : cx.host.Keeps (Value.Among (Compiled.Fit cx.settings)) fun _ => True) {value : Value}
    (fit : Value.Among (Compiled.Fit cx.settings) value) (remaining : Nat)
    {before reached : RenderState}
    (ready : Ready cx (Value.Among (Compiled.Fit cx.settings)) before)
    (rendered : renderValue cx (invoke cx remaining) value before = (.ok (), reached))
    (outer : Option Props)
    : ∃ places,
        Traced cx cx.settings.LeavesSelections outer
          [.inside (before.around cx.host) (.value value)] places before.progress
          reached.progress := by
  obtain ⟨⟨subjects, makes⟩, -⟩ :=
    follows_render (trusted_fit keeps) remaining fit before reached ready rendered
  obtain ⟨places, traced, -⟩ :=
    (Rendering.inside (.refl (before.around cx.host)) makes .done).traced outer
  exact ⟨places, traced⟩

/-- A record is one of a rendering. -/
theorem Traced.rendering (traced : Traced cx paired outer steps places start finish)
    : Rendering cx paired steps (places.map Place.subject) start finish := by
  induction traced with
  | done => exact .done
  | write _ ih => exact .write ih
  | text _ ih => exact .text ih
  | rootMarker _ ih => exact .rootMarker ih
  | run agrees runs _ ih => exact .run agrees runs ih
  | inside agrees _ _ within rest =>
      simpa only [List.map_cons, List.map_append] using Rendering.inside agrees within rest

/-- At each place the steps of the subject have been made. -/
theorem Traced.made (traced : Traced cx paired outer steps places start finish)
    : ∀ place ∈ places,
        ∃ subjects,
          Rendering cx paired (stepsOf cx.host place.around place.subject) subjects place.start
            place.finish := by
  induction traced with
  | done => simp
  | write _ ih | text _ ih | rootMarker _ ih | run _ _ _ ih => exact ih
  | inside _ traced _ within rest =>
      intro place member
      rcases List.mem_append.mp member with member | later
      · rcases List.mem_cons.mp member with rfl | inner
        · exact ⟨_, traced.rendering⟩
        · exact within place inner
      · exact rest place later

-----------------------------------------------------------------------------------------
-- Selections around places
-----------------------------------------------------------------------------------------

namespace Step

/-- A step that renders nothing inside. -/
def IsOwn : Step → Prop
  | .write _ | .text _ | .rootMarker | .fail _ => True
  | .run .. | .inside .. => False

/-- A step that is made inside a selection of a value, if it is made inside something. -/
def SelectsBy (selection : Option Value) : Step → Prop
  | .run around _ | .inside around _ => around.selection = selection
  | _ => True

variable {step : Step} {selection : Option Value} {around : Surroundings} {markup : Markup}
  {node : Node} {tag : String}

theorem SelectsBy.of_own (own : step.IsOwn) : step.SelectsBy selection := by
  cases step <;> trivial

theorem own_attributes {written : Except Error (List Piece)} (member : step ∈ attributes written)
    : step.IsOwn := by
  cases written with
  | error error =>
      obtain rfl := List.mem_singleton.mp member
      trivial
  | ok pieces =>
      obtain ⟨piece, -, rfl⟩ := List.mem_map.mp member
      trivial

theorem own_openTag {props : Props} (member : step ∈ openTag tag props) : step.IsOwn := by
  simp only [openTag, List.cons_append, List.mem_cons, List.mem_append, List.not_mem_nil,
    or_false] at member
  rcases member with rfl | member | rfl
  · trivial
  · exact own_attributes member
  · trivial

theorem own_opening {top : Bool} (member : step ∈ opening markup node tag top) : step.IsOwn := by
  simp only [opening] at member
  split at member
  · exact own_openTag member
  · simp only [List.cons_append, List.mem_cons, List.mem_append] at member
    rcases member with rfl | member | member
    · trivial
    · exact own_attributes member
    · split at member
      · obtain rfl := List.mem_singleton.mp member
        trivial
      · cases member

theorem own_lineFeed {leadNewline : Bool} {value : Value}
    (member : step ∈ lineFeed leadNewline value)
    : step.IsOwn := by
  simp only [lineFeed] at member
  split at member
  · obtain rfl := List.mem_singleton.mp member
    trivial
  · cases member

theorem own_texts {text : String} (member : step ∈ texts text) : step.IsOwn := by
  simp only [texts] at member
  split at member
  · cases member
  · obtain rfl := List.mem_singleton.mp member
    trivial

/-- Only what the children are rendered by is inside of the content. -/
theorem mem_content {given : Content} {children : List Step}
    (member : step ∈ content tag given children)
    : step.IsOwn ∨ step ∈ children := by
  cases given with
  | nothing => cases member
  | innerHtml inner =>
      rcases List.mem_append.mp member with feed | rest
      · exact .inl (own_lineFeed feed)
      · obtain rfl := List.mem_singleton.mp rest
        exact .inl trivial
  | children value =>
      rcases List.mem_append.mp member with feed | rest
      · exact .inl (own_lineFeed feed)
      · exact .inr rest

theorem mem_element {props : Props} {children : List Step}
    (member : step ∈ element tag props children)
    : step.IsOwn ∨ step ∈ children := by
  simp only [element] at member
  split at member
  · obtain rfl := List.mem_singleton.mp member
    exact .inl trivial
  split at member
  · obtain rfl := List.mem_singleton.mp member
    exact .inl trivial
  rcases List.mem_append.mp member with opens | member
  · exact .inl (own_openTag opens)
  split at member
  · obtain rfl := List.mem_singleton.mp member
    exact .inl trivial
  · simp only [List.cons_append, List.mem_cons, List.mem_append, List.not_mem_nil, or_false]
      at member
    rcases member with rfl | inside | rfl
    · exact .inl trivial
    · exact mem_content inside
    · exact .inl trivial

/-- Form elements whose content is text render nothing inside. -/
theorem own_control {props : Props} (member : step ∈ control selection tag props)
    : step.IsOwn := by
  simp only [control] at member
  split at member
  · exact (mem_element member).resolve_right (by simp)
  split at member <;> exact (mem_element member).elim id own_texts

/-- What is rendered inside the content that attributes give is what the children are. -/
theorem mem_given (member : step ∈ given around markup node tag)
    : step.IsOwn ∨ step ∈ optional around (Fields.get? (node.props markup.values) "children") := by
  simp only [given] at member
  split at member
  next =>
      split at member
      next =>
          obtain rfl := List.mem_singleton.mp member
          exact .inl trivial
      next => cases member
      next =>
          split at member
          · obtain rfl := List.mem_singleton.mp member
            exact .inl trivial
          · exact mem_content member
  next => cases member

theorem selectsBy_optional {value : Option Value} (same : around.selection = selection)
    (member : step ∈ optional around value)
    : step.SelectsBy selection := by
  obtain ⟨value, -, rfl⟩ := List.mem_map.mp member
  exact same

theorem selectsBy_children {top leadNewline : Bool} {nested : List Child}
    (same : around.selection = selection)
    (member : step ∈ children around markup top leadNewline nested)
    : step.SelectsBy selection := by
  obtain ⟨child, -, rfl⟩ := List.mem_map.mp member
  exact same

/-- All that is inside an element that is compiled inline is inside what it is entered as. -/
theorem selectsBy_inline {top : Bool} {nested : List Child}
    (same : (around.enter tag (ownProps markup node)).selection = selection)
    (member : step ∈ inline around markup top node tag nested)
    : step.SelectsBy selection := by
  have inGiven
      (member : step ∈ given (around.enter tag (ownProps markup node)) markup node tag)
      : step.SelectsBy selection :=
    (mem_given member).elim .of_own (selectsBy_optional same)
  simp only [inline] at member
  rcases List.mem_append.mp member with opens | member
  · exact .of_own (own_opening opens)
  split at member
  · rcases List.mem_append.mp member with gives | closes
    · exact inGiven gives
    · obtain rfl := List.mem_singleton.mp closes
      trivial
  · simp only [List.cons_append, List.mem_cons, List.mem_append, List.not_mem_nil, or_false]
      at member
    rcases member with rfl | inside | rfl
    · trivial
    · split at inside
      · exact inGiven inside
      · exact selectsBy_children same inside
    · trivial

end Step

/-- Entering an element enters the selection that it is. -/
theorem Surroundings.selection_enter {around : Surroundings} {outer : Option Props}
    (same : around.selection = outer.map FormControl.selectValue) (tag : String) (props : Props)
    : (around.enter tag props).selection
      = (if tag = "select" then some props else outer).map FormControl.selectValue := by
  simp only [enter]
  split
  · rfl
  · exact same

/-- The children of a node have no say in the value of the selection that it is. -/
theorem selectValue_nodeProps (markup : Markup) (branch : Branch)
    : FormControl.selectValue ((Step.slots markup).nodeProps branch).2
      = FormControl.selectValue (Step.ownProps markup branch.node) := by
  simp only [Slots.nodeProps, Step.ownProps]
  split
  · rfl
  · simp only [FormControl.selectValue, FormControl.firstPresent, Fields.get?_insert]
    rfl

variable {around : Surroundings} {selection : Option Value} {step : Step}

theorem selectsBy_valueSteps (same : around.selection = selection) {value : Value}
    (member : step ∈ valueSteps around value)
    : step.SelectsBy selection := by
  cases value with
  | undefined | null | bool | function | symbol => cases member
  | string text => exact .of_own (Step.own_texts member)
  | number | object =>
      obtain rfl := List.mem_singleton.mp member
      trivial
  | array items =>
      obtain ⟨item, -, rfl⟩ := List.mem_map.mp member
      exact same
  | element element =>
      obtain ⟨serial, part, kind, key, reference, props⟩ := element
      cases kind with
      | host | component =>
          obtain rfl := List.mem_singleton.mp member
          exact same
      | fragment => exact Step.selectsBy_optional same member
  | markup markup => exact Step.selectsBy_children same member

theorem selectsBy_componentSteps (host : Host) (same : around.selection = selection)
    {component : Component} {props : Props} {reference : Option Value}
    (member : step ∈ componentSteps host around props reference component)
    : step.SelectsBy selection := by
  cases component with
  | function | stateful | forwardRef | memo | «alias» =>
      obtain rfl := List.mem_singleton.mp member
      exact same
  | provider context =>
      obtain ⟨children, -, rfl⟩ := List.mem_map.mp member
      exact same
  | fragment => exact Step.selectsBy_optional same member
  | consumer context =>
      simp only [componentSteps] at member
      split at member
      all_goals obtain rfl := List.mem_singleton.mp member
      · exact same
      · trivial

theorem selectsBy_host {tag : String} {props : Props}
    (same : (around.enter tag props).selection = selection)
    (member : step ∈ Step.host around tag props)
    : step.SelectsBy selection := by
  simp only [Step.host] at member
  split at member
  · exact .of_own (Step.own_control member)
  split at member
  all_goals exact (Step.mem_element member).elim .of_own (Step.selectsBy_optional same)

theorem selectsBy_branch {markup : Markup} {top : Bool} {opened : Node} {nested : List Child}
    (same : around.selection = outer.map FormControl.selectValue)
    (member : step ∈ Step.branch around markup top opened nested)
    : step.SelectsBy
        (((Subject.node markup top false (.branch opened nested)).selection outer).map
          FormControl.selectValue) := by
  simp only [Step.branch] at member
  split at member
  next isFragment =>
      simp only [Subject.selection, Subject.element?, Node.elementName?, isFragment]
      exact Step.selectsBy_children same member
  next isComponent =>
      simp only [Subject.selection, Subject.element?, Node.elementName?, isComponent]
      obtain ⟨component, -, rfl⟩ := List.mem_map.mp member
      exact same
  next tag isElement =>
      simp only [Subject.selection, Subject.element?, Node.elementName?, isElement]
      split at member
      · exact .of_own (Step.own_control member)
      · refine Step.selectsBy_inline ?_ member
        rw [Surroundings.selection_enter same]
        split <;> simp [*, selectValue_nodeProps]

/-- All that is rendered inside a subject is inside its selection. -/
theorem selectsBy_stepsOf (host : Host)
    (same : around.selection = outer.map FormControl.selectValue) (subject : Subject)
    : ∀ step ∈ stepsOf host around subject,
        step.SelectsBy ((subject.selection outer).map FormControl.selectValue) := by
  intro step member
  cases subject with
  | value value => exact selectsBy_valueSteps same member
  | component component props reference => exact selectsBy_componentSteps host same member
  | host tag props => exact selectsBy_host (Surroundings.selection_enter same tag props) member
  | node markup top leadNewline child =>
      cases child with
      | text text =>
          obtain rfl := List.mem_singleton.mp member
          trivial
      | slot slot =>
          rcases List.mem_append.mp member with feed | renders
          · exact .of_own (Step.own_lineFeed feed)
          · obtain rfl := List.mem_singleton.mp renders
            exact same
      | branch opened nested => exact selectsBy_branch same member

/-- What a record says about the selections around its places is how they were rendered. -/
theorem Traced.selects (holds : paired)
    (traced : Traced cx paired outer steps places start finish)
    (same : ∀ step ∈ steps, step.SelectsBy (outer.map FormControl.selectValue))
    : ∀ place ∈ places,
        place.around.selection = place.selection.map FormControl.selectValue := by
  induction traced with
  | done => simp
  | write _ ih | text _ ih | rootMarker _ ih =>
      exact ih fun step member => same step (List.mem_cons_of_mem _ member)
  | run agrees _ _ ih =>
      have first := same _ (List.mem_cons_self ..)
      refine ih fun step member => ?_
      rcases List.mem_cons.mp member with rfl | member
      · exact (agrees.selection holds).trans first
      · exact same step (List.mem_cons_of_mem _ member)
  | @inside outer around here subject _ _ _ _ _ _ agrees _ _ within rest =>
      have first : here.selection = outer.map FormControl.selectValue :=
        (agrees.selection holds).trans (same _ (List.mem_cons_self ..))
      intro place member
      rcases List.mem_append.mp member with member | later
      · rcases List.mem_cons.mp member with rfl | inner
        · exact first
        · exact within (selectsBy_stepsOf cx.host first subject) place inner
      · exact rest (fun step member => same step (List.mem_cons_of_mem _ member)) place later

end TaggedMarkup.Render
