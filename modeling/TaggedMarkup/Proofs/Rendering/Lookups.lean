import TaggedMarkup.Proofs.Caching.Currency
import TaggedMarkup.Proofs.Caching.Origin
import TaggedMarkup.Proofs.Supplied

/-! A render passes over what it looks up and does not find. It is compared with one that does
something else there. The two make the same moves whatever that is, because every bound template
in an engine was compiled with its components and bound to as many values as it has slots.
-/

namespace TaggedMarkup

-----------------------------------------------------------------------------------------
-- A renderer that does not pass over anything
-----------------------------------------------------------------------------------------

namespace Slots

/-- Makes a call if all that it looks up is there. -/
def runCallOr (cx : RenderSettings) (missing : Render Unit) (invoke : Invoke) (slots : Slots)
    (call : Call) : Render Unit :=
  if slots.template.Supplies slots.values.length call then
    runCall cx invoke slots call
  else
    missing

def runProgramOr (cx : RenderSettings) (missing : Render Unit) (invoke : Invoke) (slots : Slots)
    : Program → Render Unit
  | [] => pure ()
  | .write piece :: rest => do
      Render.write piece
      runProgramOr cx missing invoke slots rest
  | .call call :: rest => do
      runCallOr cx missing invoke slots call
      runProgramOr cx missing invoke slots rest

/-- Runs a program that is there and that has characters before, between and after its calls. -/
def renderOr (cx : RenderSettings) (missing : Render Unit) (invoke : Invoke) (slots : Slots)
    (entry : Option Nat) : Render Unit :=
  match slots.template.program? entry with
  | some program =>
      if program.strings.length = program.calls.length + 1 then
        runProgramOr cx missing invoke slots program
      else
        missing
  | none => missing

end Slots

/-- A render that does something else wherever a lookup finds nothing. -/
def Render.renderRootOr (cx : RenderSettings) (missing : Render Unit) (value : Value)
    : Render Unit :=
  renderRootBy cx (Slots.renderOr cx missing) value

-----------------------------------------------------------------------------------------
-- Sound values
-----------------------------------------------------------------------------------------

/-- A template was compiled with the components of some registry and bound to as many values as
its fragments have slots, as a whole or at a node that has a program of its own.
-/
structure Markup.Sound (markup : Markup) : Prop where
  made
    : ∃ registry options fragments,
        markup.template.MadeOf registry options fragments
        ∧ slotCount fragments = markup.values.length
  entry : (markup.template.program? markup.entry).isSome = true

/-- All bound templates in a value are sound. -/
abbrev Value.Sound : Value → Prop :=
  Value.Each Markup.Sound

theorem Value.Sound.bound {markup : Markup} (sound : Value.Sound (.markup markup))
    : markup.Sound := by
  cases sound
  assumption

/-- A sound template is complete for the values that are bound to it. -/
theorem Markup.Sound.complete {markup : Markup} (sound : markup.Sound)
    : markup.template.Complete markup.values.length := by
  obtain ⟨registry, options, fragments, made, counted⟩ := sound.made
  exact counted ▸ made.complete

namespace Store.Current

variable {library : Nat → List String} {settings : Settings} {store reached : Store}
  {template : Template} {values : List Value}

/-- A compiled form that is asked for is made of the fragments of the template. -/
theorem compile_made {form : Compiled} (now : Store.Current library settings store)
    (known : template.In library)
    (asked : Work.compile settings template store = (.ok form, reached))
    : ∃ registry, form.MadeOf registry settings.options.read template.fragments := by
  obtain ⟨entry, middle, reading, kept, made⟩ :=
    (lasting library settings).compile_entry known now (fun now found => now.compiles _ _ found)
      asked
  obtain ⟨registry, -, parsed, components⟩ := kept.current _ _ (Work.entry_found reading)
  obtain ⟨output, -, rfl⟩ := Program.ofTree_eq made
  exact ⟨registry, known ▸ parsed, components, made⟩

/-- Values are bound soundly to a template that is asked for. -/
theorem markup_sound {markup : Markup} (now : Store.Current library settings store)
    (known : template.In library)
    (asked : Work.markup settings template values store = (.ok markup, reached))
    : markup.Sound ∧ markup.values = values := by
  obtain ⟨counted, form, stored, compiled, rfl, -⟩ := Work.markup_ok asked
  obtain ⟨registry, made⟩ := now.compile_made known compiled
  exact ⟨⟨⟨registry, _, _, made, counted⟩, rfl⟩, rfl⟩

/-- The requests of code are answered with sound values. -/
theorem answering (library : Nat → List String) (settings : Settings)
    : Store.Answering settings Value.Sound (Template.In library)
        (fun store other => store = other ∧ Store.Current library settings store) := by
  refine (lasting library settings).answering ?_ ?_
  · intro template values store reached value known sound now answered
    obtain ⟨markup, bound, rfl⟩ := Work.html_ok answered
    obtain ⟨whole, rfl⟩ := now.markup_sound known bound
    exact .markup whole sound
  · intro template values store reached value _ sound _ answered
    exact Store.Read.create_good (Value.formed_each _) sound answered

end Store.Current

/-- Values are bound soundly to fragments that are compiled without the cache. -/
theorem Work.markupOfFragments_sound {settings : Settings} {fragments : List String}
    {values : List Value} {store reached : Store} {markup : Markup}
    (asked : markupOfFragments settings fragments values store = (.ok markup, reached))
    : markup.Sound ∧ markup.values = values := by
  obtain ⟨counted, tree, form, parsed, compiled, rfl, -⟩ := markupOfFragments_ok asked
  obtain ⟨output, -, rfl⟩ := Program.ofTree_eq compiled
  exact ⟨⟨⟨_, _, _, ⟨parsed, rfl, compiled⟩, counted⟩, rfl⟩, rfl⟩

-----------------------------------------------------------------------------------------
-- Runs
-----------------------------------------------------------------------------------------

namespace Render.Lockstep

variable {cx : RenderSettings} {related : Store → Store → Prop} {invoke invoke' : Invoke}
  {slots slots' : Slots} {entry : Option Nat}

/-- What a component is given is sound when all that its properties are made of is there. -/
theorem gives_sound {branch : Branch} {call : Call}
    (holds : Value.Sound (.markup ⟨slots.serial, slots.template, slots.values, entry⟩))
    (supplied : slots.template.SuppliesProps slots.values.length branch)
    : Gives Value.Sound slots branch call := by
  have inside := (Value.formed_each _).slots holds
  intro id _
  apply (Value.formed_each _).slotsProps inside
  intro node children member
  exact .markup ⟨holds.bound.made, supplied.2 _ member⟩ inside

/-- A call is made in both ways when all that it looks up is there. -/
theorem runCallOr (missing : Render Unit)
    (holds : Value.Sound (.markup ⟨slots.serial, slots.template, slots.values, entry⟩))
    (together : SlotsPair (Together Value.Sound related) slots slots')
    (invokes : InvokePair Value.Sound (Together Value.Sound related) invoke invoke')
    {call : Call} (supplied : slots.template.Supplies slots.values.length call)
    : Together Value.Sound related (slots.runCall cx invoke call)
        (slots'.runCallOr cx missing invoke' call) := by
  rw [Slots.runCallOr, together.template, together.values, if_pos supplied]
  apply runCall together invokes
  rintro id branch rfl found
  obtain ⟨other, isFound, -, props⟩ := supplied
  obtain rfl := Option.some.inj (found.symm.trans isFound)
  exact gives_sound holds props

/-- A program is run in both ways, by induction on its steps. -/
theorem runProgramOr (missing : Render Unit)
    (holds : Value.Sound (.markup ⟨slots.serial, slots.template, slots.values, entry⟩))
    (together : SlotsPair (Together Value.Sound related) slots slots')
    (invokes : InvokePair Value.Sound (Together Value.Sound related) invoke invoke')
    {program : Program} (supplied : slots.template.SuppliesAll slots.values.length program)
    : Together Value.Sound related (slots.runProgram cx invoke program)
        (slots'.runProgramOr cx missing invoke' program) := by
  induction program with
  | nil => exact done trivial
  | cons instruction rest ih =>
      cases instruction with
      | write piece => exact (write piece).andThen (ih supplied)
      | call call =>
          obtain ⟨here, later⟩ := List.forall_mem_cons.mp supplied
          exact (runCallOr missing holds together invokes here).andThen (ih later)

/-- A sound template is run in both ways. -/
theorem renderOr (missing : Render Unit)
    (holds : Value.Sound (.markup ⟨slots.serial, slots.template, slots.values, entry⟩))
    (together : SlotsPair (Together Value.Sound related) slots slots')
    (invokes : InvokePair Value.Sound (Together Value.Sound related) invoke invoke')
    : Together Value.Sound related (slots.render cx invoke entry)
        (slots'.renderOr cx missing invoke' entry) := by
  obtain ⟨program, isProgram⟩ := Option.isSome_iff_exists.mp holds.bound.entry
  obtain ⟨placed, supplied⟩ := holds.bound.complete entry program isProgram
  simp only [Slots.render, Slots.renderOr, together.template, isProgram, if_pos placed]
  exact runProgramOr missing holds together invokes supplied

end Render.Lockstep

/-- Rendering a sound value does not depend on what is done where a lookup finds nothing. -/
theorem Render.renderRootOr_eq {library : Nat → List String} {cx : RenderSettings}
    (renders
      : Store.Renders cx.inner Value.Sound (Template.In library) fun store other =>
          store = other ∧ Store.Current library cx.settings store)
    (keeps : cx.host.Keeps Value.Sound (Template.In library)) {store : Store}
    (now : Store.Current library cx.settings store) {value : Value} (sound : value.Sound)
    (missing : Render Unit)
    : renderRootOr cx missing value { store } = renderRoot cx value { store } := by
  have pairing :=
    Lockstep.pairing (Store.Current.answering library cx.settings) renders keeps
      (Value.formed_each _).toInherited (Value.formed_each _).slots
      fun holds together invokes => Lockstep.renderOr missing holds together invokes
  obtain ⟨result, reached, store', left, right, ⟨rfl, -⟩, -⟩ :=
    pairing.renderRoot sound { store } store ⟨rfl, now⟩ fun _ => nofun
  exact right.trans left.symm

-----------------------------------------------------------------------------------------
-- Engines
-----------------------------------------------------------------------------------------

namespace Engine

variable {library : Nat → List String} {engine : Engine} {host : Host}

/-- The moves of a render of a value stay the same whatever is done where a lookup finds nothing. -/
def FindsAll (engine : Engine) (host : Host) (store : Store) (value : Value) : Prop :=
  ∀ static missing,
    let cx : RenderSettings := engine.rendering host static
    Render.renderRootOr cx missing value { store } = Render.renderRoot cx value { store }

/-- In every state that an engine can come to, a template to which values are bound is complete,
whether it comes from the cache or not. Rendering it with sound values passes over nothing that
is missing, and neither does rendering a sound value of any other kind.
-/
theorem render_finds_all (reached : Engine.Reachable host (Template.In library) engine)
    (asks : host.Keeps (fun _ => True) (Template.In library))
    (keeps : host.Keeps Value.Sound (Template.In library))
    : (∀ template values bound store,
          template.In library
          → Work.markup engine.settings template values engine.store = (.ok bound, store)
          → bound.template.Complete values.length
            ∧ ((∀ value ∈ values, value.Sound) → engine.FindsAll host store (.markup bound)))
      ∧ (∀ fragments values bound store,
          Work.markupOfFragments engine.settings fragments values engine.store
            = (.ok bound, store)
          → bound.template.Complete values.length
            ∧ ((∀ value ∈ values, value.Sound) → engine.FindsAll host store (.markup bound)))
      ∧ ∀ value, value.Sound → engine.FindsAll host engine.store value := by
  have invariant := Store.Current.invariant library
  have now := invariant.reachable asks reached
  have renders :=
    (invariant.used engine.settings).answering_true.renders asks engine.plugins host.levels
  refine ⟨?_, ?_, ?_⟩
  · intro template values bound store known binds
    have later :=
      @Store.Lasting.markup _ _ _ (invariant.used engine.settings) template values engine.store
        known now
    rw [binds] at later
    obtain ⟨whole, rfl⟩ := now.markup_sound known binds
    refine ⟨whole.complete, fun sound _ => ?_⟩
    exact Render.renderRootOr_eq renders.weaken keeps later (.markup whole sound)
  · intro fragments values bound store binds
    have later :=
      @Store.Lasting.fragments _ _ _ (invariant.used engine.settings) fragments values engine.store
        now
    rw [binds] at later
    obtain ⟨whole, rfl⟩ := Work.markupOfFragments_sound binds
    refine ⟨whole.complete, fun sound _ => ?_⟩
    exact Render.renderRootOr_eq renders.weaken keeps later (.markup whole sound)
  · exact fun value sound _ => Render.renderRootOr_eq renders.weaken keeps now sound

/-- A component with a node between its tags, whose attributes are spread and named by values. -/
theorem render_finds_all_nested
    : let engine :=
        (EngineStep.register [("Card", .function 0)]).after .children (Engine.ofOptions {})
      let template : Template :=
        ⟨0, ["<Card a='b' ...", "><p title='c' ...", " ", ">", "</p></Card>"]⟩
      let values : List Value :=
        [.object [], .object [("id", .string "d")], .string "hidden", .string "e"]
      (engine.render .children false template values).1
        = .ok "<p title=\"c\" id=\"d\" hidden=\"\" data-reactroot=\"\">e</p>"
      ∧ ∃ bound store,
          Work.markup engine.settings template values engine.store = (.ok bound, store)
          ∧ bound.template.Complete 4
          ∧ engine.FindsAll .children store (.markup bound) := by
  intro engine template values
  have sound : ∀ value ∈ values, value.Sound := by
    simp only [values, List.forall_mem_cons]
    exact ⟨.object (by simp), .object (by simpa using .string "d"), .string "hidden", .string "e",
      by simp⟩
  obtain ⟨templates, -, -⟩ :=
    @render_finds_all (fun _ => template.fragments) engine .children
      (.step (.start {}) trivial) (Host.keeps_children trivial) (Host.keeps_children .undefined)
  have succeeds : (Work.markup engine.settings template values engine.store).1.isOk = true := by
    decide +kernel
  refine ⟨by decide +kernel, ?_⟩
  cases binds : Work.markup engine.settings template values engine.store with
  | mk result store =>
      cases result with
      | error error => simp [binds, Except.isOk, Except.toBool] at succeeds
      | ok bound =>
          obtain ⟨complete, findsAll⟩ := templates _ _ _ _ rfl binds
          exact ⟨bound, store, rfl, complete, findsAll sound⟩

/-- Without the program of the node inside, a render passes over the node and the other one does
not.
-/
example
    : let settings : Settings := { registry := ⟨[("Card", .function 0)]⟩ }
      let cx : RenderSettings := { settings, options := {}, host := .children }
      (match Work.markup settings ⟨0, ["<Card><p></p></Card>"]⟩ [] {} with
        | (.ok bound, store) =>
            let value : Value :=
              .markup { bound with template := { bound.template with programs := [] } }
            [Render.renderRoot cx value, Render.renderRootOr cx (throw .consumerChild) value].map
              fun move => (move { store }).1.isOk
        | (.error _, _) => [])
      = [true, false] := by
  decide +kernel

end Engine

end TaggedMarkup
