import TaggedMarkup.Proofs.Caching.Alike
import TaggedMarkup.Proofs.Caching.Currency

/-! A render that uses the cache is compared with one that reads the fragments anew. The two
agree as long as the closing tags of the cached tree match with the present registry. When one
does not, reading anew fails at it, and the cache still has the tree.
-/

namespace TaggedMarkup

open Stateful

-----------------------------------------------------------------------------------------
-- Alike stores
-----------------------------------------------------------------------------------------

/-- A store whose entries are compiled as they are read is like itself. -/
theorem Store.Alike.refl {settings : Settings} {known : Template → Prop} {store : Store}
    (compiles : ∀ id entry, store.cache.find? id = some entry → entry.Compiles)
    : Store.Alike settings known store store := by
  refine ⟨rfl, ?_⟩
  intro id
  cases found : store.cache.find? id with
  | none => exact .neither
  | some entry => exact .both rfl rfl (compiles id entry found) (compiles id entry found)

/-- Engines with alike stores render a value with the same outcome. -/
theorem Engine.renderValue_alike {engine : Engine} {host : Host} {known : Template → Prop}
    (keeps : host.Keeps (fun _ => True) known) {store : Store}
    (alike : Store.Alike engine.settings known engine.store store) (static : Bool)
    (value : Value)
    : ({ engine with store }.renderValue host static value).1
      = (engine.renderValue host static value).1 := by
  have renders :=
    (Store.Alike.answering engine.settings known).renders keeps engine.plugins (host.levels + 1)
  obtain ⟨result, reached, store', left, right, -, -⟩ :=
    @renders (.value static value) engine.store store trivial alike
  simp only [renderValue, perform, doWork, ExceptT.run, left, right]

-----------------------------------------------------------------------------------------
-- Reading anew
-----------------------------------------------------------------------------------------

namespace Work

variable {settings : Settings} {store : Store}

/-- The entry of a template is fresh when the one in the cache is fresh or there is none, unless
the fragments cannot be read.
-/
theorem entry_fresh {template : Template}
    (compiles : ∀ id entry, store.cache.find? id = some entry → entry.Compiles)
    (fresh
      : ∀ entry,
          store.cache.find? template.id = some entry
          → entry.Fresh settings template.fragments)
    : (∃ error,
        entry settings template store = (.error error, store)
        ∧ formOf settings template.fragments = .error error)
      ∨ ∃ found cache,
          entry settings template store = (.ok found, withCache store cache)
          ∧ found.Fresh settings template.fragments
          ∧ found.Compiles
          ∧ ∀ other, other ≠ template.id → cache.find? other = store.cache.find? other := by
  rw [entry_apply]
  cases cached : store.cache.find? template.id with
  | some entry =>
      exact .inr ⟨entry, _, rfl, fresh entry cached, compiles _ _ cached, fun _ _ => rfl⟩
  | none =>
      simp only [formOf]
      cases parsed : Tree.parse settings.registry.resolver settings.options.read
          template.fragments with
      | error error => exact .inl ⟨error, rfl, rfl⟩
      | ok tree =>
          refine .inr ⟨_, _, rfl, ⟨parsed, rfl⟩, ?_, ?_⟩
          · exact CacheEntry.compiles_ofTree settings.registry tree _
          · intro other differs
            exact (Cache.find?_insert ..).trans (if_neg differs)

/-- A template whose entry is fresh if it has one compiles to what its fragments compile to,
and the store is like the one before if that succeeds.
-/
theorem compile_fresh {library : Nat → List String} {template : Template}
    (inLibrary : template.In library)
    (compiles : ∀ id entry, store.cache.find? id = some entry → entry.Compiles)
    (fresh
      : ∀ entry,
          store.cache.find? template.id = some entry
          → entry.Fresh settings template.fragments)
    : ∃ reached,
        compile settings template store = (formOf settings template.fragments, reached)
        ∧ ∀ form,
            formOf settings template.fragments = .ok form
            → Store.Alike settings (Template.In library) reached store := by
  rcases entry_fresh compiles fresh with
    ⟨error, asked, failed⟩ | ⟨found, cache, asked, isFresh, foundCompiles, apart⟩
  · refine ⟨store, ?_, ?_⟩
    · simp only [compile_apply, asked, failed]
    · simp [failed]
  · have form
        : formOf settings template.fragments = Compiled.ofTree found.tree found.components := by
      simp only [formOf, isFresh.tree, isFresh.components]
    obtain ⟨cache', compiled, apart', here⟩ := Store.Alike.compile_reached asked foundCompiles
    refine ⟨withCache store cache', form ▸ compiled, fun made isMade => ⟨rfl, ?_⟩⟩
    intro id
    rw [form] at isMade
    simp only [isMade] at here
    obtain ⟨kept, isKept, tree, components, keptCompiles⟩ := here
    by_cases same : id = template.id
    · subst same
      simp only [isKept]
      cases cached : store.cache.find? template.id with
      | some entry =>
          have sameTree : entry.tree = found.tree :=
            Except.ok.inj ((fresh entry cached).tree.symm.trans isFresh.tree)
          refine .both (sameTree.trans tree.symm) ?_ keptCompiles (compiles _ _ cached)
          rw [components, (fresh entry cached).components, isFresh.components, sameTree]
      | none =>
          refine .first keptCompiles ?_
          intro other known sameId
          have fragments : other.fragments = template.fragments := by
            rw [known, inLibrary, sameId]
          rw [fragments]
          exact ⟨tree ▸ isFresh.tree, by rw [components, tree, isFresh.components]⟩
    · have unchanged : (withCache store cache').cache.find? id = store.cache.find? id :=
        (apart' id same).trans (apart id same)
      rw [unchanged]
      exact (Store.Alike.refl compiles).entries id

end Work

-----------------------------------------------------------------------------------------
-- Renders
-----------------------------------------------------------------------------------------

namespace Engine

variable {library : Nat → List String} {host : Host} {engine : Engine} {template : Template}

/-- A template whose entry is fresh if it has one renders like its fragments. -/
theorem render_fresh (keeps : host.Keeps (fun _ => True) (Template.In library))
    (inLibrary : template.In library)
    (compiles : ∀ id entry, engine.store.cache.find? id = some entry → entry.Compiles)
    (fresh
      : ∀ entry,
          engine.store.cache.find? template.id = some entry
          → entry.Fresh engine.settings template.fragments)
    (values : List Value)
    : (engine.render host false template values).1
      = (engine.renderFragments host template.fragments values).1 := by
  rw [render_eq, renderFragments_eq]
  generalize engine.plugins.applyBefore values = values
  obtain ⟨reached, compiled, alike⟩ := Work.compile_fresh inLibrary compiles fresh
  simp only [doWork, ExceptT.run, Work.markup_apply, Work.markupOfFragments_apply, compiled]
  by_cases counted : slotCount template.fragments = values.length
  · simp only [if_pos counted]
    cases made : Work.formOf engine.settings template.fragments with
    | error error => rfl
    | ok form =>
        have kept := alike form made
        simp only [Work.bind_eq]
        rw [kept.serial]
        have bound
            : Store.Alike engine.settings (Template.In library)
                { reached with nextSerial := reached.nextSerial + 1 }
                { engine.store with nextSerial := reached.nextSerial + 1 } :=
          ⟨rfl, kept.entries⟩
        exact (@renderValue_alike { engine with store := _ } host _ keeps _ bound false _).symm
  · simp only [if_neg counted]

/-- In every state that an engine can come to, the entry of a template holds what reading it
anew gives exactly when all closing tags of its tree match. In this case, and when there is no
entry, the template renders like its fragments. In the other case rendering the fragments fails
at a closing tag that does not match any more.
-/
theorem render_agreement (keeps : host.Keeps (fun _ => True) (Template.In library))
    (reached : Engine.Reachable host (Template.In library) engine)
    (inLibrary : template.In library)
    : (∀ entry,
        engine.store.cache.find? template.id = some entry
        → (entry.Fresh engine.settings template.fragments
          ↔ entry.tree.Matches engine.settings.registry template.fragments))
      ∧ ((∀ entry,
            engine.store.cache.find? template.id = some entry
            → entry.tree.Matches engine.settings.registry template.fragments)
          → ∀ values,
              (engine.render host false template values).1
              = (engine.renderFragments host template.fragments values).1)
      ∧ ∀ entry,
          engine.store.cache.find? template.id = some entry
          → ¬ entry.tree.Matches engine.settings.registry template.fragments
          → ∀ values,
              slotCount template.fragments = (engine.plugins.applyBefore values).length
              → ∃ branch ∈ entry.tree.branches,
                  ∃ name location,
                    branch.node.closed = some location
                    ∧ .closeTag name location ∈ (Token.scan template.fragments).tokens
                    ∧ Tree.closes engine.settings.registry.resolver branch.node name = false
                    ∧ (engine.renderFragments host template.fragments values).1
                      = .error (.mismatchedClosingTag branch.node.name name location) := by
  have now := (Store.Current.invariant library).reachable keeps reached
  have current (entry : CacheEntry)
      (found : engine.store.cache.find? template.id = some entry)
      : entry.Current engine.settings template.fragments := by
    rw [show template.fragments = library template.id from inLibrary]
    exact now.current template.id entry found
  refine ⟨fun entry found => (current entry found).fresh_iff, ?_, ?_⟩
  · intro matching values
    refine render_fresh keeps inLibrary now.compiles ?_ values
    intro entry found
    exact (current entry found).fresh_iff.mpr (matching entry found)
  · intro entry found mismatch values counted
    obtain ⟨old, agree, parsed, -⟩ := current entry found
    rcases Tree.parse_again agree parsed with same | ⟨error, failed, branch, member, refused⟩
    · exact absurd ((Tree.parse_again_iff agree parsed).mp same) mismatch
    · obtain ⟨name, location, -, isClosed, isToken, notClosing, rfl⟩ := refused
      refine ⟨branch, member, name, location, isClosed, isToken, notClosing, ?_⟩
      rw [renderFragments_eq]
      simp only [doWork, ExceptT.run, Work.markupOfFragments_apply, if_pos counted, Work.formOf,
        failed]

-----------------------------------------------------------------------------------------
-- Two names for one component
-----------------------------------------------------------------------------------------

/-- A host with two functions that can be told apart. -/
def twoFunctions : Host :=
  Host.constant fun code => .string (if code = 0 then "one" else "two")

/-- The engine that renders a template while two names stand for one component, and gives the
second name another component afterwards.
-/
def renamed (template : Template) : Engine :=
  [.register [("Card", .function 0), ("Panel", .function 0)], .render false template [],
    .register [("Panel", .function 1)]].foldl (EngineStep.after twoFunctions)
    (Engine.ofOptions {})

theorem reachable_renamed (template : Template)
    : Engine.Reachable twoFunctions (Template.In fun _ => template.fragments)
        (renamed template) := by
  have registered
      : Engine.Reachable twoFunctions (Template.In fun _ => template.fragments)
          ((EngineStep.register [("Card", .function 0), ("Panel", .function 0)]).after
            twoFunctions (Engine.ofOptions {})) :=
    (Engine.Reachable.start {}).step trivial
  have rendered := @Engine.Reachable.step _ _ _ registered (.render false template []) rfl
  exact @Engine.Reachable.step _ _ _ rendered (.register [("Panel", .function 1)]) trivial

/-- An element that is closed under its own name is in the cache of that engine, and renders
like its fragments.
-/
theorem render_agreement_same_name
    : let template : Template := ⟨0, ["<Card></Card>"]⟩
      ((renamed template).store.cache.find? template.id).isSome = true
      ∧ ∀ values,
          ((renamed template).render twoFunctions false template values).1
          = ((renamed template).renderFragments twoFunctions template.fragments values).1 := by
  refine ⟨by decide +kernel, ?_⟩
  refine (render_agreement (Host.keeps_constant trivial fun _ => trivial) (reachable_renamed _)
    rfl).2.1 ?_
  intro entry found
  have all
      : ((renamed ⟨0, ["<Card></Card>"]⟩).store.cache.find? 0).all (fun entry =>
            decide (entry.tree.Matches (renamed ⟨0, ["<Card></Card>"]⟩).settings.registry
              ["<Card></Card>"]))
          = true := by
    decide +kernel
  rw [found] at all
  exact of_decide_eq_true all

/-- An element that is closed under the second name is still rendered from the cache, and is
refused when its fragments are read anew.
-/
theorem render_disagreement
    : let template : Template := ⟨0, ["<Card></Panel>"]⟩
      Engine.Reachable twoFunctions (Template.In fun _ => template.fragments)
          (renamed template)
      ∧ ((renamed template).render twoFunctions false template []).1 = .ok "one"
      ∧ ((renamed template).renderFragments twoFunctions template.fragments []).1
        = .error (.mismatchedClosingTag "Card" "Panel" ⟨0, 6⟩) :=
  ⟨reachable_renamed _, by decide +kernel, by decide +kernel⟩

end Engine

end TaggedMarkup
