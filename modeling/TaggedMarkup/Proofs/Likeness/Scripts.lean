import TaggedMarkup.Script
import TaggedMarkup.Proofs.Likeness.Code

/-! Scripts do not look into bound templates. Whatever an expression does with values, it does alike
with values that are alike.
-/

namespace TaggedMarkup.Script

variable {standsFor : Part → Part → Prop} {code : Code} {caller : Caller} {frame frame' : Frame}

/-- Two frames of which the values are alike. -/
structure Frame.Like (standsFor : Part → Part → Prop) (frame frame' : Frame) : Prop where
  props : Fields.Like (Value.Like standsFor) frame.scope.props frame'.scope.props
  reference : Value.Like standsFor frame.scope.reference frame'.scope.reference
  state : Value.Like standsFor frame.scope.state frame'.scope.state
  arguments : Value.AllLike standsFor frame.arguments frame'.arguments
  attached : frame.attached = frame'.attached

/-- Calls of functions that are alike do alike. -/
def Caller.Respects (standsFor : Part → Part → Prop) (caller : Caller) : Prop :=
  ∀ attached {closure closure' arguments arguments'},
    Value.Like standsFor (.function closure) (.function closure')
    → Value.AllLike standsFor arguments arguments'
    → Body.Like standsFor (Value.Like standsFor) (caller attached closure arguments)
        (caller attached closure' arguments')

theorem callValue_like (calls : caller.Respects standsFor) (attached : Bool)
    {value value' : Value} (like : Value.Like standsFor value value')
    {arguments arguments' : List Value} (given : Value.AllLike standsFor arguments arguments')
    : Body.Like standsFor (Value.Like standsFor) (callValue caller attached value arguments)
        (callValue caller attached value' arguments') := by
  cases like with
  | function props reference state => exact calls attached (.function props reference state) given
  | _ => exact .fail _

theorem elementValue_like (serial : Nat) (kind : ElementKind) (key : Option String)
    {props props' : Value} (like : Value.Like standsFor props props')
    {reference reference' : Option Value}
    (references : Option.Rel (Value.Like standsFor) reference reference')
    : Value.Like standsFor (elementValue serial kind key props reference)
        (elementValue serial kind key props' reference') := by
  refine .element references ?_
  have fields := like.fields?
  generalize props.fields? = found, props'.fields? = found' at fields ⊢
  cases fields with
  | none => exact .nil
  | some inside => exact inside

mutual

/-- An expression does alike in frames that are alike, by induction on the expression. -/
theorem eval_like (same : ∀ part, standsFor part part) (calls : caller.Respects standsFor)
    (frames : frame.Like standsFor frame')
    : ∀ expr,
        Body.Like standsFor (Value.Like standsFor) (eval code caller frame expr)
          (eval code caller frame' expr)
  | .constant value => .done (.refl same value)
  | .array items =>
      (evalAll_like same calls frames items).bind fun _ _ inside => .done (.array inside)
  | .object fields =>
      (evalFields_like same calls frames fields).bind fun _ _ inside =>
        .done (.object (Fields.Like.ofEntries inside))
  | .function _ =>
      .serial fun _ => .done (.function frames.props frames.reference frames.state)
  | .html template values => by
      simp only [eval, ← frames.attached]
      refine (evalAll_like same calls frames values).bind fun _ _ given => ?_
      split
      · exact .html given fun _ _ answers => .ofAnswer answers
      · exact .fail _
  | .create template values => by
      simp only [eval, ← frames.attached]
      refine (evalAll_like same calls frames values).bind fun _ _ given => ?_
      split
      · exact .create given fun _ _ answers => .ofAnswer answers
      · exact .fail _
  | .element kind key props reference =>
      (evalOption_like same calls frames props).bind fun _ _ given =>
        (evalOption_like same calls frames reference).bind fun _ _ references =>
          .serial fun serial => .done (elementValue_like serial kind key (.getD given) references)
  | .prop name => .done (.getD (frames.props.get? name))
  | .props => .done (.object frames.props)
  | .propNames => by
      simp only [eval, frames.props.names]
      exact .done (.string _)
  | .reference => .done frames.reference
  | .state => .done frames.state
  | .argument index => .done (frames.arguments.getD index)
  | .context name => by
      simp only [eval, ← frames.attached]
      split
      · exact .context fun _ _ like => .done like
      · exact .done (.refl same _)
  | .call function arguments => by
      simp only [eval, ← frames.attached]
      refine (eval_like same calls frames function).bind fun _ _ like => ?_
      exact (evalAll_like same calls frames arguments).bind fun _ _ given =>
        callValue_like calls frame.attached like given
  | .text value => (eval_like same calls frames value).bind fun _ _ like => by
      rw [like.text]
      exact .done (.string _)
  | .get value name =>
      (eval_like same calls frames value).bind fun _ _ like => .done (.getD (like.get? name))
  | .choose condition yes no => by
      simp only [eval]
      refine (eval_like same calls frames condition).bind fun _ _ like => ?_
      rw [like.isTruthy]
      split
      · exact eval_like same calls frames yes
      · exact eval_like same calls frames no
  | .throw message => .fail _

theorem evalAll_like (same : ∀ part, standsFor part part) (calls : caller.Respects standsFor)
    (frames : frame.Like standsFor frame')
    : ∀ items,
        Body.Like standsFor (Value.AllLike standsFor) (evalAll code caller frame items)
          (evalAll code caller frame' items)
  | [] => .done .nil
  | first :: rest =>
      (eval_like same calls frames first).bind fun _ _ like =>
        (evalAll_like same calls frames rest).bind fun _ _ others => .done (.cons like others)

theorem evalFields_like (same : ∀ part, standsFor part part) (calls : caller.Respects standsFor)
    (frames : frame.Like standsFor frame')
    : ∀ fields,
        Body.Like standsFor (Fields.Like (Value.Like standsFor))
          (evalFields code caller frame fields) (evalFields code caller frame' fields)
  | [] => .done .nil
  | (_, first) :: rest =>
      (eval_like same calls frames first).bind fun _ _ like =>
        (evalFields_like same calls frames rest).bind fun _ _ others =>
          .done (.cons (.of like) others)

theorem evalOption_like (same : ∀ part, standsFor part part) (calls : caller.Respects standsFor)
    (frames : frame.Like standsFor frame')
    : ∀ expr,
        Body.Like standsFor (Option.Rel (Value.Like standsFor)) (evalOption code caller frame expr)
          (evalOption code caller frame' expr)
  | none => .done .none
  | some value =>
      (eval_like same calls frames value).bind fun _ _ like => .done (.some like)

end

/-- Calling functions that are alike does alike, by induction on how many calls may still be
nested.
-/
theorem callFunction_like (same : ∀ part, standsFor part part) (limit : Nat)
    : Caller.Respects standsFor (callFunction code limit) := by
  induction limit with
  | zero => exact fun _ _ _ _ _ _ _ => .fail _
  | succ limit ih =>
      intro attached closure closure' arguments arguments' like given
      cases like with
      | function props reference state =>
          simp only [callFunction]
          split
          next body _ =>
              have frames
                  : Frame.Like standsFor ⟨⟨_, _, _⟩, arguments, attached⟩
                      ⟨⟨_, _, _⟩, arguments', attached⟩ :=
                ⟨props, reference, state, given, rfl⟩
              exact eval_like same ih frames body
          · exact .done .undefined

theorem Code.eval_like (same : ∀ part, standsFor part part)
    (frames : frame.Like standsFor frame') (expr : Expr)
    : Body.Like standsFor (Value.Like standsFor) (code.eval frame expr) (code.eval frame' expr) :=
  Script.eval_like same (callFunction_like same callLimit) frames expr

end TaggedMarkup.Script
