import SsrBuild.Grammar.Pattern
import SsrBuild.Proofs.Grammar.Reading

/-!
Where the nodes of names, type annotations and binding patterns stand.
-/

set_option autoImplicit false

namespace SsrBuild.Grammar

open Grammar.Parser
open SsrBuild.Tree (Placed)

variable {parse : Goal → Parser Tree} {low : Nat} {known : List Tree}

/-! ### Names -/

instance (word : Token) : Advances (mayReferTo word) := .of_state_eq fun _ _ ↦ rfl

theorem yields_identifierNode : Yields low known identifierNode ([·]) :=
  .mark fun _ hstart ↦ .step fun _ ↦ .step fun _ ↦ .close rfl hstart fun _ _ ↦ Tree.placed_nil

theorem yields_identifierReference : Yields low known identifierReference ([·]) :=
  .step fun _ ↦ .step fun _ ↦ .ite yields_identifierNode .fail

theorem yields_bindingIdentifier : Yields low known bindingIdentifier ([·]) :=
  .step fun _ ↦ .ite (.step fun _ ↦ .step fun _ ↦ yields_identifierNode) .fail

theorem yields_anyWord : Yields low known anyWord ([·]) :=
  .step fun _ ↦ .ite (.mark fun _ hstart ↦ .step fun _ ↦
    .close rfl hstart fun _ _ ↦ Tree.placed_nil) .fail

theorem yields_privateName : Yields low known privateName ([·]) :=
  .step fun _ ↦ .ite .leaf .fail

theorem yields_stringLiteral : Yields low known stringLiteral ([·]) :=
  .step fun _ ↦ .ite .leaf .fail

theorem yields_propertyName (hparse : PlacesGoals parse) :
    Yields low known (propertyName parse) (fun name ↦ [name.1]) := by
  refine .step fun next ↦ ?_
  split
  · exact .bind yields_stringLiteral fun _ ↦ .ret (by simp +contextual)
  · exact .bind .leaf fun _ ↦ .ret (by simp +contextual)
  · exact .bind .leaf fun _ ↦ .ret (by simp +contextual)
  · exact .step fun _ ↦ .bind (.within (hparse trivial)) fun _ ↦ .step fun _ ↦
      .ret (by simp +contextual)
  · exact .bind yields_anyWord fun _ ↦ .ret (by simp +contextual)

/-! ### Type annotations -/

theorem yields_typeAnnotation? (hparse : PlacesGoals parse) :
    Yields low known (typeAnnotation? parse) id :=
  .step fun _ ↦ .step fun _ ↦ .ite
    (.mark fun _ hstart ↦ .step fun _ ↦ .bind (hparse trivial) fun _ ↦
      .bindAt (.close rfl hstart (by simp +contextual)) fun _ ↦ .ret (by simp +contextual))
    (.ret (by simp))

theorem yields_predicateSubject? : Yields low known predicateSubject? (·.toList.flatMap ([·])) :=
  .attempt (.bind yields_anyWord fun _ ↦ .step fun _ ↦ .step fun _ ↦
    .ite (.step fun _ ↦ .ret (by simp +contextual)) .fail)

theorem yields_typeOrPredicate (hparse : PlacesGoals parse) :
    Yields low known (typeOrPredicate parse) ([·]) :=
  .mark fun _ hstart ↦ .bind yields_predicateSubject? fun
    | some subject => .mark fun _ htypeStart ↦ .bind (hparse trivial) fun _ ↦
        .bindAt (.wrap [subject] htypeStart rfl nofun rfl (by simp +contextual)) fun _ ↦
          .close rfl hstart (by simp +contextual)
    | none => hparse trivial

theorem yields_resultType? (hparse : PlacesGoals parse) {openings : List Token} :
    Yields low known (resultType? parse openings) id :=
  .step fun _ ↦ .step fun _ ↦ .ite
    (.mark fun _ hstart ↦ .step fun _ ↦ .bind (.within (yields_typeOrPredicate hparse)) fun _ ↦
      .bindAt (.close rfl hstart (by simp +contextual)) fun _ ↦ .ret (by simp +contextual))
    (.ret (by simp))

theorem yields_typeArguments (hparse : PlacesGoals parse) :
    Yields low known (typeArguments parse) ([·]) :=
  .mark fun _ hstart ↦ .step fun _ ↦ .step fun _ ↦ .bind (.treesWithCommas (hparse trivial)) fun _ ↦
    .step fun _ ↦ .step fun _ ↦ .close rfl hstart (by simp +contextual)

instance : Advances seesOpenAngle := .of_state_eq fun _ _ ↦ rfl

theorem yields_typeArguments? (hparse : PlacesGoals parse) :
    Yields low known (typeArguments? parse) id :=
  .step fun _ ↦ .ite (.bind (yields_typeArguments hparse) fun _ ↦ .ret (by simp +contextual))
    (.ret (by simp))

instance (test : Parser Bool) : Advances (isModifierHere.peekTest test) :=
  .of_state_eq fun _ _ ↦ rfl

instance (permitConst : Bool) : Advances (isModifierHere permitConst) := by
  refine .step fun word ↦ .ite inferInstance ?_
  split
  · exact inferInstance
  · exact inferInstance
  · exact inferInstance
  · exact inferInstance
  · exact inferInstance

instance (permitConst inClass : Bool) : Advances (modifiers permitConst inClass) :=
  .iterate (fun _ ↦ inferInstance) []

instance (admitted given : List Token) : Advances (admitOnly admitted given) :=
  inferInstanceAs (Advances (complainIf _))

theorem yields_typeParameter (hparse : PlacesGoals parse) :
    Yields low known (typeParameter parse) ([·]) :=
  .mark fun _ hstart ↦ .step fun _ ↦ .step fun _ ↦ .bind yields_bindingIdentifier fun _ ↦
    .step fun _ ↦ .part (hparse trivial) fun _ ↦ .step fun _ ↦ .part (hparse trivial) fun _ ↦
      .close rfl hstart (by simp +contextual)

theorem yields_typeParameters? (hparse : PlacesGoals parse) :
    Yields low known (typeParameters? parse) id :=
  .step fun _ ↦ .step fun _ ↦ .ite
    (.mark fun _ hstart ↦ .step fun _ ↦ .bind (.treesWithCommas (yields_typeParameter hparse))
      fun _ ↦ .step fun _ ↦ .step fun _ ↦ .bindAt (.close rfl hstart (by simp +contextual)) fun _ ↦
        .ret (by simp +contextual))
    (.ret (by simp))

/-! ### Patterns -/

theorem yields_initialValue (hparse : PlacesGoals parse) :
    Yields low known (initialValue parse) ([·]) :=
  .step fun _ ↦ .within (hparse trivial)

/-- What is bound after given trees, with the default that follows it. -/
theorem yields_withDefault (hparse : PlacesGoals parse) {start : Nat} {target : Tree}
    (before : List Tree) (hstart : low ≤ start)
    (htarget : ∀ high, Placed low high known → Placed low high (before ++ [target])) :
    Yields low known (withDefault parse start target) (before ++ [·]) :=
  .knowing (before ++ [target]) htarget (.step fun _ ↦ .ite
    (.bind (yields_initialValue hparse) fun _ ↦
      .wrap before hstart rfl nofun rfl (by simp +contextual))
    (.ret fun _ h ↦ h))

theorem yields_patternWithDefault (hparse : PlacesGoals parse) :
    Yields low known (patternWithDefault parse) ([·]) :=
  .mark fun _ hstart ↦ .bind (hparse trivial) fun _ ↦
    yields_withDefault hparse [] hstart (by simp +contextual)

theorem yields_listWithRest {closing : Token} {element rest : Parser Tree} {trees : Tree → List Tree}
    (helement : ∀ {place : Nat}, Yields place [] element trees)
    (hrest : ∀ {place : Nat}, Yields place [] rest trees) :
    Yields low known (listWithRest closing element rest) (·.flatMap trees) := by
  refine .bindAt (.iterate (fun result : List Tree × Bool ↦ result.1.flatMap trees) ?_ (by simp))
    fun ⟨found, ended⟩ ↦ .ret (by simp)
  rintro ⟨found, ended⟩
  have hlast : Yields low (found.flatMap trees) (do
      complainIf ended
      if ← sees .ellipsis then return some (found ++ [← rest], true)
      else return some (found ++ [← element], ended))
      (·.toList.flatMap (·.1.flatMap trees)) :=
    .step fun _ ↦ .step fun _ ↦ .ite (.bind hrest fun _ ↦ .ret (by simp))
      (.bind helement fun _ ↦ .ret (by simp))
  exact .step fun _ ↦ .ite (.ret fun _ _ ↦ Tree.placed_nil) (.ite (.step fun _ ↦ .step fun _ ↦
    .ite (.step fun _ ↦ .step fun _ ↦ .ret fun _ _ ↦ Tree.placed_nil) hlast) hlast)

theorem yields_restPattern (hparse : PlacesGoals parse) :
    Yields low known (restPattern parse) ([·]) :=
  .mark fun _ hstart ↦ .step fun _ ↦ .bind (hparse trivial) fun _ ↦
    .close rfl hstart (by simp +contextual)

theorem yields_restIdentifier : Yields low known restIdentifier ([·]) :=
  .mark fun _ hstart ↦ .step fun _ ↦ .bind yields_bindingIdentifier fun _ ↦
    .close rfl hstart (by simp +contextual)

theorem yields_arrayPatternElement (hparse : PlacesGoals parse) :
    Yields low known (arrayPatternElement parse) Tree.solid :=
  .step fun _ ↦ .ite (.mark fun _ _ ↦ .ret (by simp))
    ((yields_patternWithDefault hparse).told (by simp +contextual [Tree.IsPlaced.solid]))

theorem yields_patternProperty (hparse : PlacesGoals parse) :
    Yields low known (patternProperty parse) ([·]) :=
  .mark fun _ hstart ↦ .step fun _ ↦ .step fun _ ↦ .step fun _ ↦ .step fun _ ↦
    .bind (yields_propertyName hparse) fun ⟨key, computed⟩ ↦ .step fun _ ↦ .ite
      (.step fun _ ↦ .bindAt (yields_withDefault hparse [key] hstart fun high h ↦ by
          have hkey : key.IsPlaced low high := h.last
          simpa [hkey] using hkey.1) fun _ ↦
        .close rfl hstart (by simp +contextual))
      (.step fun _ ↦ .bind (yields_patternWithDefault hparse) fun _ ↦
        .close rfl hstart (by simp +contextual))

theorem yields_bindingPattern (hparse : PlacesGoals parse) :
    Yields low known (bindingPattern parse) ([·]) := by
  refine .mark fun _ hstart ↦ .step fun _ ↦ ?_
  split
  · refine .step fun _ ↦ .bind (yields_listWithRest (yields_arrayPatternElement hparse) ?_)
      fun elements ↦ .step fun _ ↦ .close rfl hstart fun high h ↦ ?_
    · exact (yields_restPattern hparse).told (by simp +contextual [Tree.IsPlaced.solid])
    · exact (Tree.placed_flatMap_solid_iff.mp h.right).filter
  · exact .step fun _ ↦
      .bind (yields_listWithRest (yields_patternProperty hparse) yields_restIdentifier) fun _ ↦
        .step fun _ ↦ .close rfl hstart (by simp +contextual)
  · exact yields_bindingIdentifier

/-! ### Parameters -/

theorem yields_decorator (hparse : PlacesGoals parse) : Yields low known (decorator parse) ([·]) :=
  .mark fun _ hstart ↦ .step fun _ ↦ .bind (.within (hparse trivial)) fun _ ↦
    .close rfl hstart (by simp +contextual)

theorem yields_decorators (hparse : PlacesGoals parse) : Yields low known (decorators parse) id :=
  .manyTrees (.step fun _ ↦ .ite (.bind (yields_decorator hparse) fun _ ↦
    .ret (by simp +contextual)) (.ret (by simp)))

theorem yields_parameter (hparse : PlacesGoals parse) {rules : ParameterRules} :
    Yields low known (parameter parse rules) ([·]) :=
  .mark fun _ hstart ↦ .step fun _ ↦ .bind (yields_decorators hparse) fun _ ↦ .step fun _ ↦
    .step fun _ ↦ .step fun _ ↦ .bind (hparse trivial) fun _ ↦ .step fun _ ↦ .step fun _ ↦
      .choice fun _ ↦ .bind (yields_typeAnnotation? hparse) fun _ ↦ .step fun _ ↦
        .part (yields_initialValue hparse) fun _ ↦ .step fun _ ↦
          .close (by split_ifs <;> rfl) hstart (by simp +contextual)

theorem yields_restParameter (hparse : PlacesGoals parse) :
    Yields low known (restParameter parse) ([·]) :=
  .bind (yields_restPattern hparse) fun element ↦ .bind (yields_typeAnnotation? hparse) fun type ↦
    .ret fun high h ↦ by
      have hparts : Placed low high (element :: type) :=
        (Tree.placed_append.mp (by simpa using h)).2.1
      exact Tree.placed_singleton.mpr ((Tree.placed_cons.mp hparts).1.around rfl hparts)

theorem yields_thisParameter (hparse : PlacesGoals parse) :
    Yields low known (thisParameter parse) ([·]) :=
  .mark fun _ hstart ↦ .step fun _ ↦ .bind (yields_typeAnnotation? hparse) fun _ ↦
    .close rfl hstart (by simp +contextual)

end SsrBuild.Grammar
