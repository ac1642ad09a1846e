import SsrBuild.Grammar.Statement
import SsrBuild.Proofs.Grammar.DeclarationPlaces
import SsrBuild.Proofs.Grammar.TargetPlaces

/-!
Where the nodes of statements stand.
-/

set_option autoImplicit false

namespace SsrBuild.Grammar

open Grammar.Parser
open SsrBuild.Tree (Placed)

variable {parse : Goal → Parser Tree} {low start : Nat} {known : List Tree}

theorem yields_condition (hparse : PlacesGoals parse) : Yields low known (condition parse) ([·]) :=
  .step fun _ ↦ .bind (hparse trivial) fun _ ↦ .step fun _ ↦ .ret (by simp +contextual)

theorem yields_body (hparse : PlacesGoals parse) : Yields low known (body parse) ([·]) :=
  .within (hparse trivial)

/-! ### Loops -/

theorem yields_headPart (hparse : PlacesGoals parse) {ends : List Token} :
    Yields low known (headPart parse ends) id :=
  .step fun _ ↦ .ite (.ret (by simp)) (.bind (.within (hparse trivial)) fun _ ↦
    .ret (by simp +contextual))

theorem yields_countingLoop (hparse : PlacesGoals parse) {isAwait : Bool} {first : List Tree}
    (hstart : low ≤ start) :
    Yields low first (countingLoop parse start isAwait first) ([·]) :=
  .step fun _ ↦ .bind (yields_headPart hparse) fun _ ↦ .step fun _ ↦ .bind (yields_headPart hparse)
    fun _ ↦ .step fun _ ↦ .step fun _ ↦ .bind (yields_body hparse) fun _ ↦
      .close rfl hstart (by simp +contextual)

theorem yields_keyLoop (hparse : PlacesGoals parse) {isAwait : Bool} {left : Tree}
    (hstart : low ≤ start) : Yields low [left] (keyLoop parse start isAwait left) ([·]) :=
  .step fun _ ↦ .bind (hparse trivial) fun _ ↦ .step fun _ ↦ .step fun _ ↦
    .bind (yields_body hparse) fun _ ↦ .close rfl hstart (by simp +contextual)

theorem yields_valueLoop (hparse : PlacesGoals parse) {left : Tree} (hstart : low ≤ start) :
    Yields low [left] (valueLoop parse start left) ([·]) :=
  .step fun _ ↦ .bind (hparse trivial) fun _ ↦ .step fun _ ↦ .bind (yields_body hparse) fun _ ↦
    .close rfl hstart (by simp +contextual)

theorem yields_declaringLoop (hparse : PlacesGoals parse) {isAwait : Bool} (hstart : low ≤ start) :
    Yields low known (declaringLoop parse start isAwait) ([·]) := by
  refine .mark fun _ hdeclaration ↦ .step fun keyword ↦ .step fun _ ↦
    .bind (.within (yields_declarators hparse)) fun declared ↦
      .bindAt (.close rfl hdeclaration (by simp +contextual)) fun left ↦ .step fun next ↦ ?_
  split
  · exact yields_keyLoop hparse hstart
  · exact yields_valueLoop hparse hstart
  · exact .step fun _ ↦ yields_countingLoop hparse hstart

theorem yields_resourceLoop (hparse : PlacesGoals parse) {isAwait : Bool} (hstart : low ≤ start) :
    Yields low known (resourceLoop parse start isAwait) ([·]) := by
  refine .mark fun _ hdeclaration ↦ .bind (yields_resources hparse) fun declared ↦
    .bindAt (.close rfl hdeclaration (by simp +contextual)) fun left ↦ .step fun next ↦ ?_
  split
  · exact yields_valueLoop hparse hstart
  · exact yields_countingLoop hparse hstart

theorem yields_expressionLoop (hparse : PlacesGoals parse) {isAwait : Bool} (hstart : low ≤ start) :
    Yields low known (expressionLoop parse start isAwait) ([·]) := by
  have htarget : ∀ {first left : Tree}, first.target? = some left → ∀ high,
      Placed low high [first] → Placed low high [left] := fun htarget high h ↦
    Tree.placed_singleton.mpr (Tree.becomes_of_target? (Tree.placed_singleton.mp h).2 htarget).1
  refine .step fun _ ↦ .step fun _ ↦ .step fun _ ↦ .ite (.step fun _ ↦ ?_) (.given ?_)
  -- Whether `async` is looked at or not, the rest of the head is read in the same way.
  all_goals
    refine .bind (.within (hparse trivial)) fun first ↦
      .knowing [first] (by simp +contextual) (.step fun next ↦ ?_)
    split
    · cases hleft : first.target? with
      | none => exact .fail
      | some left => exact .knowing [left] (htarget hleft) (yields_keyLoop hparse hstart)
    · refine .step fun _ ↦ ?_
      cases hleft : first.target? with
      | none => exact .fail
      | some left => exact .knowing [left] (htarget hleft) (yields_valueLoop hparse hstart)
    · exact yields_countingLoop hparse hstart

instance : Advances seesLoopDeclaration := by
  refine .step fun next ↦ ?_
  split
  all_goals infer_instance

instance : Advances seesLoopResources := by
  refine .step fun next ↦ ?_
  split
  all_goals infer_instance

theorem yields_forLoop (hparse : PlacesGoals parse) : Yields low known (forLoop parse) ([·]) := by
  have hhead : ∀ {known : List Tree} {start : Nat} {isAwait : Bool}, low ≤ start →
      Yields low known (do
        expect .lparen
        if ← sees .semicolon then countingLoop parse start isAwait []
        else if ← seesLoopDeclaration then declaringLoop parse start isAwait
        else if ← seesLoopResources then resourceLoop parse start isAwait
        else expressionLoop parse start isAwait) ([·]) := fun {known _ _} hstart ↦
    .step fun _ ↦ .step fun _ ↦ .ite
      (.knowing [] (by simp) (yields_countingLoop hparse hstart))
      (.step fun _ ↦ .ite (yields_declaringLoop hparse hstart) (.step fun _ ↦ .ite
        (yields_resourceLoop hparse hstart) (yields_expressionLoop hparse hstart)))
  exact .mark fun _ hstart ↦ .step fun _ ↦ .step fun _ ↦ .ite
    (.step fun _ ↦ .step fun _ ↦ .step fun _ ↦ hhead hstart) (hhead hstart)

theorem yields_doLoop (hparse : PlacesGoals parse) : Yields low known (doLoop parse) ([·]) :=
  .mark fun _ hstart ↦ .step fun _ ↦ .bind (yields_body hparse) fun _ ↦ .step fun _ ↦
    .bind (yields_condition hparse) fun _ ↦ .step fun _ ↦ .close rfl hstart (by simp +contextual)

theorem yields_governed (hparse : PlacesGoals parse) : Yields low known (governed parse) ([·]) :=
  .mark fun _ hstart ↦ .step fun _ ↦ .bind (yields_condition hparse) fun _ ↦
    .bind (yields_body hparse) fun _ ↦ .close rfl hstart (by simp +contextual)

/-! ### Branches -/

theorem yields_conditional (hparse : PlacesGoals parse) :
    Yields low known (conditional parse) ([·]) :=
  .mark fun _ hstart ↦ .step fun _ ↦ .bind (yields_condition hparse) fun _ ↦
    .bind (yields_body hparse) fun _ ↦ .step fun _ ↦ .part (yields_body hparse) fun _ ↦
      .close rfl hstart (by simp +contextual)

theorem yields_switchCase (hparse : PlacesGoals parse) :
    Yields low known (switchCase parse) ([·]) := by
  have hend : ∀ {test : List Tree} {start : Nat}, low ≤ start → Yields low test (do
      expect .colon
      let statements ← many do
        if ← seesAny [.kwCase, .kwDefault, .rbrace] then return none
        else return some (← parse (.statement false))
      close start .other (test ++ statements)) ([·]) := fun hstart ↦
    .step fun _ ↦ .bind (.manyTrees (.step fun _ ↦ .ite (.ret (by simp))
      (.bind (hparse trivial) fun _ ↦ .ret (by simp +contextual)))) fun _ ↦
        .close rfl hstart (by simp +contextual)
  exact .knowing [] (by simp) (.mark fun _ hstart ↦ .step fun _ ↦ .ite (.given (hend hstart))
    (.step fun _ ↦ .bind (hparse trivial) fun _ ↦ .given (hend hstart)))

theorem yields_switch (hparse : PlacesGoals parse) : Yields low known (switch parse) ([·]) :=
  .mark fun _ hstart ↦ .step fun _ ↦ .bind (yields_condition hparse) fun _ ↦ .step fun _ ↦
    .bind (.within (.treesUpTo (yields_switchCase hparse))) fun _ ↦ .step fun _ ↦
      .close rfl hstart (by simp +contextual)

theorem yields_catchClause (hparse : PlacesGoals parse) :
    Yields low known (catchClause parse) ([·]) := by
  have hend : ∀ {parameter : List Tree} {start : Nat}, low ≤ start → Yields low parameter (do
      let inner ← block parse .other
      close start .other (parameter ++ [inner])) ([·]) := fun hstart ↦
    .bind (yields_block rfl hparse) fun _ ↦ .close rfl hstart (by simp +contextual)
  refine .knowing [] (by simp) (.mark fun _ hstart ↦ .step fun _ ↦ .step fun _ ↦
    .ite ?_ (.given (hend hstart)))
  refine .bind (hparse trivial) fun pattern ↦ .bind (yields_typeAnnotation? hparse) fun type ↦
    .step fun _ ↦ .given (.knowing [.node .other pattern.span (pattern :: type)] (fun high h ↦ ?_)
      (hend hstart))
  have hpattern : pattern.IsPlaced low high := (Tree.placed_cons.mp h).1
  exact Tree.placed_singleton.mpr (hpattern.around rfl h)

theorem yields_guarded (hparse : PlacesGoals parse) : Yields low known (guarded parse) ([·]) :=
  .mark fun _ hstart ↦ .step fun _ ↦ .bind (yields_block rfl hparse) fun _ ↦ .step fun _ ↦
    .part (yields_catchClause hparse) fun _ ↦ .step fun _ ↦ .part (yields_block rfl hparse) fun _ ↦
      .step fun _ ↦ .close rfl hstart (by simp +contextual)

/-! ### Jumps -/

theorem yields_jump : Yields low known jump ([·]) := by
  refine .mark fun _ hstart ↦ .step fun _ ↦ .step fun _ ↦ .ite
    (.given (.step fun _ ↦ .close rfl hstart (by simp)))
    (.bind yields_bindingIdentifier fun _ ↦ .given (.step fun _ ↦ .close rfl hstart fun high h ↦ ?_))
  exact Tree.placed_singleton.mpr h.last.leafAt

theorem yields_returnStatement (hparse : PlacesGoals parse) :
    Yields low known (returnStatement parse) ([·]) :=
  .mark fun _ hstart ↦ .step fun _ ↦ .step fun _ ↦ .step fun _ ↦ .step fun _ ↦ .ite
    (.given (.step fun _ ↦ .close rfl hstart (by simp)))
    (.bind (.within (hparse trivial)) fun _ ↦ .given (.step fun _ ↦
      .close rfl hstart (by simp +contextual)))

theorem yields_throwStatement (hparse : PlacesGoals parse) :
    Yields low known (throwStatement parse) ([·]) :=
  .mark fun _ hstart ↦ .step fun _ ↦ .step fun _ ↦ .step fun _ ↦ .bind (hparse trivial) fun _ ↦
    .step fun _ ↦ .close rfl hstart (by simp +contextual)

/-! ### Expressions as statements -/

theorem yields_expressionStatement {tree : Tree} (hstart : low ≤ start) :
    Yields low (known ++ [tree]) (expressionStatement start tree) ([·]) :=
  .step fun _ ↦ .close rfl hstart (by simp +contextual)

theorem yields_expressionOrLabel (hparse : PlacesGoals parse) :
    Yields low known (expressionOrLabel parse) ([·]) := by
  refine .mark fun _ hstart ↦ .bind (hparse trivial) fun tree ↦ .step fun _ ↦ .ite
    (.step fun _ ↦ .bind (yields_body hparse) fun _ ↦ .close rfl hstart fun high h ↦ ?_)
    (yields_expressionStatement hstart)
  obtain ⟨htree, hinner, -⟩ := Tree.placed_append.mp h
  have hname := htree.last
  exact Tree.placed_cons.mpr ⟨hname.leafAt, fun _ _ ↦ Tree.apart_other_leaf, hinner⟩

theorem yields_letStatement (hparse : PlacesGoals parse) {alone : Bool} :
    Yields low known (letStatement parse alone) ([·]) :=
  .mark fun _ hstart ↦ .step fun _ ↦ .ite
    (.bind (hparse trivial) fun _ ↦ yields_expressionStatement hstart) (.ite
      (.bind (hparse trivial) fun _ ↦ yields_expressionStatement hstart) (.ite
        (.bind yields_identifierReference fun _ ↦ yields_expressionStatement hstart)
        (yields_variableStatement hparse hstart)))

/-! ### Declarations as statements -/

theorem yields_functionStatement (hparse : PlacesGoals parse) {alone : Bool} :
    Yields low known (functionStatement parse alone) ([·]) :=
  .mark fun _ hstart ↦ .step fun _ ↦ .step fun _ ↦ .step fun _ ↦ yields_functionFrom hparse hstart

theorem yields_constStatement (hparse : PlacesGoals parse) {alone : Bool} :
    Yields low known (constStatement parse alone) ([·]) :=
  .mark fun _ hstart ↦ .step fun _ ↦ .step fun _ ↦ .ite
    (.knowing [] (by simp) (yields_modifiedDeclaration hparse hstart))
    (yields_variableStatement hparse hstart)

theorem yields_decoratedStatement (hparse : PlacesGoals parse) {alone : Bool} :
    Yields low known (decoratedStatement parse alone) ([·]) :=
  .mark fun _ hstart ↦ .bind (yields_decorators hparse) fun decorated ↦
    .knowing decorated (by simp +contextual) (.step fun _ ↦ .ite
      (.mark fun _ hexport ↦ yields_exportDeclaration hparse hexport)
      (.step fun _ ↦ yields_decoratedClass hparse hstart))

theorem yields_typedStatement (hparse : PlacesGoals parse) :
    Yields low known (typedStatement parse) ([·]) :=
  .mark fun _ hstart ↦ .within (.knowing [] (by simp) (yields_modifiedDeclaration hparse hstart))

theorem yields_statement (hparse : PlacesGoals parse) {alone : Bool} :
    Yields low known (statement parse alone) ([·]) := by
  refine .mark fun start hstart ↦ .step fun next ↦ ?_
  split
  · exact yields_block rfl hparse
  · exact .leaf
  · exact yields_conditional hparse
  · exact yields_doLoop hparse
  · exact yields_governed hparse
  · exact yields_governed hparse
  · exact yields_forLoop hparse
  · exact yields_jump
  · exact yields_jump
  · exact yields_switch hparse
  · exact yields_throwStatement hparse
  · exact yields_guarded hparse
  · exact yields_returnStatement hparse
  · exact .step fun _ ↦ .step fun _ ↦ .close rfl hstart (by simp)
  · exact .step fun _ ↦ .knowing [] (by simp) (yields_classFrom hparse hstart)
  · exact yields_functionStatement hparse
  · exact yields_variableStatement hparse hstart
  · exact yields_constStatement hparse
  · exact .step fun _ ↦ .ite (yields_expressionOrLabel hparse) (yields_letStatement hparse)
  · exact yields_decoratedStatement hparse
  · exact .knowing [] (by simp) (yields_exportDeclaration hparse hstart)
  · exact .step fun _ ↦ .ite (yields_expressionOrLabel hparse) yields_importDeclaration
  · exact .step fun _ ↦ .ite (yields_functionStatement hparse) (.step fun _ ↦ .ite
      (yields_resourceStatement hparse) (.step fun _ ↦ .ite (yields_typedStatement hparse)
        (yields_expressionOrLabel hparse)))

end SsrBuild.Grammar
