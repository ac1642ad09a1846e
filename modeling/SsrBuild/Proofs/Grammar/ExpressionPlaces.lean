import SsrBuild.Grammar.Expression
import SsrBuild.Proofs.Grammar.ChainPlaces
import SsrBuild.Proofs.Grammar.ElementPlaces
import SsrBuild.Proofs.Grammar.TargetPlaces

/-!
Where the nodes of expressions of operators stand.
-/

set_option autoImplicit false

namespace SsrBuild.Grammar

open Grammar.Parser
open SsrBuild.Tree (Placed)

variable {parse : Goal → Parser Tree} {low start : Nat} {known : List Tree}

/-- The target of an expression that has been read. -/
theorem yields_orFail {target : Tree → Option Tree} {tree : Tree}
    (htarget : ∀ high found, tree.IsPlaced low high → target tree = some found →
      found.IsPlaced low high) :
    Yields low [tree] (orFail (target tree)) ([·]) := by
  unfold orFail
  split
  · next found hfound =>
    exact .ret fun high h ↦ Tree.placed_singleton.mpr
      (htarget high found (Tree.placed_singleton.mp h) hfound)
  · exact .fail

/-! ### Unary operators -/

theorem yields_unaryOperation (hparse : PlacesGoals parse) :
    Yields low known (unaryOperation parse) ([·]) :=
  .mark fun _ hstart ↦ .step fun _ ↦ .mark fun _ hoperand ↦ .bindAt (hparse hoperand) fun _ ↦
    .close rfl hstart (by simp)

theorem yields_awaited (hparse : PlacesGoals parse) (hstart : low ≤ start) :
    Yields low known (awaited parse start) ([·]) :=
  .mark fun _ hmark ↦ .step fun _ ↦ .bindAt (hparse hstart) fun _ ↦
    .close rfl hmark (by simp)

theorem yields_typeAssertion (hparse : PlacesGoals parse) :
    Yields low known (typeAssertion parse) ([·]) :=
  .mark fun _ hstart ↦ .step fun _ ↦ .bind (hparse trivial) fun _ ↦ .step fun _ ↦
    .bindFromMark (fun start ↦ hparse (Nat.le_refl start)) fun _ _ ↦
      .close rfl hstart (by simp +contextual)

theorem yields_simpleTarget {tree : Tree} :
    Yields low [tree] (orFail tree.simpleTarget?) ([·]) :=
  yields_orFail fun _ _ h hfound ↦ (Tree.becomes_of_simpleTarget? h.2 hfound).1

theorem yields_postfixOperation (hparse : PlacesGoals parse) :
    Yields low known (postfixOperation parse) ([·]) :=
  .mark fun _ hstart ↦ .bind (hparse trivial) fun operand ↦ .knowing [operand] (by simp +contextual)
    (.step fun _ ↦ .step fun _ ↦ .ite
      (.bindAt yields_simpleTarget fun _ ↦ .step fun _ ↦ .close rfl hstart (by simp))
      (.ret (by simp)))

theorem yields_updated (hparse : PlacesGoals parse) (hstart : low ≤ start) :
    Yields low known (updated parse start) ([·]) :=
  .step fun _ ↦ .bindAt (hparse hstart) fun _ ↦ .bindAt yields_simpleTarget fun _ ↦
    .close rfl hstart (by simp)

theorem yields_operand (hparse : PlacesGoals parse) (hstart : low ≤ start) :
    Yields low known (operand parse start) ([·]) :=
  .step fun _ ↦ .ite (yields_unaryOperation hparse) (.ite (yields_updated hparse hstart) (.ite
    (.step fun _ ↦ .ite (hparse trivial) (.step fun _ ↦ .ite (yields_typeAssertion hparse) .fail))
    (.step fun _ ↦ .ite (yields_awaited hparse hstart) (yields_postfixOperation hparse))))

/-! ### Binary operators -/

instance (floor : Nat) (operator : Token) : Advances (bindsAbove floor operator) := by
  unfold bindsAbove
  split
  · infer_instance
  · extract_lets tight
    split
    all_goals infer_instance

theorem hasArguments_binaryLabel (operator : Token) :
    (binaryLabel operator).hasArguments = false := by
  cases operator <;> rfl

theorem yields_binaryStep (hparse : PlacesGoals parse) {floor : Nat} {parenthesized : Bool}
    {left : Tree} (hstart : low ≤ start) :
    Yields low [left] (binaryStep parse start floor parenthesized left)
      (·.toList.flatMap ([·])) :=
  .step fun _ ↦ .step fun operator ↦ .step fun _ ↦ .ite (.ret (by simp)) (.step fun _ ↦ .ite
    (.step fun _ ↦ .step fun _ ↦ .bind (hparse trivial) fun _ ↦
      .bindAt (.close rfl hstart (by simp +contextual)) fun _ ↦ .ret (by simp +contextual))
    (.step fun _ ↦ .bind (hparse trivial) fun _ ↦ .step fun _ ↦ .step fun _ ↦
      .bindAt (.close (hasArguments_binaryLabel operator) hstart (by simp +contextual)) fun _ ↦
        .ret (by simp)))

theorem yields_privateTest (hparse : PlacesGoals parse) {floor : Nat} :
    Yields low known (privateTest parse floor) ([·]) :=
  .mark fun _ hstart ↦ .bind yields_privateName fun _ ↦ .step fun _ ↦ .step fun _ ↦
    .bind (hparse trivial) fun _ ↦ .close rfl hstart (by simp +contextual)

theorem yields_binary (hparse : PlacesGoals parse) {floor : Nat} :
    Yields low known (binary parse floor) ([·]) :=
  .mark fun _ hstart ↦ .step fun _ ↦ .step fun _ ↦ .step fun _ ↦ .ite
    (.bind (yields_privateTest hparse) fun _ ↦
      .iterate ([·]) (fun _ ↦ yields_binaryStep hparse hstart) (by simp +contextual))
    (.bindAt (hparse hstart) fun _ ↦
      .iterate ([·]) (fun _ ↦ yields_binaryStep hparse hstart) (by simp))

/-! ### Assignments -/

theorem yields_yieldExpression (hparse : PlacesGoals parse) :
    Yields low known (yieldExpression parse) ([·]) :=
  .mark fun _ hstart ↦ .step fun _ ↦ .step fun _ ↦ .ite (.close rfl hstart (by simp))
    (.step fun _ ↦ .step fun _ ↦ .ite (.close rfl hstart (by simp))
      (.bind (hparse trivial) fun _ ↦ .close rfl hstart (by simp +contextual)))

theorem yields_conditionalRest (hparse : PlacesGoals parse) {condition : Tree} {resultType : Bool}
    (hstart : low ≤ start) :
    Yields low [condition] (conditionalRest parse start condition resultType) ([·]) :=
  .step fun _ ↦ .ite (.bind (.within (hparse trivial)) fun _ ↦ .step fun _ ↦
    .bind (hparse trivial) fun _ ↦ .close rfl hstart (by simp +contextual))
    (.ret (by simp +contextual))

theorem yields_assignmentRest (hparse : PlacesGoals parse) {left : Tree} {resultType : Bool}
    (hstart : low ≤ start) :
    Yields low [left] (assignmentRest parse start left resultType) ([·]) :=
  .step fun _ ↦
    .bindAt (yields_orFail fun _ _ h hfound ↦ (Tree.becomes_of_target? h.2 hfound).1) fun _ ↦
    .step fun _ ↦ .bind (hparse trivial) fun _ ↦ .close rfl hstart (by simp +contextual)

theorem yields_assignment (hparse : PlacesGoals parse) {resultType : Bool} :
    Yields low known (assignment parse resultType) ([·]) := by
  refine .step fun _ ↦ .step fun _ ↦ .ite (yields_yieldExpression hparse)
    (.bind (yields_parenthesizedArrow? hparse) fun
      | some _ => .ret (by simp +contextual)
      | none => .bind (yields_asyncArrow? hparse) fun
        | some _ => .ret (by simp +contextual)
        | none => ?_)
  refine .mark fun _ hstart ↦ .bind (hparse trivial) fun left ↦ .step fun _ ↦ .ite
    (yields_simpleArrow hparse hstart (by simp +contextual))
    (.knowing [left] (by simp +contextual)
      (.ite (yields_assignmentRest hparse hstart) (yields_conditionalRest hparse hstart)))

theorem yields_expression (hparse : PlacesGoals parse) :
    Yields low known (expression parse) ([·]) :=
  .mark fun _ hstart ↦ .bind (hparse trivial) fun _ ↦ .bind (.treesAfter (hparse trivial)) fun _ ↦
    .ite (.ret (by simp +contextual)) (.close rfl hstart (by simp +contextual))

end SsrBuild.Grammar
