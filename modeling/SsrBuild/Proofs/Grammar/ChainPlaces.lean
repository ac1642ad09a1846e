import SsrBuild.Grammar.LeftHand
import SsrBuild.Proofs.Grammar.PrimaryPlaces

/-!
Where the nodes of members, calls and constructions stand.
-/

set_option autoImplicit false

namespace SsrBuild.Grammar

open Grammar.Parser
open SsrBuild.Tree (Placed)

variable {parse : Goal → Parser Tree} {low start : Nat} {known : List Tree} {chain : Chain}

/-- The trees of the chain after a step, if there is one. -/
def chainTrees (step : Option Chain) : List Tree := step.toList.flatMap ([·.expression])

@[simp] theorem chainTrees_none : chainTrees none = [] := rfl

@[simp] theorem chainTrees_some : chainTrees (some chain) = [chain.expression] := rfl

/-- An argument, which may be spread. -/
theorem yields_argument (hparse : PlacesGoals parse) : Yields low known (do
    if ← sees .ellipsis then spreadElement parse else parse (.assignment true)) ([·]) :=
  .step fun _ ↦ .ite (yields_spreadElement hparse) (hparse trivial)

theorem yields_callArguments (hparse : PlacesGoals parse) :
    Yields low known (callArguments parse) id :=
  .step fun _ ↦ .bind (.within (.treesWithCommas (yields_argument hparse))) fun _ ↦ .step fun _ ↦
    .ret (by simp +contextual)

/-- The arguments come one after the other. -/
theorem ensures_callArguments (hparse : PlacesGoals parse) :
    Ensures (fun _ ↦ True) (callArguments parse) fun _ arguments ↦
      arguments.Pairwise Tree.Precedes := by
  refine Advances.ensures.bind fun _ ↦
    (ensures_commaList (yields_argument hparse)).within.bind fun arguments ↦ ?_
  have hclosing : Ensures (fun _ ↦ arguments.Pairwise Tree.Precedes) (expect .rparen)
      fun _ _ ↦ arguments.Pairwise Tree.Precedes :=
    (Ensures.frame (fun _ ↦ arguments.Pairwise Tree.Precedes) Advances.ensures fun _ _ _ h ↦ h).conseq
      (fun _ h ↦ ⟨h, trivial⟩) fun _ _ h ↦ h.1
  exact hclosing.bind fun _ ↦ .pure fun _ _ h ↦ h

/-! ### Type arguments -/

instance : Advances mayFollowTypeArguments := by
  refine .step fun next ↦ ?_
  split
  all_goals infer_instance

theorem yields_expressionTypeArguments (hparse : PlacesGoals parse) :
    Yields low known (expressionTypeArguments parse) ([·]) :=
  .mark fun _ hstart ↦ .step fun _ ↦ .step fun _ ↦ .bind (.treesWithCommas (hparse trivial))
    fun _ ↦ .step fun _ ↦ .step fun _ ↦ .step fun _ ↦ .step fun _ ↦ .step fun _ ↦ .step fun _ ↦
      .close rfl hstart (by simp +contextual)

theorem yields_expressionTypeArguments? (hparse : PlacesGoals parse) :
    Yields low known (expressionTypeArguments? parse) (·.toList.flatMap ([·])) :=
  .step fun _ ↦ .ite (.attempt (yields_expressionTypeArguments hparse)) (.ret (by simp))

/-- An expression and the type arguments that it ends with are placed where the whole is. -/
theorem partsPlaced_withoutTypeArguments {high : Nat} {expression : Tree} {others : List Tree}
    (h : Placed low high (expression :: others)) :
    Tree.PartsPlaced low high ((withoutTypeArguments expression).1 ::
      (withoutTypeArguments expression).2 ++ others) := by
  obtain ⟨hexpression, hothers⟩ := Tree.partsPlaced_cons.mp h.parts
  unfold withoutTypeArguments
  split
  · refine Tree.partsPlaced_append.mpr ⟨hexpression.parts, hothers.2, ?_⟩
    exact fun part hpart other hother ↦
      (hothers.1 other hother).mono (Tree.covers_child hpart) (.refl other)
  · exact h.parts

/-! ### The parts of a chain -/

theorem yields_namedMember (chain : Chain) (hstart : low ≤ start) :
    Yields low [chain.expression] (namedMember start chain) chainTrees :=
  .step fun _ ↦ .ite
    (.bind yields_privateName fun _ ↦ .bindAt (.close rfl hstart (by simp)) fun _ ↦ .ret (by simp))
    (.bind yields_anyWord fun _ ↦ .bindAt (.close rfl hstart (by simp)) fun _ ↦ .ret (by simp))

theorem yields_computedMember (chain : Chain) (hparse : PlacesGoals parse) (hstart : low ≤ start) :
    Yields low [chain.expression] (computedMember parse start chain) chainTrees :=
  .step fun _ ↦ .bind (.within (hparse trivial)) fun _ ↦ .step fun _ ↦
    .bindAt (.close rfl hstart (by simp)) fun _ ↦ .ret (by simp)

theorem yields_taggedTemplate (chain : Chain) (hparse : PlacesGoals parse) (hstart : low ≤ start) :
    Yields low [chain.expression] (taggedTemplate parse start chain) chainTrees :=
  .step fun _ ↦ .bind (yields_template hparse) fun _ ↦
    .bindAt (.closeParts rfl hstart fun _ h ↦ partsPlaced_withoutTypeArguments h) fun _ ↦
      .ret (by simp)

theorem yields_memberStep (chain : Chain) (hparse : PlacesGoals parse) (hstart : low ≤ start) :
    Yields low [chain.expression] (memberStep parse start chain) chainTrees := by
  refine .step fun context ↦ .step fun next ↦ ?_
  split
  · exact .step fun _ ↦ yields_namedMember _ hstart
  · exact .ite (.ret (by simp)) (yields_computedMember _ hparse hstart)
  · exact .step fun _ ↦ .step fun _ ↦ .ite
      (.step fun _ ↦ yields_computedMember { chain with isOptional := true } hparse hstart)
      (.ite (.step fun _ ↦ yields_namedMember { chain with isOptional := true } hstart)
        (.ret (by simp)))
  · exact .step fun _ ↦ .step fun _ ↦ .ite
      (.step fun _ ↦ .bindAt (.close rfl hstart (by simp +contextual)) fun _ ↦
        .ret (by simp +contextual))
      (.ret (by simp))
  · exact yields_taggedTemplate _ hparse hstart
  · exact yields_taggedTemplate _ hparse hstart
  · refine .bind (yields_expressionTypeArguments? hparse) fun
      | some _ => .bindAt (.close rfl hstart (by simp +contextual)) fun _ ↦ .ret (by simp +contextual)
      | none => .ret (by simp)
  · refine .bind (yields_expressionTypeArguments? hparse) fun
      | some _ => .bindAt (.close rfl hstart (by simp +contextual)) fun _ ↦ .ret (by simp +contextual)
      | none => .ret (by simp)
  · exact .ret (by simp)

theorem yields_call (hparse : PlacesGoals parse) {isOptional : Bool} {callee : Tree}
    {types : List Tree} (hstart : low ≤ start)
    (hcallee : ∀ high arguments, Placed low high (known ++ arguments) →
      Tree.PartsPlaced low high (callee :: types ++ arguments)) :
    Yields low known (call parse start isOptional callee types) chainTrees :=
  .bindWith (yields_callArguments hparse) (ensures_callArguments hparse) fun arguments hordered ↦
    .bindAt (.closeArguments hstart (fun _ ↦ by rwa [Tree.arguments_append (Or.inr rfl)])
      fun high h ↦ hcallee high arguments h) fun _ ↦ .ret (by simp)

theorem yields_chainStep (chain : Chain) (hparse : PlacesGoals parse) (hstart : low ≤ start) :
    Yields low [chain.expression] (chainStep parse start chain) chainTrees := by
  refine .bindOption (yields_memberStep _ hparse hstart) (fun next ↦ .ret (by simp))
    (.step fun _ ↦ .ite ?_ (.step fun _ ↦ .ite ?_ (.ret (by simp))))
  · refine .bind (yields_expressionTypeArguments? hparse) fun types ↦ .step fun _ ↦ .ite
      (.knowing [chain.expression] (by simp +contextual)
        (yields_taggedTemplate { chain with isOptional := true } hparse hstart))
      (yields_call hparse hstart fun high arguments h ↦ ?_)
    simpa using h.parts
  · exact yields_call hparse hstart fun high arguments h ↦ partsPlaced_withoutTypeArguments h

/-! ### Whole chains -/

theorem isPlaced_wrapChain {high : Nat} {tree : Tree} (h : tree.IsPlaced low high) :
    (wrapChain tree).IsPlaced low high := by
  unfold wrapChain
  split
  · exact h.around rfl (Tree.placed_singleton.mpr h)
  · exact h.around rfl (Tree.placed_singleton.mpr h)
  · exact h.around rfl (Tree.placed_singleton.mpr h)
  · exact h

theorem nodesPlaced_wrapChain {high : Nat} {tree : Tree} (h : tree.NodesPlaced low high) :
    (wrapChain tree).NodesPlaced low high := by
  cases hhole : tree.isHole with
  | false => exact (isPlaced_wrapChain (h.isPlaced hhole)).2
  | true =>
    unfold Tree.isHole at hhole
    split at hhole
    · exact h
    · cases hhole

theorem apart_wrapChain {tree other : Tree} (h : tree.Apart other) :
    (wrapChain tree).Apart other := by
  unfold wrapChain
  split
  · exact Tree.apart_node_of_children rfl nofun (by simpa using h)
  · exact Tree.apart_node_of_children rfl nofun (by simpa using h)
  · exact Tree.apart_node_of_children rfl nofun (by simpa using h)
  · exact h

theorem isPlaced_toTree {high : Nat} (h : chain.expression.IsPlaced low high) :
    chain.toTree.IsPlaced low high := by
  unfold Chain.toTree
  split
  · split
    · next span expression types heq =>
      rw [heq, Tree.isPlaced_node_iff rfl, Tree.partsPlaced_cons] at h
      obtain ⟨hspan, hexpression, hbetween, htypes⟩ := h
      exact (Tree.isPlaced_node_iff rfl).mpr ⟨hspan, Tree.partsPlaced_cons.mpr
        ⟨nodesPlaced_wrapChain hexpression,
          fun other hother ↦ apart_wrapChain (hbetween other hother), htypes⟩⟩
    · exact isPlaced_wrapChain h
  · exact h

theorem yields_construction (hparse : PlacesGoals parse) :
    Yields low known (construction parse) ([·]) := by
  refine .mark fun start hstart ↦ .bind .leaf fun word ↦ .step fun _ ↦ .ite
    (.step fun _ ↦ .step fun _ ↦ .bind .leaf fun _ ↦
      .close rfl hstart (by simp +contextual)) ?_
  refine .mark fun calleeStart hcallee ↦ .bind (hparse trivial) fun first ↦
    .bindAt (.iterate (fun chain : Chain ↦ [chain.expression])
      (fun chain ↦ yields_memberStep chain hparse hcallee) (by simp +contextual)) ?_
  refine fun chain ↦ .step fun _ ↦ .step fun _ ↦ .step fun _ ↦ .step fun _ ↦ .ite
    (.bindWith (yields_callArguments hparse) (ensures_callArguments hparse) fun arguments hordered ↦
      .closeArguments hstart (fun _ ↦ by rwa [Tree.arguments_append (Or.inl rfl)])
        fun high h ↦ partsPlaced_withoutTypeArguments h)
    (.given (.closeArguments hstart (by simp [Tree.arguments])
      fun high h ↦ partsPlaced_withoutTypeArguments h))

theorem yields_leftHand (hparse : PlacesGoals parse) : Yields low known (leftHand parse) ([·]) :=
  .mark fun _ hstart ↦ .bind (hparse trivial) fun _ ↦
    .bindAt (.iterate (fun chain : Chain ↦ [chain.expression])
      (fun chain ↦ yields_chainStep chain hparse hstart) (by simp +contextual)) fun _ ↦
    .ret fun _ h ↦ Tree.placed_singleton.mpr (isPlaced_toTree (Tree.placed_singleton.mp h))

end SsrBuild.Grammar
