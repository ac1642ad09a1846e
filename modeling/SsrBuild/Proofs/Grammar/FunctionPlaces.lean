import SsrBuild.Grammar.Function
import SsrBuild.Proofs.Grammar.PatternPlaces

/-!
Where the nodes of functions stand. The parts of a function are read one after the other, so they are
apart; only a receiver lies inside the list of parameters (`yields_parameters`).
-/

set_option autoImplicit false

namespace SsrBuild.Grammar

open Grammar.Parser
open SsrBuild.Tree (Placed)

variable {parse : Goal → Parser Tree} {low : Nat} {known : List Tree}

/-! ### Parameters -/

/-- The closing parenthesis ends the list after everything that has been read. -/
theorem yields_closeParameters {start : Nat} {forThis others : List Tree} :
    Yields start (forThis ++ others) (do
      expect .rparen
      return (forThis, ← close start .formalParameters others)) fun parts ↦ parts.1 ++ [parts.2] := by
  intro context s result next hrun horderly hknown
  obtain ⟨taken, after, hexpect, hclose⟩ := of_bind_ok hrun
  obtain ⟨hleads, hstop⟩ := ensures_expect .rparen s.mark context s taken after hexpect horderly
    (Nat.le_refl _)
  obtain ⟨hresult, rfl⟩ := Prod.mk.inj hclose
  obtain rfl := Except.ok.inj hresult
  obtain ⟨hforThis, hothers, hbetween⟩ := Tree.placed_append.mp hknown.2
  have hlist : (Tree.node .formalParameters ⟨start, after.lastStop⟩ others).IsPlaced start
      after.mark := (Tree.isPlaced_node_iff rfl).mpr ⟨⟨Nat.le_refl _, hleads.orderly.1⟩,
    (hothers.mono (Nat.le_refl _) hleads.le).parts⟩
  have hreceiver : ∀ receiver ∈ forThis,
      receiver.Apart (.node .formalParameters ⟨start, after.lastStop⟩ others) := by
    intro receiver hmem
    constructor
    · intro construction hconstruction hlabel list hlist hparameters
      rcases Tree.mem_preorder_iff.mp hlist with rfl | ⟨other, hother, hlist⟩
      · -- What the receiver has lies inside the list.
        obtain ⟨hlow, hhigh⟩ := (hforThis.1 receiver hmem).span_mem hconstruction
          (Tree.label_ne_hole_of_isConstruction hlabel)
        exact Or.inr (Or.inr ⟨hlow, Nat.le_trans hhigh hstop⟩)
      · exact (hbetween receiver hmem other hother).1 construction hconstruction hlabel list hlist
          hparameters
    · intro construction hconstruction hlabel list hlist hparameters
      rcases Tree.mem_preorder_iff.mp hconstruction with rfl | ⟨other, hother, hconstruction⟩
      · cases hlabel
      · exact (hbetween receiver hmem other hother).2 construction hconstruction hlabel list hlist
          hparameters
  refine ⟨hleads, Tree.placed_append.mpr ⟨hforThis.mono (Nat.le_refl _) hleads.le,
    Tree.placed_singleton.mpr hlist, ?_⟩⟩
  intro receiver hmem list hlist
  obtain rfl := List.mem_singleton.mp hlist
  exact hreceiver receiver hmem

theorem yields_parameters (hparse : PlacesGoals parse) {rules : ParameterRules} :
    Yields low known (parameters parse rules) fun parts ↦ parts.1 ++ [parts.2] := by
  have hothers : ∀ {place : Nat}, Yields place []
      (listWithRest .rparen (parameter parse rules) (restParameter parse)) id :=
    (yields_listWithRest (yields_parameter hparse) (yields_restParameter hparse)).told (by simp)
  refine .markFrom fun start ↦ .step fun _ ↦ .step fun _ ↦ .step fun _ ↦ .ite ?_ ?_
  · exact .bind (yields_thisParameter hparse) fun receiver ↦ .step fun _ ↦
      .given (.bind hothers fun others ↦ yields_closeParameters)
  · exact .given (.bind hothers fun others ↦ yields_closeParameters)

/-! ### Functions -/

theorem yields_block {label : Label} (hlabel : label.hasArguments = false)
    (hparse : PlacesGoals parse) : Yields low known (block parse label) ([·]) :=
  .mark fun _ hstart ↦ .step fun _ ↦ .bind (.within (.treesUpTo (hparse trivial))) fun _ ↦
    .step fun _ ↦ .close hlabel hstart (by simp +contextual)

theorem yields_functionBody (hparse : PlacesGoals parse) :
    Yields low known (functionBody parse) ([·]) :=
  .within (yields_block rfl hparse)

theorem yields_functionParts (hparse : PlacesGoals parse) {isAsync isGenerator : Bool}
    {rules : ParameterRules} :
    Yields low known (functionParts parse isAsync isGenerator rules) id := by
  refine .bindAs (fun parts : List Tree × List Tree ↦ parts.1 ++ parts.2) (.within ?_)
    fun ⟨head, body⟩ ↦ .ite (.step fun _ ↦ .step fun _ ↦ .step fun _ ↦ .ret (by simp +contextual))
      (.ret (by simp +contextual))
  exact .bind (yields_typeParameters? hparse) fun types ↦
    .bind (yields_parameters hparse) fun ⟨forThis, others⟩ ↦
      .bind (yields_resultType? hparse) fun result ↦ .step fun _ ↦
        .part (yields_functionBody hparse) fun body ↦ .ret (by simp +contextual)

theorem yields_functionName? {isExpression isAsync isGenerator : Bool} :
    Yields low known (functionName? isExpression isAsync isGenerator) id :=
  .step fun _ ↦ .ite (.bind (.within yields_bindingIdentifier) fun _ ↦ .ret (by simp +contextual))
    (.ret (by simp))

theorem yields_functionFrom (hparse : PlacesGoals parse) {start : Nat}
    {isExpression isAsync mustHaveName : Bool} (hstart : low ≤ start) :
    Yields low known (functionFrom parse start isExpression isAsync mustHaveName) ([·]) :=
  .step fun _ ↦ .step fun _ ↦ .bind yields_functionName? fun _ ↦ .step fun _ ↦
    .bind (yields_functionParts hparse) fun _ ↦ .bindAt (.close rfl hstart (by simp +contextual))
      fun _ ↦ .step fun _ ↦ .step fun _ ↦ .ret (by simp)

theorem yields_method (hparse : PlacesGoals parse) {isAsync isGenerator : Bool}
    {rules : ParameterRules} :
    Yields low known (method parse isAsync isGenerator rules) ([·]) :=
  .mark fun _ hstart ↦ .bind (yields_functionParts hparse) fun _ ↦
    .close rfl hstart (by simp +contextual)

instance : Advances seesAsyncFunction := by
  unfold seesAsyncFunction
  infer_instance

/-! ### Arrow functions -/

instance : Advances arrowOutlook := by
  refine .step fun next ↦ ?_
  split
  · infer_instance
  · infer_instance
  · infer_instance
  · infer_instance

instance : Advances takeArrow := by
  unfold takeArrow
  infer_instance

theorem yields_arrowHead (hparse : PlacesGoals parse) :
    Yields low known (arrowHead parse) (·.parts) :=
  .step fun _ ↦ .bindAs id (.within (.bind (yields_typeParameters? hparse) fun types ↦
    .bind (yields_parameters hparse) fun ⟨forThis, others⟩ ↦ .step fun _ ↦
      .ret (by simp +contextual)))
    fun parts ↦ .bind (yields_resultType? hparse) fun _ ↦ .step fun _ ↦ .ret (by simp +contextual)

theorem yields_arrowBody (hparse : PlacesGoals parse) {isAsync resultType : Bool} :
    Yields low known (arrowBody parse isAsync resultType) ([·]) :=
  .within (.step fun _ ↦ .ite (yields_functionBody hparse) (.bind (hparse trivial) fun tree ↦
    .ret fun high h ↦ by
      have htree : tree.IsPlaced low high := h.last
      exact Tree.placed_singleton.mpr (htree.aroundTwice rfl rfl)))

/-- An identifier that is a list of parameters by itself. -/
theorem yields_simpleArrow (hparse : PlacesGoals parse) {start : Nat} {name : Tree}
    {isAsync resultType : Bool} (hstart : low ≤ start)
    (hname : ∀ high, Placed low high known → name.IsPlaced low high) :
    Yields low known (simpleArrow parse start name isAsync resultType) ([·]) :=
  .knowing [.node .formalParameters name.span [.node .other name.span [name]]]
    (fun high h ↦ Tree.placed_singleton.mpr ((hname high h).aroundTwice rfl rfl))
    (.step fun _ ↦ .bind (yields_arrowBody hparse) fun _ ↦ .close rfl hstart (by simp +contextual))

/-- An arrow function after its head. -/
theorem yields_arrowAfterHead (hparse : PlacesGoals parse) {start : Nat} {parts : List Tree}
    {isAsync resultType : Bool} (hstart : low ≤ start) :
    Yields low parts (do
      let body ← arrowBody parse isAsync resultType
      return some (← close start .arrowFunction (parts ++ [body]))) (·.toList.flatMap ([·])) :=
  .bind (yields_arrowBody hparse) fun _ ↦ .bindAt (.close rfl hstart (by simp +contextual)) fun _ ↦
    .ret (by simp)

theorem yields_parenthesizedArrow? (hparse : PlacesGoals parse) {resultType : Bool} :
    Yields low known (parenthesizedArrow? parse resultType) (·.toList.flatMap ([·])) := by
  refine .mark fun start hstart ↦ .step fun outlook ↦ ?_
  split
  · exact .ret (by simp)
  · exact .bind (yields_arrowHead hparse) fun head ↦
      .knowing head.parts (by simp +contextual) (yields_arrowAfterHead hparse hstart)
  · -- The reading may go back to where it began, so its last steps are followed one by one.
    intro context s result next hrun horderly hknown
    obtain ⟨before, first, hget, hrun⟩ := of_bind_ok hrun
    obtain ⟨hbefore, rfl⟩ := Prod.mk.inj hget
    obtain rfl := Except.ok.inj hbefore
    have hback : ∀ {spots : List Nat} {result : Option Tree} {next : State},
        ((.ok none, { s with notArrows := spots }) : Except Unit (Option Tree) × State) =
          (.ok result, next) →
        s.LeadsTo next ∧ Placed low next.mark (result.toList.flatMap ([·])) := by
      intro spots result next hnone
      obtain ⟨hresult, rfl⟩ := Prod.mk.inj hnone
      obtain rfl := Except.ok.inj hresult
      exact ⟨⟨horderly, Nat.le_refl _, id⟩, Tree.placed_nil⟩
    split at hrun
    · exact hback hrun
    · obtain ⟨head?, middle, hattempt, hrun⟩ := of_bind_ok hrun
      obtain ⟨hleads, hhead⟩ := (yields_arrowHead hparse).attempt context s head? middle hattempt
        horderly ⟨hknown.1, Tree.placed_nil⟩
      cases head? with
      | none =>
        obtain ⟨noted, last, hnote, hrun⟩ := of_bind_ok hrun
        obtain ⟨-, rfl⟩ := Prod.mk.inj hnote
        obtain ⟨hresult, rfl⟩ := Prod.mk.inj hrun
        obtain rfl := Except.ok.inj hresult
        exact ⟨⟨hleads.orderly, hleads.le, hleads.sound⟩, Tree.placed_nil⟩
      | some head =>
        obtain ⟨body, last, hbody, hrun⟩ := of_bind_ok hrun
        obtain ⟨colon, same, hcolon, hrun⟩ := of_bind_ok hrun
        obtain ⟨-, rfl⟩ := Prod.mk.inj hcolon
        split at hrun
        · obtain ⟨current, same, hget, hrun⟩ := of_bind_ok hrun
          obtain ⟨set, same, hset, hrun⟩ := of_bind_ok hrun
          obtain ⟨-, rfl⟩ := Prod.mk.inj hset
          exact hback hrun
        · have hon : (do
              let body ← arrowBody parse head.isAsync resultType
              return some (← close start .arrowFunction (head.parts ++ [body]))) context middle =
                (.ok result, next) :=
            (bind_of_ok hbody).trans hrun
          obtain ⟨hleadsOn, htrees⟩ := yields_arrowAfterHead hparse hstart context middle result next
            hon hleads.orderly ⟨Nat.le_trans hknown.1 hleads.le, by simpa using hhead⟩
          exact ⟨hleads.trans hleadsOn, htrees⟩

theorem yields_asyncArrow? (hparse : PlacesGoals parse) {resultType : Bool} :
    Yields low known (asyncArrow? parse resultType) (·.toList.flatMap ([·])) :=
  .step fun _ ↦ .ite (.ret (by simp)) (.step fun _ ↦ .ite (.ret (by simp)) (.mark fun _ hstart ↦
    .step fun _ ↦ .bind (.within yields_bindingIdentifier) fun _ ↦
      .bindAt (yields_simpleArrow hparse hstart (by simp +contextual)) fun _ ↦
        .ret (by simp)))

end SsrBuild.Grammar
