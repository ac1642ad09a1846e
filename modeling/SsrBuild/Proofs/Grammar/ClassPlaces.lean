import SsrBuild.Grammar.ClassDefinition
import SsrBuild.Proofs.Grammar.FunctionPlaces

/-!
Where the nodes of classes and of their members stand.
-/

set_option autoImplicit false

namespace SsrBuild.Grammar

open Grammar.Parser
open SsrBuild.Tree (Placed)

variable {parse : Goal → Parser Tree} {low start : Nat} {known decorated : List Tree}

/-! ### What stands before a member -/

instance : Advances accessorKind? := by
  refine .step fun next ↦ .step fun stands ↦ ?_
  split
  · infer_instance
  · infer_instance
  · infer_instance

instance : Advances seesIndexSignature := by
  unfold seesIndexSignature
  infer_instance

instance : Advances endMember := by
  unfold endMember
  infer_instance

/-! ### Members -/

theorem yields_accessorMethod (hparse : PlacesGoals parse) {kind : AccessorKind}
    {rules : ParameterRules} : Yields low known (accessorMethod parse kind rules) ([·]) :=
  .bind (yields_method hparse) fun _ ↦ .step fun _ ↦ .step fun _ ↦ .ret (by simp +contextual)

theorem yields_indexSignature (hparse : PlacesGoals parse) (hstart : low ≤ start) :
    Yields low known (indexSignature parse start) ([·]) :=
  .step fun _ ↦ .bind (.separated (.mark fun _ hname ↦ .step fun _ ↦
    .bind (yields_typeAnnotation? hparse) fun _ ↦ .close rfl hname (by simp +contextual)))
    fun ⟨names, trailing⟩ ↦ .step fun _ ↦ .step fun _ ↦
      .bind (yields_typeAnnotation? hparse) fun _ ↦ .step fun _ ↦ .step fun _ ↦
        .close rfl hstart (by simp +contextual)

/-- A name to which words are added after points. -/
theorem yields_dottedName {first : Tree} (hstart : low ≤ start)
    (hfirst : ∀ high, Placed low high known → first.IsPlaced low high) :
    Yields low known (iterate (α := Tree) (fun name => do
      if ← eat .dot then
        let member ← anyWord
        return some (← close start .other [name, member])
      else return none) first) ([·]) :=
  .iterate ([·]) (fun _ ↦ .step fun _ ↦ .ite (.bind yields_anyWord fun _ ↦
      .bindAt (.close rfl hstart (by simp +contextual)) fun _ ↦ .ret (by simp))
    (.ret (by simp))) (by simpa using hfirst)

theorem yields_implementedType (hparse : PlacesGoals parse) :
    Yields low known (implementedType parse) ([·]) :=
  .mark fun _ hstart ↦ .bind yields_identifierReference fun _ ↦
    .bindAt (yields_dottedName hstart (by simp +contextual)) fun _ ↦
      .bind (yields_typeArguments? hparse) fun _ ↦ .close rfl hstart (by simp +contextual)

theorem yields_extendedClass (hparse : PlacesGoals parse) :
    Yields low known (extendedClass parse) (·.flatMap Tree.solid) := by
  refine .bind (hparse trivial) fun extended ↦ ?_
  split
  · exact .ret fun _ h ↦ Tree.placed_flatMap_solid_iff.mpr h.last.children
  · exact .bind (yields_typeArguments? hparse) fun _ ↦ .ret fun _ h ↦
      (Tree.placed_append.mp (by simpa using h)).2.1.sublist Tree.flatMap_solid_sublist

theorem yields_heritage (hparse : PlacesGoals parse) :
    Yields low known (heritage parse) (·.flatMap Tree.solid) := by
  have hend : ∀ {extended implemented : List Tree},
      Yields low (extended.flatMap Tree.solid ++ implemented) (do
        failIf (← seesAny [.kwExtends, .kwImplements])
        return extended ++ implemented) (·.flatMap Tree.solid) :=
    .step fun _ ↦ .step fun _ ↦ .ret fun _ h ↦ by
      rw [List.flatMap_append]
      exact h.sublist ((List.Sublist.refl _).append Tree.flatMap_solid_sublist)
  have himplemented : ∀ {extended : List Tree}, Yields low (extended.flatMap Tree.solid) (do
      let implemented ← if ← eat .kwImplements then
          let first ← implementedType parse
          let others ← many do
            if ← eat .comma then return some (← implementedType parse) else return none
          pure (first :: others)
        else pure []
      failIf (← seesAny [.kwExtends, .kwImplements])
      return extended ++ implemented) (·.flatMap Tree.solid) := fun {extended} ↦
    .step fun _ ↦ .ite (.bind (yields_implementedType hparse) fun first ↦
      .bind (.treesAfter (yields_implementedType hparse)) fun others ↦ .given
        (.knowing (extended.flatMap Tree.solid ++ first :: others) (by simp) hend))
      (.given (.knowing (extended.flatMap Tree.solid ++ []) (by simp) hend))
  exact .knowing [] (by simp) (.step fun _ ↦ .ite
    (.bind (yields_extendedClass hparse) fun _ ↦ himplemented) (.given himplemented))

theorem yields_memberName (hparse : PlacesGoals parse) {given : List Token} :
    Yields low known (memberName parse given) (fun name ↦ [name.1]) :=
  .step fun _ ↦ .step fun _ ↦ .ite
    (.step fun _ ↦ .bind yields_privateName fun _ ↦ .ret (by simp +contextual))
    (.step fun _ ↦ .bind (yields_propertyName hparse) fun ⟨_, _⟩ ↦ .ret (by simp +contextual))

theorem yields_staticBlock (hparse : PlacesGoals parse) (hstart : low ≤ start) :
    Yields low known (staticBlock parse start) ([·]) :=
  .step fun _ ↦ .step fun _ ↦ .bind (.within (.treesUpTo (hparse trivial))) fun _ ↦ .step fun _ ↦
    .close rfl hstart (by simp +contextual)

theorem yields_accessor (hparse : PlacesGoals parse) {kind : AccessorKind} {given : List Token}
    (hstart : low ≤ start) : Yields low decorated (accessor parse start kind decorated given) ([·]) :=
  .bind (yields_memberName hparse) fun ⟨_, _⟩ ↦ .step fun _ ↦ .step fun _ ↦ .step fun _ ↦
    .bind (yields_accessorMethod hparse) fun _ ↦ .close rfl hstart (by simp +contextual)

theorem yields_methodMember (hparse : PlacesGoals parse) {given : List Token}
    {isGenerator isOptional : Bool} {name : Tree} {spelled : Option (List Char)}
    (hstart : low ≤ start) :
    Yields low (decorated ++ [name])
      (methodMember parse start decorated given isGenerator name spelled isOptional) ([·]) :=
  .step fun _ ↦ .ite
    (.step fun _ ↦ .bind (yields_method hparse) fun _ ↦ .step fun _ ↦
      .close rfl hstart (by simp +contextual))
    (.step fun _ ↦ .bind (yields_method hparse) fun _ ↦ .step fun _ ↦
      .close rfl hstart (by simp +contextual))

theorem yields_field (hparse : PlacesGoals parse) {given : List Token} {name : Tree}
    {spelled : Option (List Char)} {isOptional : Bool} (hstart : low ≤ start) :
    Yields low (decorated ++ [name]) (field parse start decorated given name spelled isOptional)
      ([·]) := by
  have hend : Yields low (decorated ++ [name]) (do
      let type ← typeAnnotation? parse
      let inner : Context → Context := fun context =>
        { context with allowIn := true, inAsync := false, inGenerator := false }
      let first ← if ← eat .assign then pure [← within inner (parse .expression)] else pure []
      endStatement
      close start .other (decorated ++ name :: type ++ first)) ([·]) :=
    .bind (yields_typeAnnotation? hparse) fun _ ↦ .step fun _ ↦ .part (.within (hparse trivial))
      fun _ ↦ .step fun _ ↦ .close rfl hstart (by simp +contextual)
  exact .step fun _ ↦ .step fun _ ↦ .step fun _ ↦ .step fun _ ↦ .step fun _ ↦ .step fun _ ↦
    .ite (.step fun _ ↦ .step fun _ ↦ hend) hend

theorem yields_classMember (hparse : PlacesGoals parse) :
    Yields low known (classMember parse) ([·]) := by
  refine .mark fun start hstart ↦ .bind (yields_decorators hparse) fun decorated ↦ .step fun given ↦
    .step fun _ ↦ .step fun _ ↦ .ite (.step fun _ ↦ yields_staticBlock hparse hstart) ?_
  refine .step fun kind? ↦ ?_
  split
  · exact .knowing decorated (by simp +contextual) (yields_accessor hparse hstart)
  · refine .step fun _ ↦ .ite (.step fun _ ↦ .step fun _ ↦ yields_indexSignature hparse hstart)
      (.step fun _ ↦ .bind (yields_memberName hparse) fun ⟨name, spelled⟩ ↦ .step fun _ ↦
        .step fun _ ↦ .knowing (decorated ++ [name]) (by simp +contextual) ?_)
    exact .ite (yields_methodMember hparse hstart) (yields_field hparse hstart)

/-! ### Classes -/

theorem yields_classBody (hparse : PlacesGoals parse) : Yields low known (classBody parse) ([·]) :=
  .mark fun _ hstart ↦ .step fun _ ↦ .bind (.manyTrees (.step fun _ ↦ .step fun _ ↦
    .ite (.ret (by simp)) (.bind (yields_classMember hparse) fun _ ↦ .ret (by simp +contextual))))
    fun _ ↦ .step fun _ ↦ .close rfl hstart (by simp +contextual)

instance : Advances seesClassName := by
  unfold seesClassName
  infer_instance

theorem yields_classFrom (hparse : PlacesGoals parse) (hstart : low ≤ start) :
    Yields low decorated (classFrom parse start decorated) ([·]) :=
  .step fun _ ↦ .step fun _ ↦ .part yields_bindingIdentifier fun name ↦
    .bind (yields_typeParameters? hparse) fun types ↦ .bind (yields_heritage hparse) fun related ↦
      .bind (yields_classBody hparse) fun body ↦ .closeParts rfl hstart fun high h ↦
        Tree.placed_flatMap_solid_iff.mp (h.sublist (by
          simp only [List.flatMap_append]
          exact (((Tree.flatMap_solid_sublist.append Tree.flatMap_solid_sublist).append
            Tree.flatMap_solid_sublist).append (List.Sublist.refl _)).append
              Tree.flatMap_solid_sublist))

theorem yields_decoratedClass (hparse : PlacesGoals parse) (hstart : low ≤ start) :
    Yields low decorated (decoratedClass parse start decorated) ([·]) :=
  .step fun _ ↦ .step fun _ ↦ .within (yields_classFrom hparse hstart)

end SsrBuild.Grammar
