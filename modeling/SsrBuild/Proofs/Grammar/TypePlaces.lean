import SsrBuild.Grammar.TypeDeclaration
import SsrBuild.Proofs.Grammar.PrimaryPlaces

/-!
Where the nodes of types and of their declarations stand.
-/

set_option autoImplicit false

namespace SsrBuild.Grammar

open Grammar.Parser
open SsrBuild.Tree (Placed)

variable {parse : Goal → Parser Tree} {low start : Nat} {known : List Tree}

/-! ### Members of types -/

theorem yields_signatureParts (hparse : PlacesGoals parse) {constructs : Bool} {marks : List Token} :
    Yields low known (signatureParts parse constructs marks) id :=
  .bind (yields_typeParameters? hparse) fun _ ↦ .bind (yields_parameters hparse) fun ⟨_, _⟩ ↦
    .step fun _ ↦ .bind (yields_resultType? hparse) fun _ ↦ .ret (by simp +contextual)

instance : Advances seesConstruction := by
  unfold seesConstruction
  infer_instance

theorem yields_propertyOrMethod (hparse : PlacesGoals parse) {given : List Token}
    (hstart : low ≤ start) : Yields low known (propertyOrMethod parse start given) ([·]) :=
  .bind (yields_propertyName hparse) fun ⟨_, _⟩ ↦ .step fun _ ↦ .step fun _ ↦ .step fun _ ↦ .ite
    (.bind (yields_signatureParts hparse) fun _ ↦ .step fun _ ↦
      .close rfl hstart (by simp +contextual))
    (.bind (yields_typeAnnotation? hparse) fun _ ↦ .step fun _ ↦
      .close rfl hstart (by simp +contextual))

theorem yields_accessorSignature (hparse : PlacesGoals parse) {kind : AccessorKind}
    (hstart : low ≤ start) : Yields low known (accessorSignature parse start kind) ([·]) :=
  .bind (yields_propertyName hparse) fun ⟨_, _⟩ ↦ .bind (yields_parameters hparse) fun ⟨_, _⟩ ↦
    .bind (yields_resultType? hparse) fun _ ↦ .step fun _ ↦ .step fun _ ↦
      .close rfl hstart (by simp +contextual)

theorem yields_typeMember (hparse : PlacesGoals parse) :
    Yields low known (typeMember parse) ([·]) := by
  have hsignature : ∀ {known : List Tree} {start : Nat} {constructs : Bool}, low ≤ start →
      Yields low known (do
        let parts ← signatureParts parse constructs [.colon]
        endMember
        close start .other parts) ([·]) := fun hstart ↦
    .bind (yields_signatureParts hparse) fun _ ↦ .step fun _ ↦
      .close rfl hstart (by simp +contextual)
  refine .mark fun start hstart ↦ .step fun _ ↦ .ite (hsignature hstart) (.step fun _ ↦ .ite
    (.step fun _ ↦ hsignature hstart) (.step fun _ ↦ .step fun _ ↦ .step fun kind? ↦ ?_))
  split
  · exact yields_accessorSignature hparse hstart
  · exact .step fun _ ↦ .ite (yields_indexSignature hparse hstart)
      (yields_propertyOrMethod hparse hstart)

theorem yields_typeMembers (hparse : PlacesGoals parse) :
    Yields low known (typeMembers parse) ([·]) :=
  .mark fun _ hstart ↦ .step fun _ ↦ .bind (.treesUpTo (yields_typeMember hparse)) fun _ ↦
    .step fun _ ↦ .close rfl hstart (by simp +contextual)

/-! ### Names of types and literals -/

theorem yields_typeName : Yields low known typeName ([·]) :=
  .mark fun _ hstart ↦ .step fun _ ↦ .step fun _ ↦ .ite
    (.bind .leaf fun _ ↦ yields_dottedName hstart (by simp +contextual))
    (.ite (.bind yields_identifierNode fun _ ↦ yields_dottedName hstart (by simp +contextual))
      .failed)

theorem yields_typeArgumentsOnLine? (hparse : PlacesGoals parse) :
    Yields low known (typeArgumentsOnLine? parse) id :=
  .step fun _ ↦ .ite (.ret (by simp)) (yields_typeArguments? hparse)

theorem yields_typeReference (hparse : PlacesGoals parse) :
    Yields low known (typeReference parse) ([·]) :=
  .mark fun _ hstart ↦ .bind yields_typeName fun _ ↦ .bind (yields_typeArgumentsOnLine? hparse)
    fun _ ↦ .close rfl hstart (by simp +contextual)

theorem yields_importedName : Yields low known importedName ([·]) :=
  .mark fun _ hstart ↦ .bind yields_anyWord fun _ ↦ yields_dottedName hstart (by simp +contextual)

theorem yields_importedType (hparse : PlacesGoals parse) :
    Yields low known (importedType parse) ([·]) :=
  .mark fun _ hstart ↦ .step fun _ ↦ .step fun _ ↦ .bind yields_stringLiteral fun _ ↦ .step fun _ ↦
    .part (yields_object hparse) fun _ ↦ .step fun _ ↦ .step fun _ ↦ .part yields_importedName fun _ ↦
      .bind (yields_typeArgumentsOnLine? hparse) fun _ ↦ .close rfl hstart (by simp +contextual)

theorem yields_typeQuery (hparse : PlacesGoals parse) : Yields low known (typeQuery parse) ([·]) :=
  .mark fun _ hstart ↦ .step fun _ ↦ .step fun _ ↦ .ite
    (.bind (yields_importedType hparse) fun _ ↦ .close rfl hstart (by simp +contextual))
    (.bind yields_typeName fun _ ↦ .step fun _ ↦ .ite
      (.bind (yields_typeArgumentsOnLine? hparse) fun _ ↦ .close rfl hstart (by simp +contextual))
      (.given (.close rfl hstart (by simp +contextual))))

theorem yields_literalType (hparse : PlacesGoals parse) :
    Yields low known (literalType parse) ([·]) := by
  have hend : ∀ {known : List Tree} {start : Nat} {isNegative : Bool} {literal : Tree}, low ≤ start →
      Yields low (known ++ [literal]) (do
        let inner ← if isNegative then close start .other [literal] else pure literal
        close start .other [inner]) ([·]) := fun hstart ↦
    .ite (.bindAt (.close rfl hstart (by simp +contextual)) fun _ ↦
      .close rfl hstart (by simp)) (.given (.close rfl hstart (by simp +contextual)))
  refine .mark fun _ hstart ↦ .step fun _ ↦ .step fun next ↦ ?_
  extract_lets rest
  split
  · exact .bind (yields_template hparse) fun _ ↦ hend hstart
  · exact .bind yields_stringLiteral fun _ ↦ hend hstart
  · exact .bind .leaf fun _ ↦ hend hstart
  · exact .bind .leaf fun _ ↦ hend hstart
  · exact .bind .leaf fun _ ↦ hend hstart
  · exact .bind .leaf fun _ ↦ hend hstart
  · exact .failed

theorem yields_templateType (hparse : PlacesGoals parse) :
    Yields low known (templateType parse) ([·]) := by
  have htype : PlacesGoals fun _ ↦ parse .type := fun {low known _} _ ↦
    (hparse trivial : Yields low known (parse .type) ([·]))
  exact .mark fun _ hstart ↦ .bind (yields_templateParts htype) fun _ ↦
    .close rfl hstart (by simp +contextual)

/-! ### Objects and tuples -/

instance : Advances seesMappedType := by
  unfold seesMappedType
  infer_instance

instance : Advances eatSign := by
  unfold eatSign
  infer_instance

theorem yields_mappedType (hparse : PlacesGoals parse) :
    Yields low known (mappedType parse) ([·]) := by
  have hend : ∀ {parts : List Tree} {start : Nat}, low ≤ start → Yields low parts (do
      let type ← if ← eat .colon then pure [← parse .type] else pure []
      let _ ← eat .semicolon
      expect .rbrace
      close start .other (parts ++ type)) ([·]) := fun hstart ↦
    .step fun _ ↦ .part (hparse trivial) fun _ ↦ .step fun _ ↦ .step fun _ ↦
      .close rfl hstart (by simp +contextual)
  have hkeys : ∀ {known : List Tree} {start : Nat}, low ≤ start → Yields low known (do
      expect .lbrack
      let name ← bindingIdentifier
      expect .kwIn
      let keys ← parse .type
      let renamed ← if ← eat .kwAs then pure [← parse .type] else pure []
      expect .rbrack
      if ← eatSign then expect .question
      else
        let _ ← eat .question
      let type ← if ← eat .colon then pure [← parse .type] else pure []
      let _ ← eat .semicolon
      expect .rbrace
      close start .other (name :: keys :: renamed ++ type)) ([·]) := fun hstart ↦
    .step fun _ ↦ .bind yields_bindingIdentifier fun name ↦ .step fun _ ↦ .bind (hparse trivial)
      fun keys ↦ .step fun _ ↦ .part (hparse trivial) fun renamed ↦ .step fun _ ↦ .step fun _ ↦
        .knowing (name :: keys :: renamed) (by simp +contextual)
          (.ite (.step fun _ ↦ hend hstart) (.step fun _ ↦ hend hstart))
  exact .mark fun _ hstart ↦ .step fun _ ↦ .step fun _ ↦
    .ite (.step fun _ ↦ hkeys hstart) (.step fun _ ↦ hkeys hstart)

instance : Advances seesElementName := by
  unfold seesElementName
  infer_instance

theorem yields_namedElement (hparse : PlacesGoals parse) :
    Yields low known (namedElement parse) (fun element ↦ [element.1]) :=
  .mark fun _ hstart ↦ .step fun _ ↦ .mark fun _ hname ↦ .bind yields_anyWord fun _ ↦ .step fun _ ↦
    .step fun _ ↦ .step fun _ ↦ .step fun _ ↦ .step fun _ ↦ .bind (hparse trivial) fun _ ↦
      .step fun _ ↦ .bindAt (.close rfl hname (by simp +contextual)) fun _ ↦ .ite
        (.bindAt (.close rfl hstart (by simp +contextual)) fun _ ↦ .ret (by simp +contextual))
        (.ret (by simp +contextual))

theorem yields_tupleElement (hparse : PlacesGoals parse) :
    Yields low known (tupleElement parse) (fun element ↦ [element.1]) :=
  .step fun _ ↦ .ite (yields_namedElement hparse) (.mark fun _ hstart ↦ .step fun _ ↦ .ite
    (.bind (hparse trivial) fun _ ↦ .bindAt (.close rfl hstart (by simp +contextual)) fun _ ↦
      .ret (by simp +contextual))
    (.bind (hparse trivial) fun _ ↦ .ret (by simp +contextual)))

theorem yields_tupleType (hparse : PlacesGoals parse) : Yields low known (tupleType parse) ([·]) :=
  .mark fun _ hstart ↦ .step fun _ ↦ .bind (.commaList (yields_tupleElement hparse))
    fun elements ↦ .step fun _ ↦ .step fun _ ↦ .close rfl hstart fun _ h ↦ by
      simpa [List.map_eq_flatMap] using h.right

/-! ### Functions -/

instance : Advances (seesFunctionType parse) := by
  refine .step fun next ↦ ?_
  split
  · infer_instance
  · infer_instance
  · infer_instance
  · infer_instance
  · infer_instance

theorem yields_functionType (hparse : PlacesGoals parse) :
    Yields low known (functionType parse) ([·]) :=
  .mark fun _ hstart ↦ .step fun _ ↦ .step fun _ ↦ .bind (yields_signatureParts hparse) fun _ ↦
    .step fun _ ↦ .close rfl hstart (by simp +contextual)

/-! ### Primary types -/

theorem yields_parenthesizedType (hparse : PlacesGoals parse) :
    Yields low known (parenthesizedType parse) ([·]) :=
  .mark fun _ hstart ↦ .step fun _ ↦ .bind (hparse trivial) fun _ ↦ .step fun _ ↦
    .close rfl hstart (by simp +contextual)

theorem yields_assertionType (hparse : PlacesGoals parse) :
    Yields low known (assertionType parse) ([·]) :=
  .mark fun _ hstart ↦ .step fun _ ↦ .bind yields_anyWord fun subject ↦ .step fun _ ↦ .ite
    (.mark fun _ htype ↦ .bind (hparse trivial) fun _ ↦
      .bindAt (.wrap [subject] htype rfl nofun rfl (by simp +contextual)) fun _ ↦
        .given (.close rfl hstart (by simp +contextual)))
    (.given (.close rfl hstart (by simp +contextual)))

theorem yields_thisType (hparse : PlacesGoals parse) : Yields low known (thisType parse) ([·]) :=
  .mark fun _ hstart ↦ .bind .leaf fun word ↦ .step fun _ ↦ .step fun _ ↦ .ite
    (.step fun _ ↦ .mark fun _ htype ↦ .bind (hparse trivial) fun _ ↦
      .bindAt (.wrap [word] htype rfl nofun rfl (by simp +contextual)) fun _ ↦
        .close rfl hstart (by simp +contextual))
    (.ret (by simp +contextual))

theorem yields_questionedType (hparse : PlacesGoals parse) :
    Yields low known (questionedType parse) ([·]) :=
  .mark fun _ hstart ↦ .step fun _ ↦ .step fun _ ↦ .ite (.close rfl hstart (by simp))
    (.bind (hparse trivial) fun _ ↦ .close rfl hstart (by simp +contextual))

instance : Advances seesAssertion := by
  unfold seesAssertion
  infer_instance

theorem yields_primaryType (hparse : PlacesGoals parse) :
    Yields low known (primaryType parse) ([·]) := by
  refine .step fun next ↦ ?_
  split
  · exact .leaf
  · exact yields_questionedType hparse
  · exact yields_literalType hparse
  · exact yields_literalType hparse
  · exact yields_literalType hparse
  · exact yields_literalType hparse
  · exact yields_literalType hparse
  · exact yields_literalType hparse
  · exact .step fun _ ↦ .step fun _ ↦ .ite (yields_literalType hparse) .fail
  · exact yields_thisType hparse
  · exact yields_typeQuery hparse
  · exact .step fun _ ↦ .ite (yields_mappedType hparse) (yields_typeMembers hparse)
  · exact yields_tupleType hparse
  · exact yields_parenthesizedType hparse
  · exact yields_importedType hparse
  · exact .step fun _ ↦ .ite (yields_assertionType hparse) (yields_typeReference hparse)
  · exact yields_templateType hparse
  · exact .step fun _ ↦ .ite .leaf (yields_typeReference hparse)

theorem yields_nonArrayType (hparse : PlacesGoals parse) :
    Yields low known (nonArrayType parse) ([·]) :=
  .mark fun _ hstart ↦ .step fun _ ↦ .ite
    (.bind (yields_primaryType hparse) fun _ ↦ .close rfl hstart (by simp +contextual))
    (yields_primaryType hparse)

/-! ### Operators on types -/

instance : Advances beginsType := by
  unfold beginsType
  infer_instance

theorem yields_postfixStep (hparse : PlacesGoals parse) {type : Tree} (hstart : low ≤ start) :
    Yields low [type] (postfixStep parse start type) (·.toList.flatMap ([·])) := by
  have hgoOn : ∀ {label : Label} {parts known : List Tree},
      label.hasArguments = false → (∀ high, Placed low high known → Placed low high parts) →
      Yields low known (do return some (← close start label parts)) (·.toList.flatMap ([·])) :=
    fun hlabel hparts ↦ .bindAt (.close hlabel hstart hparts) fun _ ↦ .ret (by simp)
  refine .step fun _ ↦ .ite (.ret (by simp)) (.step fun next ↦ ?_)
  split
  · exact .step fun _ ↦ hgoOn rfl (by simp +contextual)
  · exact .step fun _ ↦ .ite (.ret (by simp)) (.step fun _ ↦ hgoOn rfl (by simp +contextual))
  · exact .step fun _ ↦ .step fun _ ↦ .ite
      (.bind (hparse trivial) fun _ ↦ .step fun _ ↦ hgoOn rfl (by simp +contextual))
      (.step fun _ ↦ hgoOn rfl (by simp +contextual))
  · exact .ret (by simp)

theorem yields_inferredConstraint (hparse : PlacesGoals parse) :
    Yields low known (inferredConstraint parse) id := by
  refine .bindAs (·.toList.flatMap ([·])) (.attempt (.step fun _ ↦ .bind (.within (hparse trivial))
    fun _ ↦ .step fun _ ↦ .step fun _ ↦ .step fun _ ↦ .ret (by simp +contextual)))
    fun constraint ↦ .ret ?_
  simp +contextual

theorem yields_inferredType (hparse : PlacesGoals parse) :
    Yields low known (inferredType parse) ([·]) :=
  .mark fun _ hstart ↦ .step fun _ ↦ .mark fun _ hname ↦ .bind yields_bindingIdentifier fun _ ↦
    .bind (yields_inferredConstraint hparse) fun _ ↦
      .bindAt (.close rfl hname (by simp +contextual)) fun _ ↦ .close rfl hstart (by simp +contextual)

theorem yields_typeOperator (hparse : PlacesGoals parse) :
    Yields low known (typeOperator parse) ([·]) := by
  refine .mark fun start hstart ↦ .step fun next ↦ ?_
  split
  · exact .step fun _ ↦ .bind (hparse trivial) fun _ ↦ .close rfl hstart (by simp +contextual)
  · exact .step fun _ ↦ .bind (hparse trivial) fun _ ↦ .close rfl hstart (by simp +contextual)
  · exact .step fun _ ↦ .bind (hparse trivial) fun _ ↦ .step fun _ ↦
      .close rfl hstart (by simp +contextual)
  · exact yields_inferredType hparse
  · exact .within (.bind (yields_nonArrayType hparse) fun _ ↦
      .iterate ([·]) (fun _ ↦ yields_postfixStep hparse hstart) (by simp +contextual))

theorem yields_joinedTypes {operator : Token} {part : Parser Tree}
    (hpart : ∀ {place : Nat}, Yields place [] part ([·])) :
    Yields low known (joinedTypes operator part) ([·]) :=
  .mark fun _ hstart ↦ .step fun _ ↦ .bind hpart fun _ ↦ .bind (.treesAfter hpart) fun _ ↦
    .ite (.close rfl hstart (by simp +contextual)) (.ret (by simp +contextual))

theorem yields_typeExpression (hparse : PlacesGoals parse) :
    Yields low known (typeExpression parse) ([·]) :=
  .step fun _ ↦ .ite (yields_functionType hparse) (.mark fun _ hstart ↦
    .bind (yields_joinedTypes (yields_joinedTypes (hparse trivial))) fun _ ↦
      .step fun _ ↦ .step fun _ ↦ .step fun _ ↦ .ite
        (.step fun _ ↦ .bind (.within (hparse trivial)) fun _ ↦ .step fun _ ↦
          .bind (.within (hparse trivial)) fun _ ↦ .step fun _ ↦
            .bind (.within (hparse trivial)) fun _ ↦ .close rfl hstart (by simp +contextual))
        (.ret (by simp +contextual)))

/-! ### Declarations of types -/

theorem yields_aliasedType (hparse : PlacesGoals parse) :
    Yields low known (aliasedType parse) ([·]) :=
  .step fun _ ↦ .step fun _ ↦ .ite .leaf (hparse trivial)

theorem yields_typeAlias (hparse : PlacesGoals parse) (hstart : low ≤ start) :
    Yields low known (typeAlias parse start) ([·]) :=
  .step fun _ ↦ .bind yields_bindingIdentifier fun _ ↦ .bind (yields_typeParameters? hparse) fun _ ↦
    .step fun _ ↦ .bind (yields_aliasedType hparse) fun _ ↦ .step fun _ ↦
      .close rfl hstart (by simp +contextual)

theorem yields_interface (hparse : PlacesGoals parse) (hstart : low ≤ start) :
    Yields low known (interface parse start) ([·]) :=
  .step fun _ ↦ .bind yields_bindingIdentifier fun _ ↦ .bind (yields_typeParameters? hparse) fun _ ↦
    .step fun _ ↦ .ite
      (.bind (yields_implementedType hparse) fun _ ↦
        .bind (.treesAfter (yields_implementedType hparse)) fun _ ↦
          .given (.bind (yields_typeMembers hparse) fun _ ↦
            .close rfl hstart (by simp +contextual)))
      (.given (.bind (yields_typeMembers hparse) fun _ ↦ .close rfl hstart (by simp +contextual)))

theorem yields_enumMemberName (hparse : PlacesGoals parse) :
    Yields low known (enumMemberName parse) ([·]) := by
  refine .step fun next ↦ ?_
  split
  · exact yields_stringLiteral
  · exact .step fun _ ↦ .step fun _ ↦ .ite
      (.bind (yields_template hparse) fun _ ↦ .step fun _ ↦ .ret (by simp +contextual))
      (.bind yields_stringLiteral fun _ ↦ .step fun _ ↦ .ret (by simp +contextual))
  · exact yields_anyWord

theorem yields_enumMember (hparse : PlacesGoals parse) : Yields low known (enumMember parse) ([·]) :=
  .mark fun _ hstart ↦ .bind (yields_enumMemberName hparse) fun _ ↦ .step fun _ ↦
    .part (yields_initialValue hparse) fun _ ↦ .close rfl hstart (by simp +contextual)

theorem yields_enumeration (hparse : PlacesGoals parse) (hstart : low ≤ start) :
    Yields low known (enumeration parse start) ([·]) :=
  .step fun _ ↦ .bind yields_bindingIdentifier fun name ↦ .mark fun _ hbody ↦ .step fun _ ↦
    .bind (.treesWithCommas (yields_enumMember hparse)) fun _ ↦ .step fun _ ↦
      .bindAt (.wrap [name] hbody rfl nofun rfl (by simp +contextual)) fun _ ↦
        .close rfl hstart (by simp +contextual)

/-- A name of a namespace, with a node that stands for the offset that it begins at. -/
def namespaceParts (name : Nat × Tree) : List Tree := [.node .other ⟨name.1, 0⟩ [], name.2]

theorem yields_nestNamespaces {body : Tree} (names : List (Nat × Tree)) :
    ∀ {known : List Tree} (before : List Tree), (∀ high, Placed low high known →
        Placed low high (before ++ names.flatMap namespaceParts ++ [body])) →
      Yields low known (nestNamespaces body names) (before ++ [·]) := by
  induction names with
  | nil => exact fun before h ↦ .ret (by simpa using h)
  | cons name inner ih =>
    obtain ⟨start, name⟩ := name
    intro known before h
    have hnested := ih (before ++ namespaceParts (start, name)) (by simpa using h)
    refine .bindAt hnested fun nested ↦ .supposing fun high hplaced ↦ ?_
    have hstart : low ≤ start := by
      simp only [namespaceParts, Tree.placed_append, Tree.placed_cons, Tree.isPlaced_leaf_iff]
        at hplaced
      exact hplaced.1.2.1.1.1
    exact .wrap before hstart rfl (by simp) rfl (by simp +contextual [namespaceParts])

theorem yields_namespaceBody (hparse : PlacesGoals parse) (hstart : low ≤ start) :
    Yields low known (namespaceBody parse start) ([·]) :=
  .bind yields_bindingIdentifier fun first ↦ .bindAs (·.flatMap namespaceParts)
    (.many (.step fun _ ↦ .ite (.mark fun _ hinner ↦ .bind yields_bindingIdentifier fun _ ↦
      .ret (by simp +contextual [namespaceParts, hinner])) (.ret (by simp)))) fun others ↦
    .bind (yields_block rfl hparse) fun body ↦ yields_nestNamespaces _ [] fun high h ↦ by
      have hparts : Placed low high ([first] ++ (others.flatMap namespaceParts ++ [body])) :=
        (Tree.placed_append.mp (by simpa only [List.append_assoc] using h)).2.1
      exact Tree.placed_cons.mpr ⟨Tree.isPlaced_leaf_iff.mpr ⟨hstart, Nat.zero_le high⟩,
        fun _ _ ↦ Tree.apart_other_leaf, hparts⟩

theorem yields_namespaceDeclaration (hparse : PlacesGoals parse) (hstart : low ≤ start) :
    Yields low known (namespaceDeclaration parse start) ([·]) := by
  have hend : ∀ {known : List Tree} {name : Tree} {body : List Tree},
      (∀ high, Placed low high known → Placed low high (name :: body)) →
      Yields low known (do
        if body.isEmpty then endStatement
        close start .other (name :: body)) ([·]) := fun h ↦
    .ite (.step fun _ ↦ .close rfl hstart h) (.close rfl hstart h)
  exact .step fun _ ↦ .step fun _ ↦ .step fun _ ↦ .ite
    (.bind yields_stringLiteral fun _ ↦ .step fun _ ↦
      .part (yields_block rfl hparse) fun _ ↦ hend (by simp +contextual))
    (yields_namespaceBody hparse hstart)

theorem yields_globalDeclaration (hparse : PlacesGoals parse) (hstart : low ≤ start) :
    Yields low known (globalDeclaration parse start) ([·]) :=
  .step fun _ ↦ .bind (yields_block rfl hparse) fun _ ↦ .close rfl hstart (by simp +contextual)

theorem yields_aliasRest {name : Tree} (hstart : low ≤ start) :
    Yields low [name] (aliasRest start name) ([·]) :=
  .step fun _ ↦ .mark fun _ htarget ↦ .step fun _ ↦ .ite
    (.step fun _ ↦ .step fun _ ↦ .bind yields_stringLiteral fun _ ↦ .step fun _ ↦
      .bindAt (.wrap [name] htarget rfl nofun rfl (by simp +contextual)) fun _ ↦ .step fun _ ↦
        .close rfl hstart (by simp +contextual))
    (.bind yields_typeName fun _ ↦ .step fun _ ↦ .close rfl hstart (by simp +contextual))

end SsrBuild.Grammar
