import SsrBuild.Grammar.Export
import SsrBuild.Proofs.Grammar.TypePlaces

/-!
Where the nodes of declarations, imports and exports stand.
-/

set_option autoImplicit false

namespace SsrBuild.Grammar

open Grammar.Parser
open SsrBuild.Tree (Placed)

variable {parse : Goal → Parser Tree} {low start : Nat} {known decorated : List Tree}
  {given : List Token}

/-! ### Variables -/

/-- The trees of a declared variable. -/
def Declarator.trees (declarator : Declarator) : List Tree := [declarator.tree]

@[simp] theorem flatMap_declaratorTrees (declared : List Declarator) :
    declared.flatMap Declarator.trees = declared.map Declarator.tree :=
  List.map_eq_flatMap.symm

theorem yields_declarator (hparse : PlacesGoals parse) :
    Yields low known (declarator parse) Declarator.trees := by
  have hend : ∀ {known : List Tree} {start : Nat} {target : Tree} {assigned : Bool}, low ≤ start →
      Yields low (known ++ [target]) (do
        let type ← typeAnnotation? parse
        let first ← if ← eat .assign then pure [← parse (.assignment true)] else pure []
        complainIf (assigned && (type.isEmpty || !first.isEmpty))
        let tree ← close start .declarator (target :: type ++ first)
        return (⟨tree, target, !first.isEmpty⟩ : Declarator)) Declarator.trees := fun hstart ↦
    .bind (yields_typeAnnotation? hparse) fun _ ↦ .step fun _ ↦ .part (hparse trivial) fun _ ↦
      .step fun _ ↦ .bindAt (.close rfl hstart (by simp +contextual)) fun _ ↦
        .ret (by simp [Declarator.trees])
  exact .mark fun _ hstart ↦ .bind (hparse trivial) fun _ ↦ .step fun _ ↦ .step fun _ ↦
    .choice fun _ ↦ hend hstart

theorem yields_declarators (hparse : PlacesGoals parse) :
    Yields low known (declarators parse) (·.map Declarator.tree) :=
  .bind (yields_declarator hparse) fun _ ↦ .bind (.manyAfter (yields_declarator hparse)) fun _ ↦
    .ret (by simp +contextual [Declarator.trees])

instance (keyword : Token) (declared : List Declarator) : Advances (requireValues keyword declared) :=
  inferInstanceAs (Advances (read >>= fun _ ↦ complainIf _))

theorem yields_variableStatement (hparse : PlacesGoals parse) {alone : Bool} (hstart : low ≤ start) :
    Yields low known (variableStatement parse start alone) ([·]) :=
  .step fun _ ↦ .step fun _ ↦ .bind (yields_declarators hparse) fun _ ↦ .step fun _ ↦ .step fun _ ↦
    .step fun _ ↦ .close rfl hstart (by simp +contextual)

instance : Advances seesUsing := by
  refine .step fun next ↦ ?_
  split
  all_goals infer_instance

theorem yields_resources (hparse : PlacesGoals parse) {inLoop : Bool} :
    Yields low known (resources parse inLoop) id :=
  .step fun _ ↦ .step fun _ ↦ .bind (yields_declarators hparse) fun _ ↦ .step fun _ ↦ .step fun _ ↦
    .ret (by simp +contextual)

theorem yields_resourceStatement (hparse : PlacesGoals parse) {alone : Bool} :
    Yields low known (resourceStatement parse alone) ([·]) :=
  .mark fun _ hstart ↦ .bind (yields_resources hparse) fun _ ↦ .step fun _ ↦ .step fun _ ↦
    .close rfl hstart (by simp +contextual)

/-! ### Declarations -/

instance : Advances isDeclarationModifier := by
  unfold isDeclarationModifier
  infer_instance

instance : Advances declarationModifiers := by
  unfold declarationModifiers
  infer_instance

theorem yields_functionDeclaration (hparse : PlacesGoals parse) (hstart : low ≤ start) :
    Yields low known (functionDeclaration parse start given) ([·]) :=
  .step fun _ ↦ .bindAt (yields_functionFrom hparse hstart) fun _ ↦ .step fun _ ↦
    .ret (by simp)

theorem yields_typeDeclaration (hparse : PlacesGoals parse) (hstart : low ≤ start) :
    Yields low known (typeDeclaration parse start given) ([·]) := by
  refine .step fun _ ↦ .step fun _ ↦ .step fun next ↦ ?_
  extract_lets enumModifiers
  split
  · exact .step fun _ ↦ yields_enumeration hparse hstart
  · refine .step fun _ ↦ .step fun _ ↦ .step fun _ ↦ .ite (.step fun _ ↦ ?_) ?_
    all_goals exact .bind yields_bindingIdentifier fun name ↦
      .knowing [name] (by simp +contextual) (yields_aliasRest hstart)
  · refine .step fun _ ↦ ?_
    split
    · exact yields_typeAlias hparse hstart
    · exact yields_interface hparse hstart
    · exact yields_namespaceDeclaration hparse hstart
    · exact yields_namespaceDeclaration hparse hstart
    · exact yields_globalDeclaration hparse hstart
    · exact .fail

theorem yields_declaration (hparse : PlacesGoals parse) (hstart : low ≤ start) :
    Yields low decorated (declaration parse start decorated given) ([·]) := by
  refine .step fun next ↦ .step fun _ ↦ ?_
  split
  · exact .step fun _ ↦ yields_classFrom hparse hstart
  · exact .step fun _ ↦ yields_variableStatement hparse hstart
  · exact .step fun _ ↦ yields_variableStatement hparse hstart
  · exact .step fun _ ↦ yields_variableStatement hparse hstart
  · exact yields_functionDeclaration hparse hstart
  · exact .step fun _ ↦ .ite (.step fun _ ↦ yields_functionDeclaration hparse hstart)
      (yields_typeDeclaration hparse hstart)

theorem yields_modifiedDeclaration (hparse : PlacesGoals parse) (hstart : low ≤ start) :
    Yields low decorated (modifiedDeclaration parse start decorated) ([·]) :=
  .step fun _ ↦ .choice fun _ ↦ .within (yields_declaration hparse hstart)

instance : Advances seesModifiedDeclaration := .of_state_eq fun _ _ ↦ rfl

instance : Advances seesTypedDeclaration := by
  unfold seesTypedDeclaration
  infer_instance

/-! ### Imports -/

theorem yields_importAttribute :
    Yields low known importAttribute (fun pair ↦ [pair.1]) :=
  .mark fun _ hstart ↦ .step fun _ ↦ .step fun _ ↦ .ite
    (.bind yields_stringLiteral fun _ ↦ .step fun _ ↦ .bind yields_stringLiteral fun _ ↦
      .bindAt (.close rfl hstart (by simp +contextual)) fun _ ↦ .ret (by simp +contextual))
    (.bind yields_anyWord fun _ ↦ .step fun _ ↦ .bind yields_stringLiteral fun _ ↦
      .bindAt (.close rfl hstart (by simp +contextual)) fun _ ↦ .ret (by simp +contextual))

theorem yields_importAttributes? : Yields low known importAttributes? id :=
  .step fun _ ↦ .step fun _ ↦ .step fun _ ↦ .ite
    (.step fun _ ↦ .mark fun _ hstart ↦ .step fun _ ↦
      .bind (.commaList yields_importAttribute) fun _ ↦ .step fun _ ↦ .step fun _ ↦
        .bindAt (.close rfl hstart (by simp +contextual [List.map_eq_flatMap])) fun _ ↦
          .ret (by simp +contextual))
    (.ret (by simp))

theorem yields_moduleName : Yields low known moduleName ([·]) :=
  .step fun _ ↦ .step fun _ ↦ .step fun _ ↦ .ite yields_stringLiteral yields_anyWord

instance : Advances seesTypeMark := by
  unfold seesTypeMark
  infer_instance

instance (inTypes : Bool) : Advances (takeTypeMark inTypes) := by
  refine .step fun found ↦ ?_
  split
  all_goals infer_instance

theorem yields_importSpecifier {inTypes : Bool} :
    Yields low known (importSpecifier inTypes) ([·]) := by
  refine .mark fun _ hstart ↦ .step fun _ ↦ .step fun _ ↦ .step fun _ ↦ .bind yields_moduleName
    fun name ↦ .step fun _ ↦ .ite
      (.step fun _ ↦ .step fun _ ↦ .bind yields_bindingIdentifier fun _ ↦
        .close rfl hstart (by simp +contextual))
      (.step fun _ ↦ .step fun _ ↦ .close rfl hstart fun high h ↦ ?_)
  have hname : name.IsPlaced low high := h.last
  simpa [hname] using hname.1

theorem yields_importedNamespace : Yields low known importedNamespace ([·]) :=
  .mark fun _ hstart ↦ .step fun _ ↦ .step fun _ ↦ .bind yields_bindingIdentifier fun _ ↦
    .close rfl hstart (by simp +contextual)

theorem yields_importedNames {inTypes : Bool} : Yields low known (importedNames inTypes) id :=
  .step fun _ ↦ .ite (.bind yields_importedNamespace fun _ ↦ .ret (by simp +contextual))
    (.step fun _ ↦ .bind (.treesWithCommas yields_importSpecifier) fun _ ↦ .step fun _ ↦
      .ret (by simp +contextual))

instance : Advances importHead := by
  refine .step fun next ↦ ?_
  split
  all_goals infer_instance

theorem yields_defaultImport : Yields low known defaultImport ([·]) :=
  .mark fun _ hstart ↦ .bind yields_bindingIdentifier fun _ ↦ .close rfl hstart (by simp +contextual)

theorem yields_importClause {head : ImportHead} : Yields low known (importClause head) id :=
  .step fun _ ↦ .ite
    (.bind yields_defaultImport fun _ ↦ .step fun _ ↦ .ite
      (.step fun _ ↦ .bind yields_importedNames fun _ ↦ .ret (by simp +contextual))
      (.ret (by simp +contextual)))
    yields_importedNames

instance : Advances seesAlias := by
  unfold seesAlias
  infer_instance

theorem yields_importDeclaration : Yields low known importDeclaration ([·]) := by
  have hsource : ∀ {bound : List Tree} {start : Nat}, low ≤ start → Yields low bound (do
      let source ← stringLiteral
      let attributes ← importAttributes?
      endStatement
      close start .importDeclaration (bound ++ source :: attributes)) ([·]) := fun hstart ↦
    .bind yields_stringLiteral fun _ ↦ .bind yields_importAttributes? fun _ ↦ .step fun _ ↦
      .close rfl hstart (by simp +contextual)
  have hrest : ∀ {known : List Tree} {start : Nat} {head : ImportHead}, low ≤ start →
      Yields low known (do
        if ← seesAlias then
          let name ← bindingIdentifier
          aliasRest start name
        else
          let bound ← if head == .plain && (← sees .string) then pure []
            else
              let bound ← importClause head
              expect .kwFrom
              pure bound
          let source ← stringLiteral
          let attributes ← importAttributes?
          endStatement
          close start .importDeclaration (bound ++ source :: attributes)) ([·]) := fun hstart ↦
    .step fun _ ↦ .ite
      (.bind yields_bindingIdentifier fun name ↦
        .knowing [name] (by simp +contextual) (yields_aliasRest hstart))
      (.step fun _ ↦ .ite (.given (.knowing [] (by simp) (hsource hstart)))
        (.bind yields_importClause fun bound ↦ .step fun _ ↦
          .given (.knowing bound (by simp +contextual) (hsource hstart))))
  exact .mark fun _ hstart ↦ .step fun _ ↦ .step fun _ ↦
    .ite (.step fun _ ↦ hrest hstart) (hrest hstart)

/-! ### Exports -/

instance (name : String) : Advances (exportName name) := by
  have hnoted : Advances (modify fun s => { s with exported := name :: s.exported } : Parser Unit) :=
    .modify fun s horderly ↦ ⟨horderly, Nat.le_refl _, id⟩
  unfold exportName
  infer_instance

theorem advances_exportNames (names : List String) : Advances (exportNames names) := by
  induction names with
  | nil => exact inferInstanceAs (Advances (pure ()))
  | cons name rest ih => exact .bind inferInstance fun _ ↦ ih

instance (names : List String) : Advances (exportNames names) := advances_exportNames names

/-- The trees of a name in a list of exports, with a node that stands for the whole. -/
def ExportSpecifier.trees (specifier : ExportSpecifier) : List Tree :=
  [.node .other ⟨specifier.start, specifier.stop⟩ [], specifier.local_, specifier.exported]

theorem isPlaced_exportSpecifier {high : Nat} {hasSource : Bool} {specifier : ExportSpecifier}
    (h : Placed low high specifier.trees) : (specifier.toTree hasSource).IsPlaced low high := by
  simp only [ExportSpecifier.trees, Tree.placed_cons, Tree.isPlaced_leaf_iff] at h
  obtain ⟨hspan, -, hlocal, hbetween, hexported, -⟩ := h
  refine (Tree.isPlaced_node_iff rfl).mpr ⟨hspan, ?_⟩
  split
  · simpa using ⟨hlocal.2, hbetween _ List.mem_cons_self, hexported.2⟩
  · simpa using ⟨hlocal.leafAt.2, hexported.2⟩

/-- The node of a name in a list is apart from what its parts are apart from. -/
theorem apart_exportSpecifier {hasSource : Bool} {specifier : ExportSpecifier} {other : Tree}
    (h : ∀ part ∈ specifier.trees, part.Apart other) :
    (specifier.toTree hasSource).Apart other := by
  have hlocal : specifier.local_.Apart other := h _ (by simp [ExportSpecifier.trees])
  have hexported : specifier.exported.Apart other := h _ (by simp [ExportSpecifier.trees])
  unfold ExportSpecifier.toTree
  split
  · exact Tree.apart_node_of_children rfl nofun (by simp [hlocal, hexported])
  · exact Tree.apart_node_of_children rfl nofun (by simp [hexported])

theorem placed_exportSpecifiers {high : Nat} {hasSource : Bool} {specifiers : List ExportSpecifier}
    {source : List Tree} (h : Placed low high (specifiers.flatMap ExportSpecifier.trees ++ source)) :
    Placed low high (specifiers.map (ExportSpecifier.toTree hasSource) ++ source) := by
  induction specifiers with
  | nil => exact h
  | cons specifier rest ih =>
    rw [List.flatMap_cons, List.append_assoc] at h
    obtain ⟨hspecifier, hrest, hbetween⟩ := Tree.placed_append.mp h
    refine Tree.placed_cons.mpr ⟨isPlaced_exportSpecifier hspecifier, fun other hother ↦ ?_, ih hrest⟩
    refine apart_exportSpecifier fun part hpart ↦ ?_
    rcases List.mem_append.mp hother with hother | hother
    · obtain ⟨another, hanother, rfl⟩ := List.mem_map.mp hother
      exact (apart_exportSpecifier fun found hfound ↦ (hbetween part hpart found
        (List.mem_append_left _ (List.mem_flatMap.mpr ⟨another, hanother, hfound⟩))).symm).symm
    · exact hbetween part hpart other (List.mem_append_right _ hother)

/-- A name of what a module exports is a word or a string. -/
theorem isBare_moduleName : Ensures (fun _ ↦ True) moduleName fun _ tree ↦ tree.IsBare := by
  have hclose : ∀ {start : Nat} {label : Label}, label.isConstruction = false →
      label ≠ .formalParameters →
      Ensures (fun _ ↦ True) (close start label []) fun _ tree ↦ tree.IsBare := by
    intro start label hlabel hlist context s result next hrun horderly _
    obtain ⟨hresult, rfl⟩ := Prod.mk.inj hrun
    obtain rfl := Except.ok.inj hresult
    exact ⟨.refl horderly, Tree.isBare_leaf hlabel hlist⟩
  have hfail : Ensures (fun _ ↦ True) (fail : Parser Tree) fun _ tree ↦ tree.IsBare :=
    fun _ _ _ _ hrun ↦ nomatch hrun
  refine .bind Advances.ensures fun _ ↦ .bind Advances.ensures fun _ ↦
    .bind Advances.ensures fun isString ↦ ?_
  split_ifs
  · refine .bind Advances.ensures fun stands ↦ ?_
    split_ifs
    · exact .bind Advances.ensures fun _ ↦ .bind Advances.ensures fun _ ↦ hclose rfl nofun
    · exact hfail
  · refine .bind Advances.ensures fun stands ↦ ?_
    split_ifs
    · exact .bind Advances.ensures fun _ ↦ .bind Advances.ensures fun _ ↦ hclose rfl nofun
    · exact hfail

theorem yields_exportSpecifier {inTypes : Bool} :
    Yields low known (exportSpecifier inTypes) ExportSpecifier.trees := by
  refine .mark fun _ hstart ↦ .step fun _ ↦ .step fun _ ↦ .step fun _ ↦
    .bindWith yields_moduleName isBare_moduleName fun name hname ↦ .step fun _ ↦ .ite ?_ ?_
  · exact .step fun _ ↦ .bind yields_moduleName fun _ ↦ .given (.step fun _ ↦
      .spanFrom hstart fun _ ↦ .ret (by simp +contextual [ExportSpecifier.trees]))
  · exact .given (.step fun _ ↦ .spanFrom hstart fun _ ↦
      .ret (by simp +contextual [ExportSpecifier.trees, hname.apart name]))

theorem yields_exportSource : Yields low known exportSource id :=
  .step fun _ ↦ .step fun _ ↦ .ite (.bind yields_stringLiteral fun _ ↦
    .bind yields_importAttributes? fun _ ↦ .ret (by simp +contextual)) (.ret (by simp))

theorem yields_exportList {inTypes : Bool} (hstart : low ≤ start) :
    Yields low known (exportList start inTypes) ([·]) := by
  refine .step fun _ ↦ .bind (.commaList yields_exportSpecifier) fun specifiers ↦
    .step fun _ ↦ .bind yields_exportSource fun source ↦ .step fun _ ↦ .step fun _ ↦
      .close rfl hstart fun high h ↦ placed_exportSpecifiers ?_
  rw [List.append_assoc] at h
  exact h.right

theorem yields_exportAll (hstart : low ≤ start) : Yields low known (exportAll start) ([·]) := by
  have hend : ∀ {exported : List Tree}, Yields low exported (do
      expect .kwFrom
      let source ← stringLiteral
      let attributes ← importAttributes?
      endStatement
      close start .other (exported ++ source :: attributes)) ([·]) :=
    .step fun _ ↦ .bind yields_stringLiteral fun _ ↦ .bind yields_importAttributes? fun _ ↦
      .step fun _ ↦ .close rfl hstart (by simp +contextual)
  exact .knowing [] (by simp) (.step fun _ ↦ .step fun _ ↦ .ite
    (.step fun _ ↦ .step fun _ ↦ .bind yields_moduleName fun _ ↦ .given hend) (.given hend))

instance : Advances seesAbstractClass := by
  unfold seesAbstractClass
  infer_instance

theorem yields_defaultExport (hparse : PlacesGoals parse) (hstart : low ≤ start) :
    Yields low decorated (defaultExport parse start decorated) ([·]) := by
  refine .step fun _ ↦ .step fun _ ↦ .mark fun _ hinner ↦ .step fun _ ↦ .ite
    (.bindAt (yields_classFrom hparse hinner) fun _ ↦ .close rfl hstart (by simp +contextual)) ?_
  refine .step fun _ ↦ .ite (.step fun _ ↦ .bind (yields_decorators hparse) fun more ↦
    .bindAt (.knowing more (by simp +contextual) (yields_decoratedClass hparse hinner)) fun _ ↦
      .close rfl hstart (by simp +contextual)) ?_
  refine .step fun _ ↦ .ite (.step fun _ ↦ .bindAt (yields_classFrom hparse hinner) fun _ ↦
    .close rfl hstart (by simp +contextual)) ?_
  refine .step fun _ ↦ .step fun _ ↦ .step fun _ ↦ .ite
    (.bindAt (yields_interface hparse hinner) fun _ ↦ .close rfl hstart (by simp +contextual)) ?_
  exact .step fun _ ↦ .step fun _ ↦ .ite
    (.step fun _ ↦ .bindAt (yields_functionFrom hparse hinner) fun _ ↦
      .close rfl hstart (by simp +contextual))
    (.bind (hparse trivial) fun _ ↦ .step fun _ ↦ .close rfl hstart (by simp +contextual))

theorem yields_exportedDeclaration (hparse : PlacesGoals parse) (hstart : low ≤ start) :
    Yields low decorated (exportedDeclaration parse start decorated) ([·]) :=
  .mark fun _ hinner ↦ .bind (yields_decorators hparse) fun more ↦ .step fun _ ↦ .ite
    (.bindAt (.knowing decorated (by simp +contextual) (yields_modifiedDeclaration hparse hinner))
      fun _ ↦ .step fun _ ↦ .close rfl hstart (by simp +contextual))
    (.bindAt (.knowing more (by simp +contextual) (yields_decoratedClass hparse hinner)) fun _ ↦
      .step fun _ ↦ .close rfl hstart (by simp +contextual))

theorem yields_exportAssignment (hparse : PlacesGoals parse) (hstart : low ≤ start) :
    Yields low known (exportAssignment parse start) ([·]) :=
  .step fun _ ↦ .bind (hparse trivial) fun _ ↦ .step fun _ ↦ .close rfl hstart (by simp +contextual)

theorem yields_exportNamespace (hstart : low ≤ start) :
    Yields low known (exportNamespace start) ([·]) :=
  .step fun _ ↦ .step fun _ ↦ .bind yields_anyWord fun _ ↦ .step fun _ ↦
    .close rfl hstart (by simp +contextual)

theorem yields_exportDeclaration (hparse : PlacesGoals parse) (hstart : low ≤ start) :
    Yields low decorated (exportDeclaration parse start decorated) ([·]) := by
  refine .step fun _ ↦ .step fun typed ↦ .step fun next ↦ ?_
  split
  · exact yields_defaultExport hparse hstart
  · exact yields_exportAll hstart
  · exact yields_exportList hstart
  · exact .ite (yields_exportAssignment hparse hstart) .fail
  · exact .step fun _ ↦ .ite (yields_exportNamespace hstart) (.step fun _ ↦ .ite
      (.step fun _ ↦ yields_exportList hstart) (.step fun _ ↦ .ite
        (.step fun _ ↦ yields_exportAll hstart) (yields_exportedDeclaration hparse hstart)))

end SsrBuild.Grammar
