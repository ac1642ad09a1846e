import SsrBuild.Entry.PerRequest
import SsrBuild.Proofs.Entry.Site
import SsrBuild.Proofs.Query.EditList
import SsrBuild.Proofs.Query.ParsedPlaces

/-!
What becomes of an entry module. Two spans of its text are replaced at most: the construction of the
app by a call with the same options, and the parameters of the exported function by the context of
the request (`Site.edits?`). The second edit takes back the first one if the construction lies inside
the span of the parameters, as it does in a receiver (`rewriteAt_eq`). All else stays, and a module
without a site stays as it is (`perRequest_eq`).
-/

set_option autoImplicit false

namespace SsrBuild.Entry

open Text (Span slice?)

/-! ### The edits of a site -/

/-- The options of the app: the first argument of its construction as written, if it has any. -/
def writtenOptions? (source : List Char) (construction : Row) : Option (List Char) :=
  match construction.arguments.head? with
  | some span => slice? source span.start span.stop
  | none => some "{}".toList

/-- The construction becomes a call that takes the options and the context. -/
def constructionEdit? (source : List Char) (rows : List Row) (construction : Nat) :
    Option Edit := do
  let row ← rows[construction]?
  let options ← writtenOptions? source row
  return ⟨row.span, "initApp(".toList ++ options ++ ", context)".toList⟩

/-- The parameters become the context, in parentheses if they are written with any. -/
def parametersEdit? (source : List Char) (rows : List Row) (parameters : Nat) : Option Edit := do
  let row ← rows[parameters]?
  let written ← slice? source row.span.start row.span.stop
  return ⟨row.span,
    if written.head? = some '(' then "(context)".toList else "context".toList⟩

/-- The edits of an entry module. -/
def Site.edits? (source : List Char) (rows : List Row) (site : Site) : Option (List Edit) := do
  let construction ← constructionEdit? source rows site.construction
  match site.parameters with
  | none => return [construction]
  | some list => return [construction, ← parametersEdit? source rows list]

/-- The edit of the parameters at a site, if there are any. -/
def Site.parametersEdit? (source : List Char) (rows : List Row) (site : Site) : Option Edit :=
  site.parameters.bind (Entry.parametersEdit? source rows)

/-- The edits at a site are that of the construction and, if there are parameters, that of these. -/
theorem of_edits? {source : List Char} {rows : List Row} {site : Site} {edits : List Edit}
    (h : site.edits? source rows = some edits) :
    (site.parametersEdit? source rows).isSome = site.parameters.isSome ∧
      ∃ row options, rows[site.construction]? = some row ∧
        writtenOptions? source row = some options ∧
        edits = ⟨row.span, "initApp(".toList ++ options ++ ", context)".toList⟩ ::
          (site.parametersEdit? source rows).toList := by
  obtain ⟨edit, hedit, hrest⟩ := Option.bind_eq_some_iff.mp h
  obtain ⟨row, hrow, hwritten⟩ := Option.bind_eq_some_iff.mp hedit
  obtain ⟨options, hoptions, hnew⟩ := Option.bind_eq_some_iff.mp hwritten
  obtain rfl := Option.some.inj hnew
  obtain ⟨construction, parameters⟩ := site
  cases parameters with
  | none => exact ⟨rfl, row, options, hrow, hoptions, (Option.some.inj hrest).symm⟩
  | some list =>
    obtain ⟨parametersEdit, hparametersEdit, hlist⟩ := Option.bind_eq_some_iff.mp hrest
    obtain rfl := Option.some.inj hlist
    have hsome : Site.parametersEdit? source rows ⟨construction, some list⟩ = some parametersEdit :=
      hparametersEdit
    rw [hsome]
    exact ⟨rfl, row, options, hrow, hoptions, rfl⟩

/-- The edit of the parameters has their span. -/
theorem Site.span_of_parametersEdit? {source : List Char} {rows : List Row} {site : Site}
    {edit : Edit} (h : site.parametersEdit? source rows = some edit) :
    ∃ list listRow, site.parameters = some list ∧ rows[list]? = some listRow ∧
      edit.span = listRow.span := by
  obtain ⟨list, hlist, h⟩ := Option.bind_eq_some_iff.mp h
  obtain ⟨listRow, hlistRow, h⟩ := Option.bind_eq_some_iff.mp h
  obtain ⟨written, -, h⟩ := Option.bind_eq_some_iff.mp h
  obtain rfl := Option.some.inj h
  exact ⟨list, listRow, hlist, hlistRow, rfl⟩

/-- What is asked of the spans at a site: those of the construction, of its first argument and of the
list of parameters go forward, and the construction does not begin where the list begins. -/
structure Site.GoesForward (rows : List Row) (site : Site) : Prop where
  construction : ∀ row ∈ rows[site.construction]?, row.span.start ≤ row.span.stop
  options : ∀ row ∈ rows[site.construction]?, ∀ span ∈ row.arguments.head?, span.start ≤ span.stop
  parameters : ∀ list ∈ site.parameters, ∀ listRow ∈ rows[list]?,
    listRow.span.start ≤ listRow.span.stop
  begins : ∀ row ∈ rows[site.construction]?, ∀ list ∈ site.parameters, ∀ listRow ∈ rows[list]?,
    row.span.start ≠ listRow.span.start

/-- The construction at a site is clear of the list of parameters. -/
def Site.IsClear (rows : List Row) (site : Site) : Prop :=
  ∀ row ∈ rows[site.construction]?, ∀ list ∈ site.parameters, ∀ listRow ∈ rows[list]?,
    row.span.IsClearOf listRow.span

/-- In a program the construction at a site is clear of the list of parameters. -/
theorem isClear_of_site? {dialect : Grammar.Dialect} {source : List Char}
    {document : Document} (hparse : Document.parse 0 dialect source = .ok document) {site : Site}
    (hsite : site? document.rows = some site) : site.IsClear document.rows := by
  intro row hrow list hlist listRow hlistRow
  obtain ⟨⟨found, hfound, hkind⟩, hlists⟩ :=
    of_site? (Document.isFresh_of_parse hparse).isTable hsite
  obtain ⟨⟨foundList, hfoundList, hlistKind⟩, hunrelated⟩ := hlists list hlist
  obtain rfl := Option.some.inj (hfound.symm.trans hrow)
  obtain rfl := Option.some.inj (hfoundList.symm.trans hlistRow)
  exact Document.isClearOf_parameters hparse hrow hkind hlistRow hlistKind hunrelated

/-! ### The fragments that are put in -/

/-- The name of the function is an identifier. -/
theorem identifier_initializer :
    Fragment.identifier initializer = .ok (.source "initApp".toList) := by
  have hname : Text.isIdentifierName initializer = true := by decide +kernel
  exact if_pos hname

/-- The name of the context is an identifier. -/
theorem identifier_context : Fragment.identifier context = .ok (.source "context".toList) := by
  have hname : Text.isIdentifierName context = true := by decide +kernel
  exact if_pos hname

/-- No options are an expression. -/
theorem parseExpression_noOptions :
    Fragment.parseExpression noOptions = .ok (.source "{}".toList) := by
  have haccepted : (Grammar.parseExpression Fragment.expressionDialect noOptions).isSome = true := by
    decide +kernel
  obtain ⟨tree, htree⟩ := Option.isSome_iff_exists.mp haccepted
  have htrim : Text.trim noOptions = "{}".toList := by decide +kernel
  rw [Fragment.parseExpression, htree, ← htrim]

variable {document : Document}

/-- The text of a node of a parsed document is its slice of the source, if its span goes forward. -/
theorem text_of_isFresh (hfresh : document.IsFresh) {index : Nat} {row : Row}
    (hrow : document.rows[index]? = some row) (hle : row.span.start ≤ row.span.stop) :
    ∃ whole, slice? document.source row.span.start row.span.stop = some whole ∧
      document.text (document.handle index) = .ok whole := by
  obtain ⟨hstart, hstop⟩ := hfresh.boundary row (List.mem_of_getElem? hrow)
  obtain ⟨whole, hwhole⟩ := Text.exists_slice? hstart hstop hle
  refine ⟨whole, hwhole, (Document.text_of_row (hfresh.row_handle hrow)).trans ?_⟩
  rw [Document.render, hfresh.edits, List.filter_nil, Document.splice, hwhole]

/-- A call of the function with some options and the context has the text of the edit. -/
theorem renderFragment_initializerCall {options : Fragment} {text : List Char}
    (hoptions : document.renderFragment options = .ok text) :
    document.renderFragment
      (.call (.source "initApp".toList) [options, .source "context".toList]) =
        .ok ("initApp(".toList ++ text ++ ", context)".toList) := by
  have hlist : document.renderFragments [options, .source "context".toList] =
      .ok [text, "context".toList] := by
    refine bind_eq_ok_iff.mpr ⟨text, hoptions, ?_⟩
    exact bind_eq_ok_iff.mpr ⟨["context".toList], rfl, rfl⟩
  refine bind_eq_ok_iff.mpr ⟨"initApp".toList, rfl, bind_eq_ok_iff.mpr ⟨_, hlist, ?_⟩⟩
  have hlisted : Document.listed [text, "context".toList] =
      "(".toList ++ text ++ ", context)".toList := by
    simp [Document.listed, List.intercalate]
  refine congrArg Except.ok ?_
  rw [hlisted]
  simp

/-- The construction is replaced by the call of its edit. -/
theorem initializerCall_eq (hfresh : document.IsFresh) {construction : Nat} {row : Row}
    (hrow : document.rows[construction]? = some row)
    (hforward : ∀ span ∈ row.arguments.head?, span.start ≤ span.stop) :
    ∃ fragment edit, initializerCall document (document.handle construction) = .ok fragment ∧
      constructionEdit? document.source document.rows construction = some edit ∧
      edit.span = row.span ∧ document.renderFragment fragment = .ok edit.text := by
  have hoptions : ∃ options text, initializerCall document (document.handle construction) =
      .ok (.call (.source "initApp".toList) [options, .source "context".toList]) ∧
      writtenOptions? document.source row = some text ∧
      document.renderFragment options = .ok text := by
    obtain ⟨handles, harguments, hfirst⟩ := hfresh.arguments_eq hrow
    unfold writtenOptions?
    cases hhead : row.arguments.head? with
    | none =>
      rw [hhead] at hfirst
      subst hfirst
      refine ⟨.source "{}".toList, "{}".toList, ?_, rfl, rfl⟩
      refine bind_eq_ok_iff.mpr ⟨[], harguments, ?_⟩
      refine bind_eq_ok_iff.mpr ⟨_, parseExpression_noOptions, ?_⟩
      refine bind_eq_ok_iff.mpr ⟨_, identifier_initializer, ?_⟩
      exact bind_eq_ok_iff.mpr ⟨_, identifier_context, rfl⟩
    | some span =>
      rw [hhead] at hfirst
      obtain ⟨place, argument, hplace, hargument, rfl⟩ := hfirst
      obtain ⟨whole, hwhole, htext⟩ :=
        text_of_isFresh hfresh hargument (hforward argument.span hhead)
      refine ⟨.node (document.handle place), whole, ?_, hwhole, htext⟩
      refine bind_eq_ok_iff.mpr ⟨handles, harguments, ?_⟩
      rw [hplace]
      refine bind_eq_ok_iff.mpr ⟨.node (document.handle place), rfl, ?_⟩
      refine bind_eq_ok_iff.mpr ⟨_, identifier_initializer, ?_⟩
      exact bind_eq_ok_iff.mpr ⟨_, identifier_context, rfl⟩
  obtain ⟨options, text, hcall, hwritten, hrendered⟩ := hoptions
  refine ⟨_, ⟨row.span, "initApp(".toList ++ text ++ ", context)".toList⟩, hcall, ?_, rfl,
    renderFragment_initializerCall hrendered⟩
  exact Option.bind_eq_some_iff.mpr ⟨row, hrow, Option.bind_eq_some_iff.mpr ⟨text, hwritten, rfl⟩⟩

/-- The context is put in place of parameters that have a text, in parentheses if the text begins
with one. -/
theorem contextParameters_of_text {parameters : Handle} {text : List Char}
    (htext : document.text parameters = .ok text) :
    ∃ fragment, contextParameters document parameters = .ok fragment ∧
      document.renderFragment fragment =
        .ok (if text.head? = some '(' then "(context)".toList else "context".toList) := by
  by_cases hparenthesis : text.head? = some '('
  · refine ⟨.parameters [.source "context".toList], ?_, by rw [if_pos hparenthesis]; rfl⟩
    refine bind_eq_ok_iff.mpr ⟨_, identifier_context, bind_eq_ok_iff.mpr ⟨text, htext, ?_⟩⟩
    rw [hparenthesis]
    rfl
  · refine ⟨.source "context".toList, ?_, by rw [if_neg hparenthesis]; rfl⟩
    refine bind_eq_ok_iff.mpr ⟨_, identifier_context, bind_eq_ok_iff.mpr ⟨text, htext, ?_⟩⟩
    have hother : (text.head? == some '(') = false := by simpa using hparenthesis
    rw [hother]
    rfl

/-! ### The steps of a rewrite -/

/-- Without parameters a rewrite is one replacement. -/
theorem rewriteAt_none_eq_ok_iff {construction : Handle} {text : List Char} :
    rewriteAt document construction none = .ok text ↔ ∃ call finished printed,
      initializerCall document construction = .ok call ∧
      document.replace construction call = .ok finished ∧
      finished.print = .ok printed ∧ importLine ++ printed = text := by
  simp only [rewriteAt, bind_eq_ok_iff]
  constructor
  · rintro ⟨call, hcall, initialized, hinitialized, finished, hfinished, printed, hprint, h⟩
    obtain rfl := Except.ok.inj hfinished
    exact ⟨call, initialized, printed, hcall, hinitialized, hprint, Except.ok.inj h⟩
  · rintro ⟨call, finished, printed, hcall, hfinished, hprint, rfl⟩
    exact ⟨call, hcall, finished, hfinished, finished, rfl, printed, hprint, rfl⟩

/-- With parameters it is two, and the second one is made in what the first one has left. -/
theorem rewriteAt_some_eq_ok_iff {construction list : Handle} {text : List Char} :
    rewriteAt document construction (some list) = .ok text ↔
      ∃ call initialized parameters finished printed,
        initializerCall document construction = .ok call ∧
        document.replace construction call = .ok initialized ∧
        contextParameters initialized list = .ok parameters ∧
        initialized.replace list parameters = .ok finished ∧
        finished.print = .ok printed ∧ importLine ++ printed = text := by
  simp only [rewriteAt, bind_eq_ok_iff]
  constructor
  · rintro ⟨call, hcall, initialized, hinitialized, parameters, hparameters, finished, hfinished,
      printed, hprint, h⟩
    exact ⟨call, initialized, parameters, finished, printed, hcall, hinitialized, hparameters,
      hfinished, hprint, Except.ok.inj h⟩
  · rintro ⟨call, initialized, parameters, finished, printed, hcall, hinitialized, hparameters,
      hfinished, hprint, rfl⟩
    exact ⟨call, hcall, initialized, hinitialized, parameters, hparameters, finished, hfinished,
      printed, hprint, rfl⟩

/-- The construction can be replaced, by the text of its edit. -/
theorem exists_initialized (hfresh : document.IsFresh) {construction : Nat} {row : Row}
    (hrow : document.rows[construction]? = some row)
    (hforward : ∀ span ∈ row.arguments.head?, span.start ≤ span.stop) :
    ∃ call edit initialized,
      initializerCall document (document.handle construction) = .ok call ∧
      constructionEdit? document.source document.rows construction = some edit ∧
      edit.span = row.span ∧
      document.replace (document.handle construction) call = .ok initialized ∧
      document.Replaced [⟨construction, edit⟩] initialized := by
  obtain ⟨call, ⟨span, text⟩, hcall, hedit, hspan, htext⟩ := initializerCall_eq hfresh hrow hforward
  have hstanding := hfresh.row_handle hrow
  obtain ⟨initialized, hinitialized⟩ :
      ∃ next, document.replace (document.handle construction) call = .ok next :=
    ⟨_, Document.replace_eq_ok_iff.mpr ⟨row, text, hstanding, htext, rfl⟩⟩
  obtain rfl : span = row.span := hspan
  exact ⟨call, _, initialized, hcall, hedit, rfl, hinitialized,
    .more .none (document.handle construction) call hstanding htext hinitialized⟩

/-- Parameters that are not related to the construction still stand then. -/
theorem row_of_initialized (hfresh : document.IsFresh) {construction list : Nat} {row listRow : Row}
    (hrow : document.rows[construction]? = some row) (hlist : document.rows[list]? = some listRow)
    (hunrelated : ¬ Related document.rows list construction) {call : Fragment}
    {initialized : Document}
    (hinitialized : document.replace (document.handle construction) call = .ok initialized) :
    initialized.row (document.handle list) = .ok listRow := by
  obtain ⟨found, text, hfound, -, rfl⟩ := Document.replace_eq_ok_iff.mp hinitialized
  obtain rfl : row = found := Except.ok.inj ((hfresh.row_handle hrow).symm.trans hfound)
  have houtside : ¬ (construction ≤ list ∧ list < row.stop) := by
    rw [le_and_lt_stop_iff hfresh.isTable hrow]
    exact fun h ↦ hunrelated (h.elim (fun h ↦ Or.inl h.symm) fun h ↦ Or.inr (Or.inr h))
  have hkept : (decide (construction ≤ list) && decide (list < row.stop)) = false := by
    rw [← Bool.decide_and]
    exact decide_eq_false houtside
  have hstands := hfresh.standing listRow (List.mem_of_getElem? hlist)
  refine Document.row_eq_ok_iff.mpr ⟨rfl, ?_, hstands⟩
  refine (Document.getElem?_detach construction row.stop document.rows list).trans ?_
  rw [hlist, Option.map_some, hkept, Bool.or_false]

/-- And they can be replaced if they have a text. -/
theorem exists_finished {initialized : Document} {done : List Replacement}
    (hreplaced : document.Replaced done initialized) {list : Nat} {standing : Row}
    {text : List Char} (hstanding : initialized.row (document.handle list) = .ok standing)
    (htext : initialized.text (document.handle list) = .ok text) :
    ∃ parameters finished,
      contextParameters initialized (document.handle list) = .ok parameters ∧
      initialized.replace (document.handle list) parameters = .ok finished ∧
      document.Replaced (done ++ [⟨list, standing.span,
        if text.head? = some '(' then "(context)".toList else "context".toList⟩]) finished := by
  obtain ⟨parameters, hparameters, hrendered⟩ := contextParameters_of_text htext
  obtain ⟨finished, hfinished⟩ :
      ∃ next, initialized.replace (document.handle list) parameters = .ok next :=
    ⟨_, Document.replace_eq_ok_iff.mpr ⟨standing, _, hstanding, hrendered, rfl⟩⟩
  exact ⟨parameters, finished, hparameters, hfinished,
    hreplaced.more (document.handle list) parameters hstanding hrendered hfinished⟩

/-! ### The text of the module -/

/-- Parameters whose span begins elsewhere begin with the same character then. -/
theorem text_of_initialized (hfresh : document.IsFresh) {construction : Nat} {edit : Edit}
    {initialized : Document} (hreplaced : document.Replaced [⟨construction, edit⟩] initialized)
    (hedit : edit.span.start ≤ edit.span.stop) {list : Nat} {listRow : Row}
    (hlist : document.rows[list]? = some listRow)
    (hstanding : initialized.row (document.handle list) = .ok listRow)
    (hle : listRow.span.start ≤ listRow.span.stop) (hbegins : edit.span.start ≠ listRow.span.start) :
    ∃ written text, slice? document.source listRow.span.start listRow.span.stop = some written ∧
      initialized.text (document.handle list) = .ok text ∧ text.head? = written.head? := by
  have hfirst := EditsOf.of_replaced hfresh hreplaced
  have hedits : initialized.edits = [edit] := List.perm_singleton.mp hfirst.edits
  obtain ⟨hstart, hstop⟩ := hfresh.boundary listRow (List.mem_of_getElem? hlist)
  obtain ⟨written, hwritten⟩ := Text.exists_slice? hstart hstop hle
  have hfollow : FollowFrom 0 initialized.edits := by
    rw [hedits]
    exact ⟨Nat.zero_le _, hedit, by simp, trivial⟩
  refine ⟨written, _, hwritten, (Document.text_of_row hstanding).trans
    (Document.render_eq_substitute hfollow (hfirst.boundary hfresh) ?_ (List.Perm.refl _)),
    head?_substitute (fun inside hinside ↦ ?_) written⟩
  · rw [hfirst.source]
    exact hwritten
  · obtain ⟨hmem, hcovers⟩ := List.mem_filter.mp hinside
    rw [hedits] at hmem
    obtain rfl := List.mem_singleton.mp hmem
    simp only [Span.covers, Bool.and_eq_true, decide_eq_true_eq] at hcovers
    omega

/-- Of two replacements the second one may take back the first one; if it does not, and the first
one is clear of it, they do not overlap. -/
theorem uncovered_pair (first second : Replacement)
    (hclear : first.edit.span.IsClearOf second.edit.span)
    (hbegins : first.edit.span.start ≠ second.edit.span.start) :
    (uncovered [first, second]).map Replacement.edit =
        survivors Edit.takesBack [first.edit, second.edit] ∧
      ((uncovered [first, second]).map Replacement.edit).Pairwise fun edit other ↦
        edit.span.start ≠ other.span.start ∧
          (edit.span.stop ≤ other.span.start ∨ other.span.stop ≤ edit.span.start) := by
  cases htaken : second.edit.takesBack first.edit with
  | true => simp [uncovered, survivors, htaken]
  | false =>
    have hnot : ¬ (second.edit.span.start ≤ first.edit.span.start ∧
        first.edit.span.stop ≤ second.edit.span.stop) := by
      simpa [Edit.takesBack, Span.covers] using htaken
    have hsides := hclear.imp_right (Or.resolve_right · hnot)
    simp [uncovered, survivors, htaken, hbegins, hsides]

/-- At a site the spans of the edits are replaced, and nothing else; the edit of the construction is
taken back where that of the parameters covers it. -/
theorem rewriteAt_eq (hfresh : document.IsFresh) {site : Site}
    (hsite : site? document.rows = some site) (hforward : site.GoesForward document.rows)
    (hclear : site.IsClear document.rows) :
    ∃ edits, site.edits? document.source document.rows = some edits ∧
      rewriteAt document (document.handle site.construction)
        (site.parameters.map document.handle) =
          .ok (importLine ++ substitute (survivors Edit.takesBack edits) 0 document.source) := by
  obtain ⟨⟨row, hrow, -⟩, hlists⟩ := of_site? hfresh.isTable hsite
  obtain ⟨construction, parameters⟩ := site
  obtain ⟨call, edit, initialized, hcall, hedit, hspan, hinitialized, hfirst⟩ :=
    exists_initialized hfresh hrow (hforward.options row hrow)
  have hfirstForward : edit.span.start ≤ edit.span.stop := by
    rw [hspan]
    exact hforward.construction row hrow
  cases parameters with
  | none =>
    have hprint := (EditsOf.of_replaced hfresh hfirst).print_eq hfresh
      (by simpa using hfirstForward) (List.pairwise_singleton _ _)
    refine ⟨[edit], Option.bind_eq_some_iff.mpr ⟨edit, hedit, rfl⟩, ?_⟩
    exact rewriteAt_none_eq_ok_iff.mpr
      ⟨call, initialized, _, hcall, hinitialized, hprint, rfl⟩
  | some list =>
    obtain ⟨⟨listRow, hlistRow, -⟩, hunrelated⟩ := hlists list rfl
    have hstanding := row_of_initialized hfresh hrow hlistRow hunrelated hinitialized
    have hle := hforward.parameters list rfl listRow hlistRow
    have hbegins : edit.span.start ≠ listRow.span.start := by
      rw [hspan]
      exact hforward.begins row hrow list rfl listRow hlistRow
    obtain ⟨written, text, hwritten, htext, hhead⟩ :=
      text_of_initialized hfresh hfirst hfirstForward hlistRow hstanding hle hbegins
    obtain ⟨fragment, finished, hfragment, hfinished, hsecond⟩ :=
      exists_finished hfirst hstanding htext
    rw [hhead] at hsecond
    set parametersEdit : Edit := ⟨listRow.span,
      if written.head? = some '(' then "(context)".toList else "context".toList⟩
    have hparametersEdit : parametersEdit? document.source document.rows list =
        some parametersEdit :=
      Option.bind_eq_some_iff.mpr
        ⟨listRow, hlistRow, Option.bind_eq_some_iff.mpr ⟨written, hwritten, rfl⟩⟩
    have hclearOf : edit.span.IsClearOf listRow.span := by
      rw [hspan]
      exact hclear row hrow list rfl listRow hlistRow
    have hpair : ∀ replacement ∈ ([⟨construction, edit⟩, ⟨list, parametersEdit⟩] :
        List Replacement), replacement.edit.span.start ≤ replacement.edit.span.stop := by
      simpa using ⟨hfirstForward, hle⟩
    obtain ⟨hleft, hpairs⟩ :=
      uncovered_pair ⟨construction, edit⟩ ⟨list, parametersEdit⟩ hclearOf hbegins
    have hprint := (EditsOf.of_replaced hfresh hsecond).print_eq hfresh hpair hpairs
    rw [List.singleton_append, hleft] at hprint
    refine ⟨[edit, parametersEdit], ?_, ?_⟩
    · exact Option.bind_eq_some_iff.mpr ⟨edit, hedit,
        Option.bind_eq_some_iff.mpr ⟨parametersEdit, hparametersEdit, rfl⟩⟩
    · exact rewriteAt_some_eq_ok_iff.mpr ⟨call, initialized, fragment, finished, _, hcall,
        hinitialized, hfragment, hfinished, hprint, rfl⟩

/-- A program is rewritten at its site, and stays as it is without one. -/
theorem perRequest_of_parse {dialect : Grammar.Dialect} {source : List Char} {document : Document}
    (hparse : Document.parse 0 dialect source = .ok document) :
    perRequest dialect source =
      match site? document.rows with
      | none => .ok source
      | some site => rewriteAt document (document.handle site.construction)
          (site.parameters.map document.handle) := by
  have hfresh := Document.isFresh_of_parse hparse
  have hfind := hfresh.findOne_kind .exportDefault
  cases hexport : firstRow? document.rows fun _ row ↦ row.kind == .exportDefault with
  | none =>
    rw [hexport] at hfind
    rw [site?_of_none hexport]
    simp only [perRequest, hparse, hfind, Option.map_none, bind, Except.bind]
    rfl
  | some defaultExport =>
    rw [hexport] at hfind
    obtain ⟨row, hrow, -⟩ := exists_of_firstRow? hexport
    have hparameters := hfresh.exportedParameters_eq hrow
    have hexists : ∀ list ∈ exportedParameters? document.rows defaultExport,
        ∃ found, document.rows[list]? = some found := fun list hlist ↦
      (of_exportedParameters? hfresh.isTable hlist).1
    have hconstruction := hfresh.appConstruction_eq hrow hexists
    rw [site?_of_some hexport]
    simp only [perRequest, hparse, hfind, Option.map_some, hparameters, hconstruction, bind,
      Except.bind]
    cases construction? document.rows defaultExport
        (exportedParameters? document.rows defaultExport) with
    | none => rfl
    | some construction => rfl

/-- Where every span lies inside that of the parent, that of a first argument goes forward. -/
theorem start_le_stop_of_argument (hfresh : document.IsFresh) (hinside : ChildrenInside document.rows)
    {construction : Nat} {row : Row} (hrow : document.rows[construction]? = some row) :
    ∀ span ∈ row.arguments.head?, span.start ≤ span.stop := by
  intro span hspan
  obtain ⟨place, argument, -, -, hargument, rfl⟩ :=
    hfresh.isTable.argument hrow (List.mem_of_mem_head? hspan)
  exact hfresh.start_le_stop hinside hargument

/-- Where every span lies inside that of the parent and the spans of the construction and of the list
are apart, they are as is asked, and no edit takes back the other one. -/
theorem goesForward_of_spansApart (hfresh : document.IsFresh)
    (hinside : ChildrenInside document.rows) {site : Site}
    (hsite : site? document.rows = some site)
    (hapart : SpansApart document.rows (site.construction :: site.parameters.toList)) :
    site.GoesForward document.rows ∧ site.IsClear document.rows ∧
      ∀ edits ∈ site.edits? document.source document.rows,
        survivors Edit.takesBack edits = edits := by
  obtain ⟨-, hlists⟩ := of_site? hfresh.isTable hsite
  have hspans : ∀ row ∈ document.rows[site.construction]?, ∀ list ∈ site.parameters,
      ∀ listRow ∈ document.rows[list]?, row.span.Apart listRow.span := by
    intro row hrow list hlist listRow hlistRow
    obtain ⟨-, hunrelated⟩ := hlists list hlist
    refine hapart _ List.mem_cons_self list ?_ (fun h ↦ hunrelated ?_) row hrow listRow hlistRow
    · exact List.mem_cons_of_mem _ (Option.mem_toList.mpr hlist)
    · exact h.imp Eq.symm Or.symm
  refine ⟨⟨?_, ?_, ?_, ?_⟩, ?_, ?_⟩
  · intro row hrow
    exact hfresh.start_le_stop hinside hrow
  · intro row hrow
    exact start_le_stop_of_argument hfresh hinside hrow
  · intro list hlist listRow hlistRow
    exact hfresh.start_le_stop hinside hlistRow
  · intro row hrow list hlist listRow hlistRow
    exact (hspans row hrow list hlist listRow hlistRow).start_ne
  · intro row hrow list hlist listRow hlistRow
    exact (hspans row hrow list hlist listRow hlistRow).1.imp_right Or.inl
  · intro edits hedits
    obtain ⟨-, row, options, hrow, -, rfl⟩ := of_edits? hedits
    cases hparameters : site.parametersEdit? document.source document.rows with
    | none => rfl
    | some edit =>
      obtain ⟨list, listRow, hlist, hlistRow, hspan⟩ := Site.span_of_parametersEdit? hparameters
      have hkept : edit.span.covers row.span = false := by
        rw [hspan]
        exact (hspans row hrow list hlist listRow hlistRow).2.2
      simp [survivors, Edit.takesBack, hkept]

/-- An entry module is rewritten at the site of its app, and stays as it is without one. -/
theorem perRequest_eq {dialect : Grammar.Dialect} {source : List Char} {document : Document}
    (hparse : Document.parse 0 dialect source = .ok document)
    (hinside : ChildrenInside document.rows)
    (hapart : ∀ site ∈ site? document.rows,
      SpansApart document.rows (site.construction :: site.parameters.toList)) :
    match site? document.rows with
    | none => perRequest dialect source = .ok source
    | some site => ∃ edits, site.edits? source document.rows = some edits ∧
        perRequest dialect source = .ok (importLine ++ substitute edits 0 source) := by
  rw [perRequest_of_parse hparse]
  cases hsite : site? document.rows with
  | none => rfl
  | some site =>
    have hfresh := Document.isFresh_of_parse hparse
    obtain ⟨hforward, hclear, hkept⟩ :=
      goesForward_of_spansApart hfresh hinside hsite (hapart site hsite)
    obtain ⟨edits, hedits, hrewrite⟩ := rewriteAt_eq hfresh hsite hforward hclear
    rw [hkept edits hedits] at hrewrite
    rw [Document.source_of_parse hparse] at hedits hrewrite
    exact ⟨edits, hedits, hrewrite⟩

/-- An entry module that exports an arrow function. -/
def arrowModule : Document :=
  ⟨0, "export default () => new Vue(o);".toList,
    [⟨.program, ⟨0, 32⟩, none, 9, none, [], false⟩,
      ⟨.exportDefault, ⟨0, 32⟩, some 0, 9, none, [], false⟩,
      ⟨.arrowFunction, ⟨15, 31⟩, some 1, 9, none, [], false⟩,
      ⟨.formalParameters, ⟨15, 17⟩, some 2, 4, none, [], false⟩,
      ⟨.other, ⟨21, 31⟩, some 2, 9, none, [], false⟩,
      ⟨.other, ⟨21, 31⟩, some 4, 9, none, [], false⟩,
      ⟨.newExpression, ⟨21, 31⟩, some 5, 9, some "Vue", [⟨29, 30⟩], false⟩,
      ⟨.identifier, ⟨25, 28⟩, some 6, 8, some "Vue", [], false⟩,
      ⟨.identifier, ⟨29, 30⟩, some 6, 9, some "o", [], false⟩], []⟩

/-- The function takes the context, and the construction becomes a call. -/
theorem perRequest_arrowModule :
    perRequest ⟨true, false, false⟩ "export default () => new Vue(o);".toList =
      .ok (importLine ++ "export default (context) => initApp(o, context);".toList) := by
  have hparse : Document.parse 0 ⟨true, false, false⟩ "export default () => new Vue(o);".toList =
      .ok arrowModule := by decide +kernel
  have hsite : site? arrowModule.rows = some ⟨6, some 3⟩ := by decide +kernel
  have hedits : Site.edits? "export default () => new Vue(o);".toList arrowModule.rows
      ⟨6, some 3⟩ = some [⟨⟨21, 31⟩, "initApp(o, context)".toList⟩,
        ⟨⟨15, 17⟩, "(context)".toList⟩] := by decide +kernel
  have hresult := perRequest_eq hparse (by decide +kernel) fun site hmem ↦ by
    obtain rfl := Option.some.inj (hsite.symm.trans hmem)
    decide +kernel
  rw [hsite] at hresult
  obtain ⟨edits, hfound, hrewritten⟩ := hresult
  obtain rfl := Option.some.inj (hedits.symm.trans hfound)
  rw [hrewritten]
  decide +kernel

end SsrBuild.Entry
