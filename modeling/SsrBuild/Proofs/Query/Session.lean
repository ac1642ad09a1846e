import SsrBuild.Proofs.Query.HandleUse
import SsrBuild.Query.Workspace

/-!
Sessions: programs are opened and the documents are called, in any order. A session remembers which
handles every document has given and which nodes have been replaced. Every document is at its place
with the nodes replaced there, and the handles given are those of its rows (`Sound`); one step keeps
this (`Sound.step`), so it holds after every session. A document accepts a handle if it has given it
and neither the node nor one above has been replaced since, and refuses all others
(`QuerySession.accepts_iff`).
-/

set_option autoImplicit false

namespace SsrBuild

/-- A call of a document. -/
inductive DocumentCall
  | root
  | find (selector : Selector)
  | findOne (selector : Selector)
  | print
  | use (handle : Handle) (way : HandleUse)

namespace DocumentCall

/-- The handles that a call gives, and the document after it. -/
def run (document : Document) : DocumentCall → Except QueryError (List Handle × Document)
  | root => .ok ([document.root], document)
  | find selector => .ok (document.find selector, document)
  | findOne selector => .ok ((document.findOne selector).toList, document)
  | print => document.print.map fun _ ↦ ([], document)
  | use handle way => way.run document handle

/-- The nodes that a call replaces. -/
def targets : DocumentCall → List Nat
  | use handle way => way.targets handle
  | _ => []

end DocumentCall

/-- A step of a session. -/
inductive QueryStep
  | openProgram (dialect : Grammar.Dialect) (source : List Char)
  /-- Calls the document at a place. -/
  | call (place : Nat) (call : DocumentCall)

/-- The documents, and what has become of them. -/
structure QuerySession where
  workspace : Workspace
  /-- The handles that have been given, each with the place of the document that gave it. -/
  given : List (Nat × Handle)
  /-- The nodes that have been replaced, each with the place of its document. -/
  replaced : List (Nat × Nat)

namespace QuerySession

/-- Before any step. -/
def empty : QuerySession := ⟨.empty, [], []⟩

/-- The session after a step. A step that fails changes nothing. -/
def step (session : QuerySession) : QueryStep → QuerySession
  | .openProgram dialect source =>
    match session.workspace.openProgram dialect source with
    | .ok workspace => { session with workspace }
    | .error _ => session
  | .call place call =>
    match session.workspace.document? place with
    | some document =>
      match call.run document with
      | .ok (handles, next) =>
        ⟨session.workspace.update place next, session.given ++ handles.map (place, ·),
          session.replaced ++ call.targets.map (place, ·)⟩
      | .error _ => session
    | none => session

/-- The session after some steps. -/
def after (steps : List QueryStep) : QuerySession := steps.foldl step empty

/-- Has the node of the document at a place been replaced? -/
def IsTarget (session : QuerySession) (place node : Nat) : Prop := (place, node) ∈ session.replaced

/-! ### What holds after every step -/

/-- Every document is at its place with the nodes replaced there, and the handles that it has given
are those of its rows. -/
structure Sound (session : QuerySession) : Prop where
  isAt : ∀ {place : Nat} {document : Document},
    session.workspace.document? place = some document →
      document.IsAt place (session.IsTarget place)
  given : ∀ {place : Nat} {handle : Handle}, (place, handle) ∈ session.given →
    handle.document = place ∧ ∃ document, session.workspace.document? place = some document ∧
      handle.index < document.rows.length
  replaced : ∀ {place node : Nat}, session.IsTarget place node →
    place < session.workspace.documents.length

/-- Before any step there is nothing to hold. -/
theorem sound_empty : empty.Sound where
  isAt h := nomatch h
  given h := nomatch h
  replaced h := nomatch h

/-- A call of a document replaces a node, or leaves the document as it is and gives handles of its
rows. All of them but that of the root have rows that stand. -/
theorem call_cases {document next : Document} {place : Nat} {replaced : Nat → Prop}
    (hat : document.IsAt place replaced) {call : DocumentCall} {handles : List Handle}
    (h : call.run document = .ok (handles, next)) :
    (∃ handle fragment, call = .use handle (.replace fragment) ∧ handles = [] ∧
      document.replace handle fragment = .ok next) ∨
    (call.targets = [] ∧ next = document ∧
      (∀ given ∈ handles, given.document = place ∧ given.index < document.rows.length) ∧
      (call ≠ .root → ∀ given ∈ handles, ∃ row, document.row given = .ok row)) := by
  have hrows : ∀ {found : List Handle}, (∀ given ∈ found, ∃ row, document.row given = .ok row) →
      ∀ given ∈ found, given.document = place ∧ given.index < document.rows.length := by
    intro found hfound given hgiven
    obtain ⟨hdocument, hlt, -⟩ := hat.exists_row_iff.mp (hfound given hgiven)
    exact ⟨hdocument, hlt⟩
  cases call with
  | root =>
    obtain ⟨rfl, rfl⟩ := Prod.mk.inj (Except.ok.inj h)
    refine Or.inr ⟨rfl, rfl, fun given hgiven ↦ ?_, fun hroot ↦ absurd rfl hroot⟩
    rw [List.mem_singleton.mp hgiven]
    exact ⟨hat.id, hat.root⟩
  | find selector =>
    obtain ⟨rfl, rfl⟩ := Prod.mk.inj (Except.ok.inj h)
    have hstand : ∀ given ∈ document.find selector, ∃ row, document.row given = .ok row :=
      fun given hgiven ↦ Document.exists_row_of_mem_handlesBetween hgiven
    exact Or.inr ⟨rfl, rfl, hrows hstand, fun _ ↦ hstand⟩
  | findOne selector =>
    obtain ⟨rfl, rfl⟩ := Prod.mk.inj (Except.ok.inj h)
    have hstand : ∀ given ∈ (document.findOne selector).toList,
        ∃ row, document.row given = .ok row := fun given hgiven ↦
      Document.exists_row_of_mem_handlesBetween
        (List.mem_of_mem_head? (Option.mem_toList.mp hgiven))
    exact Or.inr ⟨rfl, rfl, hrows hstand, fun _ ↦ hstand⟩
  | print =>
    obtain ⟨text, -, heq⟩ := map_eq_ok_iff.mp h
    obtain ⟨rfl, rfl⟩ := Prod.mk.inj heq
    have hnone : ∀ given ∈ ([] : List Handle), ∃ row, document.row given = .ok row :=
      fun given hgiven ↦ nomatch hgiven
    exact Or.inr ⟨rfl, rfl, hrows hnone, fun _ ↦ hnone⟩
  | use handle way =>
    rcases hat.run_cases h with ⟨fragment, rfl, hnone, hreplace⟩ | ⟨htargets, rfl, hstand⟩
    · exact Or.inl ⟨handle, fragment, rfl, hnone, hreplace⟩
    · exact Or.inr ⟨htargets, rfl, hrows hstand, fun _ ↦ hstand⟩

variable {session : QuerySession}

/-- Opening a program keeps it. -/
theorem Sound.openProgram (hsound : session.Sound) {dialect : Grammar.Dialect}
    {source : List Char} {workspace : Workspace}
    (h : session.workspace.openProgram dialect source = .ok workspace) :
    Sound { session with workspace } := by
  obtain ⟨opened, hparse, hworkspace⟩ := bind_eq_ok_iff.mp h
  obtain rfl := Except.ok.inj hworkspace
  have hkept : ∀ {place : Nat} {document : Document},
      session.workspace.document? place = some document →
        (session.workspace.documents ++ [opened])[place]? = some document := by
    intro place document hdocument
    rw [List.getElem?_append_left (List.getElem?_eq_some_iff.mp hdocument).1]
    exact hdocument
  constructor
  · intro place document hdocument
    rcases Nat.lt_or_ge place session.workspace.documents.length with hlt | hge
    · refine hsound.isAt ?_
      rw [← hdocument]
      exact (List.getElem?_append_left hlt).symm
    · have hlast : [opened][place - session.workspace.documents.length]? = some document := by
        rw [← hdocument]
        exact (List.getElem?_append_right hge).symm
      rw [List.getElem?_singleton, Option.ite_none_right_eq_some, Option.some.injEq] at hlast
      obtain ⟨hplace, rfl⟩ := hlast
      obtain rfl : place = session.workspace.documents.length := by omega
      refine (Document.isAt_of_parse hparse).congr fun node ↦ iff_of_false (fun htarget ↦ ?_) id
      exact Nat.lt_irrefl _ (hsound.replaced htarget)
  · intro place handle hgiven
    obtain ⟨hplace, document, hdocument, hlt⟩ := hsound.given hgiven
    exact ⟨hplace, document, hkept hdocument, hlt⟩
  · intro place node htarget
    have hlt := hsound.replaced htarget
    rw [List.length_append]
    exact Nat.lt_add_right _ hlt

/-- After a call the document is at its place with the targets of the call replaced too, and has as
many rows as before. -/
theorem isAt_of_call {document next : Document} {place : Nat} {replaced : Nat → Prop}
    (hat : document.IsAt place replaced) {call : DocumentCall} {handles : List Handle}
    (h : call.run document = .ok (handles, next)) :
    next.IsAt place (fun node ↦ replaced node ∨ node ∈ call.targets) ∧
      next.rows.length = document.rows.length ∧
      ∀ given ∈ handles, given.document = place ∧ given.index < document.rows.length := by
  rcases call_cases hat h with ⟨handle, fragment, rfl, rfl, hreplace⟩ | ⟨htargets, rfl, hgiven, -⟩
  · obtain ⟨hnext, hlength⟩ := hat.replace hreplace
    refine ⟨hnext.congr fun node ↦ ?_, hlength, by simp⟩
    simp [DocumentCall.targets, HandleUse.targets]
  · refine ⟨hat.congr fun node ↦ ?_, rfl, hgiven⟩
    simp [htargets]

/-- A call of a document keeps it. -/
theorem Sound.call (hsound : session.Sound) {place : Nat} {document next : Document}
    (hdocument : session.workspace.document? place = some document) {call : DocumentCall}
    {handles : List Handle} (h : call.run document = .ok (handles, next)) :
    Sound ⟨session.workspace.update place next, session.given ++ handles.map (place, ·),
      session.replaced ++ call.targets.map (place, ·)⟩ := by
  obtain ⟨hnext, hlength, hhandles⟩ := isAt_of_call (hsound.isAt hdocument) h
  have hlt : place < session.workspace.documents.length :=
    (List.getElem?_eq_some_iff.mp hdocument).1
  have hself : (session.workspace.update place next).document? place = some next :=
    List.getElem?_set_self hlt
  have hothers : ∀ {other : Nat}, place ≠ other →
      (session.workspace.update place next).document? other =
        session.workspace.document? other := fun hne ↦ List.getElem?_set_ne hne
  constructor
  · intro other found hfound
    by_cases heq : place = other
    · subst heq
      obtain rfl : next = found := Option.some.inj (hself.symm.trans hfound)
      refine hnext.congr fun node ↦ ?_
      simp [IsTarget]
    · refine (hsound.isAt ((hothers heq).symm.trans hfound)).congr fun node ↦ ?_
      simp [IsTarget, heq]
  · intro other handle hgiven
    rcases List.mem_append.mp hgiven with hbefore | hnew
    · obtain ⟨hother, found, hfound, hin⟩ := hsound.given hbefore
      by_cases heq : place = other
      · subst heq
        obtain rfl : document = found := Option.some.inj (hdocument.symm.trans hfound)
        exact ⟨hother, next, hself, hlength ▸ hin⟩
      · exact ⟨hother, found, (hothers heq).trans hfound, hin⟩
    · obtain ⟨given, hmem, hpair⟩ := List.mem_map.mp hnew
      obtain ⟨rfl, rfl⟩ := Prod.mk.inj hpair
      obtain ⟨hplace, hin⟩ := hhandles given hmem
      exact ⟨hplace, next, hself, hlength ▸ hin⟩
  · intro other node htarget
    have hsize : (session.workspace.update place next).documents.length =
        session.workspace.documents.length := List.length_set
    rw [hsize]
    rcases List.mem_append.mp htarget with hbefore | hnew
    · exact hsound.replaced hbefore
    · obtain ⟨target, -, hpair⟩ := List.mem_map.mp hnew
      obtain ⟨rfl, rfl⟩ := Prod.mk.inj hpair
      exact hlt

/-- Every step keeps it. -/
theorem Sound.step (hsound : session.Sound) (step : QueryStep) : (session.step step).Sound := by
  unfold QuerySession.step
  split
  · split
    · next hopen => exact hsound.openProgram hopen
    · exact hsound
  · split
    · next hdocument =>
      split
      · next hrun => exact hsound.call hdocument hrun
      · exact hsound
    · exact hsound

/-- It holds after every session. -/
theorem sound_after (steps : List QueryStep) : (after steps).Sound := by
  have hrun : ∀ {session : QuerySession}, session.Sound →
      (steps.foldl QuerySession.step session).Sound := by
    induction steps with
    | nil => exact id
    | cons step steps ih => exact fun hsound ↦ ih (hsound.step step)
  exact hrun sound_empty

/-! ### Handles -/

/-- Whatever has been done in a session, a document accepts a handle that has been given if it has
given it itself and neither its node nor one above has been replaced, and refuses every use of it
otherwise. What is below a detached row is detached, and the handles that a document gives, other
than that of its root, are accepted by it. -/
theorem accepts_iff (steps : List QueryStep) {place : Nat} {document : Document}
    (hdocument : (after steps).workspace.document? place = some document) :
    (∀ giver handle, (giver, handle) ∈ (after steps).given →
      (document.Accepts handle ↔ (place, handle) ∈ (after steps).given ∧
        ∀ node, (place, node) ∈ (after steps).replaced →
          node ≠ handle.index ∧ node ∉ ancestors document.rows handle.index) ∧
      (¬ document.Accepts handle → document.Refuses handle)) ∧
    (∀ (i j : Nat) (above below : Row), document.rows[i]? = some above →
      document.rows[j]? = some below → i ∈ ancestors document.rows j →
        above.isDetached = true → below.isDetached = true) ∧
    (∀ (call : DocumentCall) (handles : List Handle) (next : Document), call ≠ .root →
      call.run document = .ok (handles, next) → ∀ handle ∈ handles, next.Accepts handle) := by
  have hsound := sound_after steps
  have hat := hsound.isAt hdocument
  refine ⟨fun giver handle hgiven ↦ ?_, fun i j above below ↦ hat.detached_below,
    fun call handles next hroot hrun handle hhandle ↦ ?_⟩
  · have hrow : (∃ row, document.row handle = .ok row) ↔
        (place, handle) ∈ (after steps).given ∧ ∀ node, (place, node) ∈ (after steps).replaced →
          node ≠ handle.index ∧ node ∉ ancestors document.rows handle.index := by
      rw [hat.exists_row_iff]
      obtain ⟨hgiver, found, hfound, hlt⟩ := hsound.given hgiven
      constructor
      · rintro ⟨hplace, -, hnone⟩
        obtain rfl : giver = place := hgiver.symm.trans hplace
        exact ⟨hgiven, hnone⟩
      · rintro ⟨hown, hnone⟩
        obtain ⟨hplace, owner, howner, hin⟩ := hsound.given hown
        obtain rfl : owner = document := Option.some.inj (howner.symm.trans hdocument)
        exact ⟨hplace, hin, hnone⟩
    rw [← hrow, Document.accepts_iff_exists_row]
    exact ⟨Iff.rfl, Document.refuses_of_not_exists_row⟩
  · rcases call_cases hat hrun with ⟨node, fragment, -, rfl, -⟩ | ⟨-, rfl, -, hstand⟩
    · cases hhandle
    · obtain ⟨row, hrow⟩ := hstand hroot handle hhandle
      exact Document.accepts_of_row hrow

/-- A program is opened, its identifiers are found, and the inner call is replaced. -/
def innerCallReplaced : List QueryStep :=
  [.openProgram ⟨true, false, false⟩ "f(g(a), b);".toList, .call 0 (.find (.kind .identifier)),
    .call 0 (.use ⟨0, 4⟩ (.replace (.source ['x'])))]

/-- Of the arguments of the outer call the one that is left is accepted, and that of the inner call
is refused. -/
theorem accepts_innerCallReplaced : ∃ document,
    (after innerCallReplaced).workspace.document? 0 = some document ∧
      document.Accepts ⟨0, 7⟩ ∧ document.Refuses ⟨0, 6⟩ := by
  have hsome : ((after innerCallReplaced).workspace.document? 0).isSome = true := by decide +kernel
  obtain ⟨document, hdocument⟩ := Option.isSome_iff_exists.mp hsome
  have hrows : ∀ found, (after innerCallReplaced).workspace.document? 0 = some found →
      4 ∉ ancestors found.rows 7 ∧ 4 ∈ ancestors found.rows 6 := by
    have hchecked : ((after innerCallReplaced).workspace.document? 0).all (fun found ↦
        4 ∉ ancestors found.rows 7 ∧ 4 ∈ ancestors found.rows 6) = true := by
      decide +kernel
    intro found hfound
    rw [hfound] at hchecked
    exact of_decide_eq_true hchecked
  obtain ⟨houtside, hinside⟩ := hrows document hdocument
  have hreplaced : (after innerCallReplaced).replaced = [(0, 4)] := by decide +kernel
  have hgiven : (0, ⟨0, 7⟩) ∈ (after innerCallReplaced).given ∧
      (0, ⟨0, 6⟩) ∈ (after innerCallReplaced).given := by decide +kernel
  obtain ⟨haccepts, -⟩ := accepts_iff innerCallReplaced hdocument
  obtain ⟨hleft, -⟩ := haccepts 0 ⟨0, 7⟩ hgiven.1
  obtain ⟨hgone, hrefused⟩ := haccepts 0 ⟨0, 6⟩ hgiven.2
  refine ⟨document, hdocument, hleft.mpr ⟨hgiven.1, fun node hnode ↦ ?_⟩, hrefused fun h ↦ ?_⟩
  · rw [hreplaced] at hnode
    obtain ⟨-, rfl⟩ := Prod.mk.inj (List.mem_singleton.mp hnode)
    exact ⟨by decide, houtside⟩
  · refine ((hgone.mp h).2 4 ?_).2 hinside
    rw [hreplaced]
    exact List.mem_singleton_self _

end QuerySession

end SsrBuild
