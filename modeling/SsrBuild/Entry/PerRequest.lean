import SsrBuild.Entry.Export

/-!
Entry modules that build one app for each request. The construction of the app becomes a call that
also takes the context of the request, and an exported function takes the context as its only
parameter. A module without a default export or without a construction stays as it is.
-/

set_option autoImplicit false

namespace SsrBuild.Entry

/-- The line that brings in the function which builds an app for a request. -/
def importLine : List Char := "import initApp from '@uvue/core/lib/initApp';\n".toList

/-- The function that builds an app for a request. -/
def initializer : List Char := "initApp".toList

/-- The parameter that stands for the request. -/
def context : List Char := "context".toList

/-- The options of an app that is constructed without any. -/
def noOptions : List Char := "{}".toList

/-- The call that takes the place of a construction: its first argument, then the context. -/
def initializerCall (document : Document) (construction : Handle) :
    Except QueryError Fragment := do
  let options ← match (← document.arguments construction).head? with
    | some options => pure (Fragment.node options)
    | none => Fragment.parseExpression noOptions
  return .call (← Fragment.identifier initializer) [options, ← Fragment.identifier context]

/-- The parameters of a function of the request, in parentheses where there have been any. -/
def contextParameters (document : Document) (parameters : Handle) :
    Except QueryError Fragment := do
  let name ← Fragment.identifier context
  return if (← document.text parameters).head? == some '(' then .parameters [name] else name

/-- The text of a document in which a construction and the parameters have been replaced. -/
def rewriteAt (document : Document) (construction : Handle) (parameters : Option Handle) :
    Except QueryError (List Char) := do
  let initialized ← document.replace construction (← initializerCall document construction)
  let finished ← match parameters with
    | some list => initialized.replace list (← contextParameters initialized list)
    | none => pure initialized
  return importLine ++ (← finished.print)

/-- The text of an entry module that builds one app for each request. -/
def perRequest (dialect : Grammar.Dialect) (source : List Char) :
    Except QueryError (List Char) := do
  let document ← Document.parse 0 dialect source
  match document.findOne (.kind .exportDefault) with
  | none => return source
  | some defaultExport =>
    let parameters ← document.exportedParameters defaultExport
    match ← document.appConstruction defaultExport parameters with
    | none => return source
    | some construction => rewriteAt document construction parameters

end SsrBuild.Entry
