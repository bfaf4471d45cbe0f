import DocSearch.Json.Basic

/-!
# Parts of documents

`Document.project` keeps the entries of a document whose keys are listed.
-/

namespace DocSearch.Document

/-- A document with the listed entries only, or the whole of it when none is listed.  A value that
is no object is kept as it is. -/
def project (includes : List String) (document : Json) : Json :=
  match includes, document with
  | [], document => document
  | includes, .obj entries => .obj (entries.filter fun entry => includes.contains entry.1)
  | _, document => document

end DocSearch.Document
