import Folio.Page.Renderer
import Folio.Site.JsonTree

namespace Folio

/-!
# What a site knows of its pages

Beside every page stands a file with its title, its outline and its search records; one more file
holds the search records of all pages, each with the page it is on.
-/

def RecordKind.name : RecordKind → String
  | heading => "heading"
  | code => "code"
  | figure => "figure"
  | paragraph => "paragraph"

def SearchRecord.fields (r : SearchRecord) : List (String × JsonTree) :=
  [("text", .text r.text), ("type", .text r.kind.name), ("id", .text r.id),
    ("parents", .list (r.parents.map .text)), ("class", .text r.classes)]

namespace OutlineEntry

mutual

/-- An entry of an outline; one without sections does not mention them. -/
def tree : OutlineEntry → JsonTree
  | entry heading anchor [] => .object [("heading", .text heading), ("anchor", .text anchor)]
  | entry heading anchor (s :: ss) =>
    .object
      [("heading", .text heading), ("anchor", .text anchor),
        ("sections", .list (s.tree :: trees ss))]

def trees : List OutlineEntry → List JsonTree
  | [] => []
  | e :: es => e.tree :: trees es

end

end OutlineEntry

/-- The identifier of a page: its file name without the extension. -/
def pageId (path : String) : String := (PathName.stem? path).getD ""

/-- What stands beside a page. -/
def RenderedPage.metadata (p : RenderedPage) (id : String) : String :=
  JsonTree.pretty 0 (.object
    [("id", .text id), ("title", (p.title.map JsonTree.text).getD .null),
      ("tableOfContents", .list (OutlineEntry.trees p.outline)),
      ("indexableFragments", .list (p.records.map fun r => .object r.fields))])

/-- A search record of some page. -/
structure SiteRecord where
  page : String
  record : SearchRecord
  deriving DecidableEq

def searchIndex (records : List SiteRecord) : String :=
  JsonTree.compact (.list (records.map fun r =>
    .object (("page", .text r.page) :: r.record.fields)))

end Folio
