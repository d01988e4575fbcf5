/-!
Content categories: the named slots of a document, such as block content.

Categories are open; the ones below come with the library, and extensions may define more.
-/

namespace WikiDoc

/-- A content category, known by its name. -/
structure Category where
  name : String
  deriving DecidableEq

namespace Category

/-- Sections of a page. -/
def block : Category := ⟨"block"⟩

/-- What references point to. -/
def definition : Category := ⟨"definition"⟩

/-- Text that cannot hold a link. -/
def staticPhrasing : Category := ⟨"static-phrasing"⟩

/-- Text that can hold a link. -/
def phrasing : Category := ⟨"phrasing"⟩

/-- Block and definition content. -/
def flow : Category := ⟨"flow"⟩

/-- The children of a list. -/
def list : Category := ⟨"list"⟩

/-- The children of a table. -/
def table : Category := ⟨"table"⟩

/-- The children of a table row. -/
def row : Category := ⟨"row"⟩

/-- The children of a gallery. -/
def gallery : Category := ⟨"gallery"⟩

instance : Ord Category := ⟨fun a b => compare a.name b.name⟩

end Category

end WikiDoc
