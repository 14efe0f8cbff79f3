import Phrasebook.Files.Tree
import Phrasebook.Document.Render
import Phrasebook.Catalog.Basic

/-! # Catalog files

A catalog file is read as UTF-8 text and then as a document; a fault of the file is a read
error of the document. Writing a document writes its text.
-/

namespace Phrasebook

namespace Document

/-- Reads the document of a file. -/
def readFile (t : Files.Tree) (path : String) : Except ReadError Document :=
  match t.read path with
  | .ok text => Document.read text
  | .error f => .error (.file f)

/-- Writes a document to a file. -/
def writeFile (t : Files.Tree) (path : String) (d : Document) : Except ReadError Files.Tree :=
  match t.write path d.render with
  | .ok t' => .ok t'
  | .error f => .error (.file f)

end Document

/-- Reads the catalog of a file. -/
def Catalog.readFile (t : Files.Tree) (path : String) : Except CatalogError Catalog :=
  match Document.readFile t path with
  | .ok d => Catalog.ofDocument d
  | .error e => .error (.read e)

end Phrasebook
