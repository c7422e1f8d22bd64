import Provision.Program

/-!
# Lists in pages

The server answers a request for a list with a page of it and, while there is
more, with a link to the next page.
-/

namespace Provision

/-- One page of a list. -/
structure Page (Element : Type) where
  items : List Element
  next : Option String

namespace Page

variable {Element : Type}

/-- The names that a link to the next page goes by. -/
def linkName : String := "@odata.nextLink"

/-- The shorter of the names that a link to the next page goes by. -/
def shortLinkName : String := "nextLink"

/-- Reads a page; a list that is missing is empty, and only one name for the link may occur. -/
def decode? (element? : Json → Option Element) (document : Json) : Option (Page Element) := do
  let fields ← document.fields? ["value", linkName]
  let items ← Json.withDefault (Json.list? element?) [] "value" fields
  if Members.has linkName fields && Members.has shortLinkName fields then none
  else
    let long ← Json.optional Json.text? linkName fields
    let short ← Json.optional Json.text? shortLinkName fields
    return ⟨items, long <|> short⟩

/-- The link to the next page; an empty one leads nowhere. -/
def link? (page : Page Element) : Option String :=
  page.next.filter (· ≠ "")

end Page

/-- Reads one document. -/
def readDocument {Value : Type} (value? : Json → Option Value) (what url : String) :
    Program OperationError Value := do
  let document ← (Program.request ⟨.get, url, none⟩).mapFailure (.read what)
  match value? document with
  | some value => return value
  | none => .fail (.decode what)

/-- Reads a list page by page, following at most as many links as `pages` allows. -/
def readPages {Element : Type} (element? : Json → Option Element) (what : String) :
    Nat → String → Program OperationError (List Element)
  | 0, _ => .exhausted
  | pages + 1, url => do
    let page ← readDocument (Page.decode? element?) what url
    match page.link? with
    | none => return page.items
    | some next =>
      let rest ← readPages element? what pages next
      return page.items ++ rest

end Provision
