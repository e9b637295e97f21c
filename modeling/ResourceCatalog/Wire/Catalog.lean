/-
  ResourceCatalog/Wire/Catalog.lean
  =================================
  **Catalog rows in JSON.**

  A row has to have an identifier, a name and a type token, whatever the token
  says; all else falls back to a default, so that a page is not lost for a
  member that is missing or unknown.
-/
import ResourceCatalog.Catalog.Resource
import ResourceCatalog.Json.Decode

namespace ResourceCatalog.Wire

open Json

/-! ### Kinds and statuses -/

def decodeType : Decoder ResourceType :=
  decodeCase (ResourceType.all.map (fun t => Case.plain t.token t))

def typeTree (t : ResourceType) : Tree := .text t.token

def privacyToken : Privacy → String
  | .everyone => "PUBLIC"
  | .restricted => "PRIVATE"

def decodePrivacy : Decoder Privacy :=
  decodeCase ([.everyone, .restricted].map (fun p => Case.plain (privacyToken p) p))

def privacyTree (p : Privacy) : Tree := .text (privacyToken p)

def statusToken : VerificationStatus → String
  | .verified => "VERIFIED"
  | .rejected => "REJECTED"
  | .pending => "PENDING"
  | .none => "NONE"

def decodeStatus : Decoder VerificationStatus :=
  decodeCase ([.verified, .rejected, .pending, .none].map (fun s => Case.plain (statusToken s) s))

def statusTree (s : VerificationStatus) : Tree := .text (statusToken s)

def optionTree (s : Option String) : Tree :=
  match s with
  | some s => .text s
  | none => .null

/-! ### Tags -/

structure TagDraft where
  id : Option String := none
  value : Option String := none

def tagForm : RecordForm TagDraft Tag where
  blank := {}
  fields :=
    [.of "id" TagDraft.id (fun a d => { d with id := some a }) decodeString,
     .of "value" TagDraft.value (fun a d => { d with value := some a }) decodeString]
  finish missing d := do
    let id ← required missing "id" d.id
    let value ← required missing "value" d.value
    return { id, value }

def decodeTag : Decoder Tag := tagForm.decode

def tagTree (t : Tag) : Tree := .record [("id", .text t.id), ("value", .text t.value)]

def decodeTags : Decoder (List Tag) := decodeList decodeTag

def tagsTree (ts : List Tag) : Tree := .list (ts.map tagTree)

/-! ### Authors -/

structure AuthorDraft where
  authorId : Option String := none
  role : Option (Option String) := none

def authorForm : RecordForm AuthorDraft Author where
  blank := {}
  fields :=
    [.of "authorId" AuthorDraft.authorId (fun a d => { d with authorId := some a }) decodeString,
     .of "role" AuthorDraft.role (fun a d => { d with role := some a }) (decodeOption decodeString)]
  finish missing d := do
    let authorId ← required missing "authorId" d.authorId
    return { authorId, role := d.role.getD none }

def decodeAuthor : Decoder Author := authorForm.decode

def authorTree (a : Author) : Tree :=
  .record [("authorId", .text a.authorId), ("role", optionTree a.role)]

/-! ### Rows and pages -/

structure ResourceDraft where
  id : Option String := none
  name : Option String := none
  description : Option String := none
  headerImage : Option String := none
  typeToken : Option String := none
  tags : Option (List Tag) := none
  authors : Option (List Author) := none
  privacy : Option Privacy := none
  status : Option VerificationStatus := none

def resourceForm : RecordForm ResourceDraft Resource where
  blank := {}
  fields :=
    [.of "id" ResourceDraft.id (fun a d => { d with id := some a }) decodeString,
     .of "name" ResourceDraft.name (fun a d => { d with name := some a }) decodeString,
     .of "description" ResourceDraft.description (fun a d => { d with description := some a })
       decodeString,
     .of "headerImage" ResourceDraft.headerImage (fun a d => { d with headerImage := some a })
       decodeString,
     .of "type" ResourceDraft.typeToken (fun a d => { d with typeToken := some a }) decodeString,
     .of "tags" ResourceDraft.tags (fun a d => { d with tags := some a }) decodeTags,
     .of "authors" ResourceDraft.authors (fun a d => { d with authors := some a })
       (decodeList decodeAuthor),
     .of "privacy" ResourceDraft.privacy (fun a d => { d with privacy := some a }) decodePrivacy,
     .of "status" ResourceDraft.status (fun a d => { d with status := some a }) decodeStatus]
  finish missing d := do
    let id ← required missing "id" d.id
    let name ← required missing "name" d.name
    let typeToken ← required missing "type" d.typeToken
    return { id, name, typeToken
             description := d.description.getD ""
             headerImage := d.headerImage.getD ""
             tags := d.tags.getD []
             authors := d.authors.getD []
             privacy := d.privacy.getD .everyone
             status := d.status.getD .none }

def decodeResource : Decoder Resource := resourceForm.decode

def resourceTree (r : Resource) : Tree :=
  .record
    [("id", .text r.id), ("name", .text r.name), ("description", .text r.description),
     ("headerImage", .text r.headerImage), ("type", .text r.typeToken),
     ("tags", tagsTree r.tags), ("authors", .list (r.authors.map authorTree)),
     ("privacy", privacyTree r.privacy), ("status", statusTree r.status)]

structure PageDraft where
  content : Option (List Resource) := none

def pageForm : RecordForm PageDraft Page where
  blank := {}
  fields := [.of "content" PageDraft.content (fun a d => { d with content := some a })
    (decodeList decodeResource)]
  finish _ d := .ok { content := d.content.getD [] }

def decodePage : Decoder Page := pageForm.decode

def pageTree (p : Page) : Tree := .record [("content", .list (p.content.map resourceTree))]

end ResourceCatalog.Wire
