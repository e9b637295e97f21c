/-
  ResourceCatalog/Proofs/Wire/Leniency.lean
  =========================================
  **A page is not lost for what the catalog adds to it, leaves out or reorders.**

  The members of a page, a row, a tag or an author may come in any order, and unknown ones may
  stand among them with whatever value: the same page is read (`PageVersion`).  The rows
  of a page are read one by one, so a row that is changed changes nothing but itself
  (`decodePage_replace`): another type token is kept as it is, and a member that is left
  out falls back to its default (`optionalMembers`).

  All of this is said of texts, and a text has the tree that it spells.
-/
import ResourceCatalog.Proofs.Json.Grammar
import ResourceCatalog.Proofs.Json.Records
import ResourceCatalog.Wire.Catalog

namespace ResourceCatalog.Wire

open Json RecordForm
open Text (joined)

/-! ### Fields that do not look at each other -/

theorem tagForm_independent : Independent tagForm.fields where
  fills := by
    simp only [tagForm, List.mem_cons, List.not_mem_nil, or_false]
    rintro f (rfl | rfl)
    all_goals exact Field.of_fills (fun _ _ => rfl)
  apart := by
    simp only [tagForm, List.mem_cons, List.not_mem_nil, or_false]
    rintro f (rfl | rfl) g (rfl | rfl) other
    all_goals first
      | exact absurd rfl other
      | exact Field.of_apart (fun _ _ => rfl) (fun _ _ _ => rfl)

theorem authorForm_independent : Independent authorForm.fields where
  fills := by
    simp only [authorForm, List.mem_cons, List.not_mem_nil, or_false]
    rintro f (rfl | rfl)
    all_goals exact Field.of_fills (fun _ _ => rfl)
  apart := by
    simp only [authorForm, List.mem_cons, List.not_mem_nil, or_false]
    rintro f (rfl | rfl) g (rfl | rfl) other
    all_goals first
      | exact absurd rfl other
      | exact Field.of_apart (fun _ _ => rfl) (fun _ _ _ => rfl)

theorem resourceForm_independent : Independent resourceForm.fields where
  fills := by
    simp only [resourceForm, List.mem_cons, List.not_mem_nil, or_false]
    rintro f (rfl | rfl | rfl | rfl | rfl | rfl | rfl | rfl | rfl)
    all_goals exact Field.of_fills (fun _ _ => rfl)
  apart := by
    simp only [resourceForm, List.mem_cons, List.not_mem_nil, or_false]
    rintro f (rfl | rfl | rfl | rfl | rfl | rfl | rfl | rfl | rfl) g
      (rfl | rfl | rfl | rfl | rfl | rfl | rfl | rfl | rfl) other
    all_goals first
      | exact absurd rfl other
      | exact Field.of_apart (fun _ _ => rfl) (fun _ _ _ => rfl)

theorem pageForm_independent : Independent pageForm.fields where
  fills := by
    simp only [pageForm, List.mem_singleton]
    rintro f rfl
    exact Field.of_fills (fun _ _ => rfl)
  apart := by
    simp only [pageForm, List.mem_singleton]
    rintro f rfl g rfl other
    exact absurd rfl other

/-! ### Pages in other words -/

/-- A tag with its members in another order, and unknown ones among them. -/
def TagVersion : Tree → Tree → Prop := Rearranged ["id", "value"] (fun _ _ _ => False)

def AuthorVersion : Tree → Tree → Prop := Rearranged ["authorId", "role"] (fun _ _ _ => False)

/-- A row with its members in another order and unknown ones among them, and the same done to
    its tags and authors. -/
def RowVersion : Tree → Tree → Prop :=
  Rearranged
    ["id", "name", "description", "headerImage", "type", "tags", "authors", "privacy", "status"]
    (fun key value value' => (key = "tags" ∧ Items TagVersion value value') ∨
      (key = "authors" ∧ Items AuthorVersion value value'))

/-- A page with its members in another order and unknown ones among them, and the same done to
    its rows. -/
def PageVersion : Tree → Tree → Prop :=
  Rearranged ["content"] (fun key value value' => key = "content" ∧ Items RowVersion value value')

theorem decodeTag_agrees : Agrees decodeTag TagVersion :=
  tagForm_independent.agrees (fun _ _ _ _ _ _ inner => inner.elim)

theorem decodeAuthor_agrees : Agrees decodeAuthor AuthorVersion :=
  authorForm_independent.agrees (fun _ _ _ _ _ _ inner => inner.elim)

theorem decodeResource_agrees : Agrees decodeResource RowVersion := by
  refine resourceForm_independent.agrees ?_
  simp only [resourceForm, List.mem_cons, List.not_mem_nil, or_false]
  rintro f (rfl | rfl | rfl | rfl | rfl | rfl | rfl | rfl | rfl) t t' d d' inner read
  case inr.inr.inr.inr.inr.inl =>
    have tags := (inner.resolve_right (by simp)).2
    exact Field.read_of_agrees decodeTag_agrees.list tags read
  case inr.inr.inr.inr.inr.inr.inl =>
    have authors := (inner.resolve_left (by simp)).2
    exact Field.read_of_agrees decodeAuthor_agrees.list authors read
  all_goals simp at inner

theorem decodePage_agrees : Agrees decodePage PageVersion := by
  refine pageForm_independent.agrees ?_
  simp only [pageForm, List.mem_singleton]
  rintro f rfl t t' d d' inner read
  exact Field.read_of_agrees decodeResource_agrees.list inner.2 read

/-! ### One member of a row -/

/-- A row with a member somewhere among others. -/
def rowWith (front back : List (Tree × Tree)) (key : String) (value : Tree) : Tree :=
  .object (front ++ (.text key, value) :: back) true

theorem resourceForm_finish_iff {missing : String → Fault} {d : ResourceDraft} {r : Resource} :
    resourceForm.finish missing d = .ok r ↔
      d.id = some r.id ∧ d.name = some r.name ∧ d.typeToken = some r.typeToken ∧
        d.description.getD "" = r.description ∧ d.headerImage.getD "" = r.headerImage ∧
        d.tags.getD [] = r.tags ∧ d.authors.getD [] = r.authors ∧
        d.privacy.getD .everyone = r.privacy ∧ d.status.getD .none = r.status := by
  constructor
  · intro finish
    obtain ⟨id, hid, finish⟩ := eq_some_of_required finish
    obtain ⟨name, hname, finish⟩ := eq_some_of_required finish
    obtain ⟨token, htoken, finish⟩ := eq_some_of_required finish
    cases finish
    exact ⟨hid, hname, htoken, rfl, rfl, rfl, rfl, rfl, rfl⟩
  · rintro ⟨id, name, token, description, image, tags, authors, privacy, status⟩
    simp [resourceForm, id, name, token, description, image, tags, authors, privacy, status]

section Member

variable {β : Type} {name : String} {get : ResourceDraft → Option β}
  {set : β → ResourceDraft → ResourceDraft} {decode : Decoder β} {front back : List (Tree × Tree)}
  {value : Tree} {r : Resource}

theorem decodeResource_rowWith_iff
    (found : resourceForm.fields.find? (fun f => f.name = name) =
      some (Field.of name get set decode)) :
    decodeResource (rowWith front back name value) = .ok r ↔
      ∃ d a, readMembers resourceForm.fields (front ++ back) resourceForm.blank = .ok d ∧
        get d = none ∧ decode value = .ok a ∧
        resourceForm.finish .missingField (set a d) = .ok r := by
  rw [decodeResource, rowWith, decode_object_ok]
  simp only [resourceForm_independent.readMembers_member_iff found, Field.of_isSet,
    Option.isSome_eq_false_iff, Option.isNone_iff_eq_none]
  constructor
  · rintro ⟨d', ⟨d, others, unset, read⟩, finish⟩
    obtain ⟨a, ha, rfl⟩ := Field.eq_set_of_read read
    exact ⟨d, a, others, unset, ha, finish⟩
  · rintro ⟨d, a, others, unset, ha, finish⟩
    exact ⟨set a d, ⟨d, others, unset, Field.of_read_ok ha d⟩, finish⟩

/-- A row without a member is read with the default of that member. -/
theorem decodeResource_without
    (found : resourceForm.fields.find? (fun f => f.name = name) =
      some (Field.of name get set decode)) (reset : Resource → Resource)
    (resets : ∀ d a, get d = none → resourceForm.finish .missingField (set a d) = .ok r →
      resourceForm.finish .missingField d = .ok (reset r))
    (read : decodeResource (rowWith front back name value) = .ok r) :
    decodeResource (.object (front ++ back) true) = .ok (reset r) := by
  obtain ⟨d, a, others, unset, -, finish⟩ := (decodeResource_rowWith_iff found).mp read
  exact decode_object_ok.mpr ⟨d, others, resets d a unset finish⟩

end Member

/-- The members that a row can do without, and the row that is read then. -/
def optionalMembers : List (String × (Resource → Resource)) :=
  [("description", fun r => { r with description := "" }),
   ("headerImage", fun r => { r with headerImage := "" }),
   ("tags", fun r => { r with tags := [] }),
   ("authors", fun r => { r with authors := [] }),
   ("privacy", fun r => { r with privacy := .everyone }),
   ("status", fun r => { r with status := .none })]

theorem decodeResource_drop {name : String} {reset : Resource → Resource}
    (optional : (name, reset) ∈ optionalMembers) {front back : List (Tree × Tree)} {value : Tree}
    {r : Resource} (read : decodeResource (rowWith front back name value) = .ok r) :
    decodeResource (.object (front ++ back) true) = .ok (reset r) := by
  simp only [optionalMembers, List.mem_cons, Prod.mk.injEq, List.not_mem_nil, or_false] at optional
  rcases optional with ⟨rfl, same⟩ | ⟨rfl, same⟩ | ⟨rfl, same⟩ | ⟨rfl, same⟩ | ⟨rfl, same⟩ |
    ⟨rfl, same⟩
  all_goals
    apply decodeResource_without rfl reset ?_ read
    intro d a unset finish
    rw [resourceForm_finish_iff] at finish ⊢
    simp_all

/-- Another type token is kept as it is. -/
theorem decodeResource_retype {front back : List (Tree × Tree)} {old : String} {r : Resource}
    (read : decodeResource (rowWith front back "type" (.text old)) = .ok r) (new : String) :
    decodeResource (rowWith front back "type" (.text new)) = .ok { r with typeToken := new } := by
  obtain ⟨d, a, others, unset, -, finish⟩ := (decodeResource_rowWith_iff rfl).mp read
  refine (decodeResource_rowWith_iff rfl).mpr ⟨d, new, others, unset, rfl, ?_⟩
  rw [resourceForm_finish_iff] at finish ⊢
  exact ⟨finish.1, finish.2.1, rfl, finish.2.2.2⟩

/-! ### The rows of a page -/

/-- A page with its rows, somewhere among other members. -/
def pageWith (before behind : List (Tree × Tree)) (rows : List Tree) : Tree :=
  .object (before ++ (.text "content", .list rows) :: behind) true

theorem decodePage_pageWith_iff {before behind : List (Tree × Tree)} {rows : List Tree} {p : Page} :
    decodePage (pageWith before behind rows) = .ok p ↔
      (∃ d, readMembers pageForm.fields (before ++ behind) pageForm.blank = .ok d ∧
        d.content = none) ∧
      List.Forall₂ (fun row r => decodeResource row = .ok r) rows p.content := by
  have found : pageForm.fields.find? (fun f => f.name = "content") =
      some (.of "content" PageDraft.content (fun a d => { d with content := some a })
        (decodeList decodeResource)) := rfl
  rw [decodePage, pageWith, decode_object_ok, ← decodeList_eq_ok_iff]
  simp only [pageForm_independent.readMembers_member_iff found, Field.of_isSet,
    Option.isSome_eq_false_iff, Option.isNone_iff_eq_none]
  constructor
  · rintro ⟨d', ⟨d, others, unset, read⟩, finish⟩
    obtain ⟨rs, hrs, rfl⟩ := Field.eq_set_of_read read
    cases finish
    exact ⟨⟨d, others, unset⟩, hrs⟩
  · rintro ⟨⟨d, others, unset⟩, rows⟩
    exact ⟨_, ⟨d, others, unset, Field.of_read_ok rows d⟩, rfl⟩

theorem forall₂_replace {α β : Type} {R : α → β → Prop} {above below : List α} {a : α}
    {bs : List β} (all : List.Forall₂ R (above ++ a :: below) bs) :
    ∃ b, bs[above.length]? = some b ∧ R a b ∧
      ∀ a' b', R a' b' → List.Forall₂ R (above ++ a' :: below) (bs.set above.length b') := by
  induction above generalizing bs with
  | nil =>
    obtain ⟨b, bs, here, others, rfl⟩ := List.forall₂_cons_left_iff.mp all
    exact ⟨b, rfl, here, fun a' b' related => .cons related others⟩
  | cons c above ih =>
    obtain ⟨b, bs, first, others, rfl⟩ := List.forall₂_cons_left_iff.mp all
    obtain ⟨b', found, here, replace⟩ := ih others
    exact ⟨b', found, here, fun a' b' related => .cons first (replace a' b' related)⟩

/-- **A row that is changed changes nothing but itself.** -/
theorem decodePage_replace {before behind : List (Tree × Tree)} {above below : List Tree}
    {row : Tree} {p : Page}
    (read : decodePage (pageWith before behind (above ++ row :: below)) = .ok p) :
    ∃ r, p.content[above.length]? = some r ∧ decodeResource row = .ok r ∧
      ∀ row' r', decodeResource row' = .ok r' →
        decodePage (pageWith before behind (above ++ row' :: below)) =
          .ok { content := p.content.set above.length r' } := by
  obtain ⟨others, rows⟩ := decodePage_pageWith_iff.mp read
  obtain ⟨r, found, here, replace⟩ := forall₂_replace rows
  exact ⟨r, found, here, fun row' r' read' =>
    decodePage_pageWith_iff.mpr ⟨others, replace row' r' read'⟩⟩

/-! ### All that is lenient -/

/-- What the texts of pages have in common with texts that say nearly the same.  Every text that is
    read as a page spells a tree that is read as that page.  The order of members and unknown
    members make no difference.  Another type token in a row is kept as it is, and a row without
    one of the members that it can do without has the default of that member; nothing else is
    changed.  A page with one array of rows is read exactly when each of its rows is, and then as
    the rows that are read, in order. -/
structure LenientPages : Prop where
  spelled : ∀ {s : String} {p : Page}, decodeText decodePage s = .ok p →
    ∃ t, Spells t s.toList ∧ decodePage t = .ok p
  rearranged : ∀ {s s' : String} {t t' : Tree} {p : Page}, Spells t s.toList →
    Spells t' s'.toList → PageVersion t t' → decodeText decodePage s = .ok p →
    decodeText decodePage s' = .ok p
  retyped : ∀ {s s' old new : String} {before behind front back : List (Tree × Tree)}
      {above below : List Tree} {p : Page},
    Spells (pageWith before behind (above ++ rowWith front back "type" (.text old) :: below))
      s.toList →
    Spells (pageWith before behind (above ++ rowWith front back "type" (.text new) :: below))
      s'.toList →
    decodeText decodePage s = .ok p →
    ∃ r, p.content[above.length]? = some r ∧
      decodeText decodePage s' =
        .ok { content := p.content.set above.length { r with typeToken := new } }
  dropped : ∀ {s s' name : String} {reset : Resource → Resource}
      {before behind front back : List (Tree × Tree)} {value : Tree} {above below : List Tree}
      {p : Page}, (name, reset) ∈ optionalMembers →
    Spells (pageWith before behind (above ++ rowWith front back name value :: below)) s.toList →
    Spells (pageWith before behind (above ++ .object (front ++ back) true :: below)) s'.toList →
    decodeText decodePage s = .ok p →
    ∃ r, p.content[above.length]? = some r ∧
      decodeText decodePage s' = .ok { content := p.content.set above.length (reset r) }
  rowwise : ∀ {s : String} {before behind : List (Tree × Tree)} {rows : List Tree},
    Spells (pageWith before behind rows) s.toList → Strangers ["content"] (before ++ behind) →
    ∃ texts, List.Forall₂ Spells rows texts ∧
      (rows = [] ∨ '[' :: (joined ',' texts ++ [']']) <:+: s.toList) ∧
      ∀ p, decodeText decodePage s = .ok p ↔
        List.Forall₂ (fun text r => decodeText decodeResource (String.ofList text) = .ok r)
          texts p.content

/-- Trees that are spelled one by one are read as their texts are. -/
theorem forall₂_spells_iff {α : Type} {decode : Decoder α} {ts : List Tree}
    {texts : List (List Char)} (spelled : List.Forall₂ Spells ts texts) {as : List α} :
    List.Forall₂ (fun t a => decode t = .ok a) ts as ↔
      List.Forall₂ (fun text a => decodeText decode (String.ofList text) = .ok a) texts as := by
  induction spelled generalizing as with
  | nil => simp
  | @cons t text _ _ first _ ih =>
    have same : decodeText decode (String.ofList text) = decode t :=
      decodeText_of_spells (by rwa [String.toList_ofList]) decode
    simp only [List.forall₂_cons_left_iff, ih, same]

/-- **Pages are read leniently.** -/
theorem lenient_pages : LenientPages where
  spelled := fun read => spells_of_decodeText read
  rearranged := by
    intro s s' t t' p spells spells' version read
    rw [decodeText_of_spells spells] at read
    rw [decodeText_of_spells spells']
    exact decodePage_agrees version read
  retyped := by
    intro s s' old new before behind front back above below p spells spells' read
    rw [decodeText_of_spells spells] at read
    obtain ⟨r, found, row, replace⟩ := decodePage_replace read
    refine ⟨r, found, ?_⟩
    rw [decodeText_of_spells spells']
    exact replace _ _ (decodeResource_retype row new)
  dropped := by
    intro s s' name reset before behind front back value above below p optional spells spells' read
    rw [decodeText_of_spells spells] at read
    obtain ⟨r, found, row, replace⟩ := decodePage_replace read
    refine ⟨r, found, ?_⟩
    rw [decodeText_of_spells spells']
    exact replace _ _ (decodeResource_drop optional row)
  rowwise := by
    intro s before behind rows spells strangers
    obtain ⟨texts, spelled, inside⟩ : ∃ texts, List.Forall₂ Spells rows texts ∧
        (rows = [] ∨ '[' :: (joined ',' texts ++ [']']) <:+: s.toList) := by
      by_cases filled : rows = []
      · subst filled
        exact ⟨[], .nil, Or.inl rfl⟩
      · obtain ⟨content, list, within⟩ := spells.value_text
          (List.mem_append_right before List.mem_cons_self)
        obtain ⟨texts, spelled, among⟩ := list.item_texts filled
        exact ⟨texts, spelled, Or.inr (among.trans within)⟩
    refine ⟨texts, spelled, inside, fun p => ?_⟩
    have others : ∃ d, readMembers pageForm.fields (before ++ behind) pageForm.blank = .ok d ∧
        d.content = none := ⟨_, readMembers_strangers strangers, rfl⟩
    rw [decodeText_of_spells spells, decodePage_pageWith_iff, and_iff_right others,
      forall₂_spells_iff spelled]

/-- A row whose members are all texts. -/
def textRow (members : List (String × String)) : Tree :=
  .record (members.map (fun m => (m.1, .text m.2)))

/-- The text of a page with such rows and nothing else. -/
def pageText (rows : List (List (String × String))) : String :=
  (Tree.record [("content", .list (rows.map textRow))]).compact

theorem textRow_whole (members : List (String × String)) : (textRow members).Whole := by
  refine .record (fun m hm => ?_)
  obtain ⟨_, _, rfl⟩ := List.mem_map.mp hm
  exact .text _

theorem spells_pageText (rows : List (List (String × String))) :
    Spells (pageWith [] [] (rows.map textRow)) (pageText rows).toList := by
  have list : (Tree.list (rows.map textRow)).Whole := by
    refine .list (fun t ht => ?_)
    obtain ⟨row, -, rfl⟩ := List.mem_map.mp ht
    exact textRow_whole row
  have page : (Tree.record [("content", .list (rows.map textRow))]).Whole := by simp [list]
  exact Tree.spells_compact page

theorem strangers_singleton {names : List String} {key : String} (unknown : key ∉ names)
    (value : Tree) : Strangers names [(.text key, value)] := by
  intro m hm
  obtain rfl := List.mem_singleton.mp hm
  exact ⟨key, rfl, unknown⟩

def shortRow (type : String) : List (String × String) := [("id", "a"), ("name", "b"), ("type", type)]

/-- A page is read with unknown members in it, with another type in its row, without the
    description of its row and with a row more, but not with a row that has no members. -/
theorem lenient_pages_unknown_members :
    decodeText decodePage
        (Tree.record [("pages", .nat 7), ("content", .list [.record [("more", .list [.null]),
          ("id", .text "a"), ("name", .text "b"), ("type", .text "PROJECT"),
          ("description", .text "c")]])]).compact =
      .ok { content := [⟨"a", "b", "c", "", "PROJECT", [], [], .everyone, .none⟩] } ∧
    decodeText decodePage (pageText [shortRow "POSTER" ++ [("description", "c")]]) =
      .ok { content := [⟨"a", "b", "c", "", "POSTER", [], [], .everyone, .none⟩] } ∧
    decodeText decodePage (pageText [shortRow "PROJECT"]) =
      .ok { content := [⟨"a", "b", "", "", "PROJECT", [], [], .everyone, .none⟩] } ∧
    decodeText decodePage (pageText [shortRow "PROJECT", shortRow "MODEL"]) =
      .ok { content := [⟨"a", "b", "", "", "PROJECT", [], [], .everyone, .none⟩,
        ⟨"a", "b", "", "", "MODEL", [], [], .everyone, .none⟩] } ∧
    ∀ p, decodeText decodePage (pageText [shortRow "PROJECT", []]) ≠ .ok p := by
  have described : ∀ type, Spells
      (pageWith [] [] ([] ++ rowWith [(.text "id", .text "a"), (.text "name", .text "b")]
        [(.text "description", .text "c")] "type" (.text type) :: []))
      (pageText [shortRow type ++ [("description", "c")]]).toList :=
    fun type => spells_pageText [shortRow type ++ [("description", "c")]]
  have read : decodeText decodePage (pageText [shortRow "PROJECT" ++ [("description", "c")]]) =
      .ok { content := [⟨"a", "b", "c", "", "PROJECT", [], [], .everyone, .none⟩] } := by
    rw [decodeText_of_spells (described "PROJECT")]
    rfl
  have strangers : ∀ names, Strangers names [] := fun _ _ hm => nomatch hm
  refine ⟨?_, ?_, ?_, ?_, ?_⟩
  · have nested : (Tree.list [.null]).Whole := .list (by simp)
    have rows : (Tree.list [.record [("more", .list [.null]), ("id", .text "a"),
        ("name", .text "b"), ("type", .text "PROJECT"), ("description", .text "c")]]).Whole :=
      .list (by simp [nested])
    have more := strangers_singleton
      (by decide : "more" ∉ resourceForm.fields.map Field.name) (.list [.null])
    have pages := strangers_singleton (by decide : "pages" ∉ ["content"]) (.nat 7)
    refine lenient_pages.rearranged (described "PROJECT")
      (Tree.spells_compact (by simp [rows])) ?_ read
    refine .object (.cons (.inside ⟨rfl, .list (.cons ?_ .nil)⟩) .nil) pages (.swap _ _ _)
    refine .object (.cons (.same _) (.cons (.same _) (.cons (.same _) (.cons (.same _) .nil)))) more ?_
    exact (List.perm_append_singleton _ _).symm
  · obtain ⟨r, found, retyped⟩ :=
      lenient_pages.retyped (described "PROJECT") (described "POSTER") read
    cases found
    exact retyped
  · have whole : Spells
        (pageWith [] [] ([] ++ rowWith [(.text "id", .text "a"), (.text "name", .text "b"),
          (.text "type", .text "PROJECT")] [] "description" (.text "c") :: []))
        (pageText [shortRow "PROJECT" ++ [("description", "c")]]).toList :=
      described "PROJECT"
    have short : Spells
        (pageWith [] [] ([] ++ .object ([(.text "id", .text "a"), (.text "name", .text "b"),
          (.text "type", .text "PROJECT")] ++ []) true :: []))
        (pageText [shortRow "PROJECT"]).toList :=
      spells_pageText [shortRow "PROJECT"]
    have optional : ("description", fun r : Resource => { r with description := "" }) ∈
        optionalMembers := List.mem_cons_self
    obtain ⟨r, found, dropped⟩ := lenient_pages.dropped optional whole short read
    cases found
    exact dropped
  · have spells := spells_pageText [shortRow "PROJECT", shortRow "MODEL"]
    obtain ⟨texts, spelled, -, reads⟩ := lenient_pages.rowwise spells (strangers _)
    exact (reads _).mpr ((forall₂_spells_iff spelled).mp (.cons rfl (.cons rfl .nil)))
  · intro p page
    have spells := spells_pageText [shortRow "PROJECT", []]
    obtain ⟨texts, spelled, -, reads⟩ := lenient_pages.rowwise spells (strangers _)
    have rows := (forall₂_spells_iff spelled).mpr ((reads p).mp page)
    obtain ⟨_, _, -, behind, -⟩ := List.forall₂_cons_left_iff.mp rows
    obtain ⟨_, _, bare, -, -⟩ := List.forall₂_cons_left_iff.mp behind
    cases bare

end ResourceCatalog.Wire
