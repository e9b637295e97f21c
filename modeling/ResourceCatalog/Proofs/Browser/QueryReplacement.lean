/-
  ResourceCatalog/Proofs/Browser/QueryReplacement.lean
  ====================================================
  **What is written into the address bar is read back from it.**

  An address is put together from a path, a query and a fragment, and taken apart at the
  first marks again.  That comes out right as long as no part has a mark in it that ends it
  early (`Location.Proper`).  A merged query is made of letters, digits and a few characters
  that are no marks, whatever the tags, the text and the parameters of others are; so it can
  be put into any address, and path and fragment stay what they were.
-/
import ResourceCatalog.Browser.Location
import ResourceCatalog.Proofs.Filter.QueryRoundTrip

namespace ResourceCatalog.Browser

namespace Location

/-! ### Addresses are taken apart where they were put together -/

/-- A part behind its mark, as characters. -/
def behind (mark : Char) : Option (List Char) → List Char
  | none => []
  | some cs => mark :: cs

theorem cut_append_behind {mark : Char} {front : List Char} (h : ¬ mark ∈ front)
    (rest : Option (List Char)) : cut mark (front ++ behind mark rest) = (front, rest) := by
  induction front with
  | nil =>
    cases rest with
    | none => rfl
    | some cs => simp [behind, cut]
  | cons c front ih =>
    rw [List.mem_cons, not_or] at h
    rw [List.cons_append, cut, if_neg (Ne.symm h.1), ih h.2]

/-- No mark stands where it would end a part early. -/
structure Proper (l : Location) : Prop where
  path : ¬ '?' ∈ l.path.toList ∧ ¬ '#' ∈ l.path.toList
  query : ∀ query, l.query = some query → ¬ '#' ∈ query.toList

theorem toList_marked (mark : Char) (part : Option String) :
    (marked (String.singleton mark) part).toList = behind mark (part.map String.toList) := by
  cases part <;> simp [marked, behind]

/-- **A proper address is read as what it was written from.** -/
theorem ofString_text {l : Location} (proper : l.Proper) : ofString l.text = l := by
  obtain ⟨path, query, fragment⟩ := l
  have text : (Location.text ⟨path, query, fragment⟩).toList =
      (path.toList ++ behind '?' (query.map String.toList)) ++
        behind '#' (fragment.map String.toList) := by
    rw [← toList_marked, ← toList_marked, ← String.toList_append, ← String.toList_append]
    rfl
  have noNumber : ¬ '#' ∈ path.toList ++ behind '?' (query.map String.toList) := by
    intro mark
    rcases List.mem_append.mp mark with inPath | inQuery
    · exact proper.path.2 inPath
    · cases query with
      | none => cases inQuery
      | some query =>
        have inText : '#' ∈ query.toList := by simpa [behind] using inQuery
        exact proper.query query rfl inText
  rw [ofString, text, cut_append_behind noNumber]
  simp only [cut_append_behind proper.path.1, String.ofList_toList, Option.map_map]
  simp [Function.comp_def]

/-! ### Another query -/

/-- The location with another query.  A part that is empty is left out with its mark. -/
def replaced (query : String) (l : Location) : Location :=
  { path := l.path
    query := if query = "" then none else some query
    fragment := if l.fragment = some "" then none else l.fragment }

theorem hash_eq (l : Location) :
    l.hash = marked "#" (if l.fragment = some "" then none else l.fragment) := by
  obtain ⟨path, query, fragment⟩ := l
  cases fragment with
  | none => rfl
  | some fragment => by_cases empty : fragment = "" <;> simp [hash, markedUnlessEmpty, marked, empty]

theorem withQuery_eq_text (query : String) (l : Location) :
    l.withQuery query = (l.replaced query).text := by
  rw [withQuery, hash_eq, text, replaced]
  by_cases empty : query = "" <;> simp [markedUnlessEmpty, marked, empty]

theorem Proper.replaced {l : Location} (proper : l.Proper) {query : String}
    (plain : ¬ '#' ∈ query.toList) : (l.replaced query).Proper := by
  refine ⟨proper.path, ?_⟩
  intro other hother
  rw [Location.replaced] at hother
  split at hother
  · cases hother
  · cases hother
    exact plain

theorem hash_replaced (query : String) (l : Location) : (l.replaced query).hash = l.hash := by
  rw [hash_eq, hash_eq, replaced]
  split <;> simp_all

theorem search_replaced (query : String) (l : Location) :
    (l.replaced query).search = if query = "" then "" else "?" ++ query := by
  rw [search, replaced]
  by_cases empty : query = "" <;> simp [markedUnlessEmpty, marked, empty]

end Location

/-! ### The address bar -/

namespace Window

open FilterQuery

/-- The address bar of a page after a query was put into it.  A fragment that is empty is none to a
    page, and its mark is not written again. -/
structure Replaced (query : String) (l : Location) (w : Window) : Prop where
  path : w.location.path = l.path
  hash : w.location.hash = l.hash
  fragment : w.location.fragment = if l.fragment = some "" then none else l.fragment
  readBack : w.currentQuery = if query = "" then "" else "?" ++ query
  address : w.address = l.path ++ w.currentQuery ++ l.hash

/-- A query without a number sign in it can be put into every address. -/
theorem replaced_replaceQuery {l : Location} (proper : l.Proper) {query : String}
    (plain : ¬ '#' ∈ query.toList) :
    Replaced query l (replaceQuery query { address := l.text }) := by
  have address : (Location.ofString l.text).withQuery query = (l.replaced query).text := by
    rw [Location.ofString_text proper, Location.withQuery_eq_text]
  have location : Location.ofString (l.replaced query).text = l.replaced query :=
    Location.ofString_text (proper.replaced plain)
  constructor <;>
    simp only [replaceQuery, Window.location, currentQuery, address, location,
      Location.hash_replaced, Location.search_replaced]
  · rfl
  · rfl
  · rw [← Location.withQuery_eq_text]
    rfl

/-- **The address bar takes a merged query and gives it back.**  Whatever is merged into whatever
    query, the text is made of ASCII letters, digits and eight other characters.  In the address
    bar it changes neither the path nor the fragment, and it is read from there as it is, behind
    a question mark if there is anything in it; so the filters read from the address are those
    read from the text. -/
theorem merged_query_read_back (l : Location) (proper : l.Proper) (existing : String)
    (s : FilterState) :
    (∀ c ∈ (merge existing s).toList,
      c.isAlphanum = true ∨ c ∈ ['*', '-', '.', '_', '+', '%', '=', '&']) ∧
    Replaced (merge existing s) l (replaceQuery (merge existing s) { address := l.text }) ∧
    parse (replaceQuery (merge existing s) { address := l.text }).currentQuery =
      parse (merge existing s) := by
  have form : ∀ c ∈ (merge existing s).toList, Text.Form.isFormChar c = true :=
    fun _ hc => Text.Form.isFormChar_of_mem_write hc
  have replaced := replaced_replaceQuery proper (fun mark => absurd (form _ mark) (by decide))
  refine ⟨?_, replaced, ?_⟩
  · intro c hc
    simpa [Text.Form.isFormChar] using form c hc
  · apply parse_of_withoutMark
    rw [replaced.readBack]
    split
    · rename_i empty
      exact (withoutMark_of_head? (by decide)).trans empty.symm
    · exact withoutMark_mark _

/-- A page with marks in its address wherever they may stand. -/
def crowded : Location :=
  { path := "/a&b/ü", query := some "?x=%zz?&tags=old", fragment := some "?#top" }

theorem merged_query_read_back_crowded :
    crowded.Proper ∧
      (replaceQuery (merge "?x=%zz?" { searchText := "# ü?" }) { address := crowded.text }).address =
        "/a&b/ü?x=%25zz%3F&searchText=%23+%C3%BC%3F#?#top" ∧
      Replaced (merge "?x=%zz?" { searchText := "# ü?" }) crowded
        (replaceQuery (merge "?x=%zz?" { searchText := "# ü?" }) { address := crowded.text }) := by
  have proper : crowded.Proper := by
    refine ⟨by decide, ?_⟩
    intro query hquery
    cases hquery
    decide
  exact ⟨proper, by decide +kernel, (merged_query_read_back crowded proper _ _).2.1⟩

end Window

end ResourceCatalog.Browser
