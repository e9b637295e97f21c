/-
  ResourceCatalog/Proofs/Url/Query.lean
  =====================================
  **The query of an address.**

  A question mark begins the query of an address and a number sign ends it.  An
  address that has neither goes on with whatever path is put behind it
  (`ofString?_append`).  What is written in front of a query has neither, so the
  query can be cut out of the written text again (`isQueryOf_text`).
-/
import Mathlib.Data.List.TakeWhile
import ResourceCatalog.Proofs.Text.FormRoundTrip
import ResourceCatalog.Url.Address

namespace ResourceCatalog

namespace Text

/-! ### Texts that go on -/

section Going

variable {p : Char → Bool} {cs more : List Char}

/-- A text that goes on with something else is cut off where it was. -/
theorem takeWhile_append_of_head? (stop : ∀ c ∈ more.head?, p c = false) :
    (cs ++ more).takeWhile p = cs.takeWhile p := by
  induction cs with
  | nil =>
    cases more with
    | nil => rfl
    | cons c more => exact List.takeWhile_cons_of_neg (by simp [stop c rfl])
  | cons c cs ih =>
    rw [List.cons_append, List.takeWhile_cons, List.takeWhile_cons, ih]

theorem dropWhile_append_of_head? (stop : ∀ c ∈ more.head?, p c = false) :
    (cs ++ more).dropWhile p = cs.dropWhile p ++ more := by
  induction cs with
  | nil =>
    cases more with
    | nil => rfl
    | cons c more => exact List.dropWhile_cons_of_neg (by simp [stop c rfl])
  | cons c cs ih =>
    rw [List.cons_append, List.dropWhile_cons, List.dropWhile_cons, ih]
    split <;> rfl

theorem takeWhile_append_of_dropWhile_ne_nil (rest : cs.dropWhile p ≠ []) :
    (cs ++ more).takeWhile p = cs.takeWhile p := by
  rw [List.takeWhile_append, if_neg]
  intro whole
  apply rest
  have parts := congrArg List.length (List.takeWhile_append_dropWhile (p := p) (l := cs))
  rw [List.length_append, whole] at parts
  exact List.eq_nil_of_length_eq_zero (by omega)

theorem dropWhile_append_of_dropWhile_ne_nil (rest : cs.dropWhile p ≠ []) :
    (cs ++ more).dropWhile p = cs.dropWhile p ++ more := by
  rw [List.dropWhile_append, if_neg]
  rwa [List.isEmpty_iff]

end Going

end Text

namespace Url.Address

open Text

/-! ### How an address is read -/

def inAuthority (c : Char) : Bool := !(isSlash c || c = '?' || c = '#')

def inPath (c : Char) : Bool := !(c = '?' || c = '#')

/-- The host and port, as they are given behind the colon of the scheme. -/
def authorityOf (rest : List Char) : List Char × Option (List Char) :=
  cutPort false (behindCredentials ((rest.dropWhile isSlash).takeWhile inAuthority))

/-- What follows the host and port. -/
def behindAuthority (rest : List Char) : List Char :=
  (rest.dropWhile isSlash).dropWhile inAuthority

/-- What is read has a scheme, a host and a port, and the rest is cut up at its marks. -/
theorem ofString?_eq_some_iff {s : String} {a : Address} :
    ofString? s = some a ↔ ∃ rest host,
      readScheme? (cleaned s.toList) = some (a.scheme, rest) ∧
      Host.ofChars? (authorityOf rest).1 = some host ∧ a.host = String.ofList host ∧
      readPort? a.scheme (authorityOf rest).2 = some a.port ∧
      a.path = readPath ((behindAuthority rest).takeWhile inPath) ∧
      a.query = ((behindMark '?' ((behindAuthority rest).dropWhile inPath)).map
        (·.takeWhile (· ≠ '#'))).map (fun q => String.ofList (escapeAll escapedInQuery q)) ∧
      a.fragment = (behindMark '#' (((behindAuthority rest).dropWhile inPath).dropWhile
        (· ≠ '#'))).map (fun f => String.ofList (escapeAll escapedInFragment f)) := by
  simp only [ofString?, Option.bind_eq_bind, Option.bind_eq_some_iff, Option.pure_def]
  constructor
  · rintro ⟨⟨scheme, rest⟩, hscheme, host, hhost, port, hport, made⟩
    cases made
    exact ⟨rest, host, hscheme, hhost, rfl, hport, rfl, rfl, rfl⟩
  · rintro ⟨rest, host, hscheme, hhost, host_eq, hport, path_eq, query_eq, fragment_eq⟩
    refine ⟨(a.scheme, rest), hscheme, host, hhost, a.port, hport, ?_⟩
    obtain ⟨scheme, name, port, path, query, fragment⟩ := a
    simp only at host_eq path_eq query_eq fragment_eq
    subst host_eq path_eq query_eq fragment_eq
    rfl

/-! ### Addresses that go on -/

section Going

variable {cs more : List Char}

theorem cleaned_append (last : ∀ c ∈ cs.getLast?, isBlankOrControl c = false)
    (clean : ∀ c ∈ more, isBlankOrControl c = false) : cleaned (cs ++ more) = cleaned cs ++ more := by
  have first : ∀ c ∈ more.head?, isBlankOrControl c = false :=
    fun c hc => clean c (List.mem_of_mem_head? hc)
  have lastLeft : ∀ c ∈ (cs.dropWhile isBlankOrControl).getLast?, isBlankOrControl c = false :=
    fun c hc => last c (getLast?_dropWhile hc)
  have lastOfAll : ∀ c ∈ (cs.dropWhile isBlankOrControl ++ more).getLast?,
      isBlankOrControl c = false := by
    intro c hc
    rw [List.getLast?_append, Option.mem_def, Option.or_eq_some_iff] at hc
    rcases hc with hc | ⟨-, hc⟩
    · exact clean c (List.mem_of_getLast? hc)
    · exact lastLeft c hc
  have kept : more.filter (fun c => !(c = '\t' || c = '\n' || c = '\r')) = more := by
    refine List.filter_eq_self.mpr (fun c hc => ?_)
    have visible := clean c hc
    simp only [Bool.not_eq_true', Bool.or_eq_false_iff, decide_eq_false_iff_not]
    refine ⟨⟨?_, ?_⟩, ?_⟩ <;>
      · rintro rfl
        cases visible
  rw [cleaned, cleaned, dropWhile_append_of_head? first, dropEndWhile_of_getLast? lastOfAll,
    dropEndWhile_of_getLast? lastLeft, List.filter_append, kept]

theorem readScheme?_append {scheme : Scheme} {rest : List Char}
    (h : readScheme? cs = some (scheme, rest)) :
    readScheme? (cs ++ more) = some (scheme, rest ++ more) := by
  have behind : cs.dropWhile (· ≠ ':') ≠ [] := by
    intro none
    rw [readScheme?, none] at h
    cases h
  rw [readScheme?] at h ⊢
  rw [takeWhile_append_of_dropWhile_ne_nil behind, dropWhile_append_of_dropWhile_ne_nil behind]
  rcases hcs : cs.dropWhile (· ≠ ':') with _ | ⟨colon, tail⟩
  · exact absurd hcs behind
  · rw [hcs] at h
    split at h
    · rename_i rest' heq
      cases heq
      split at h <;> cases h <;> rfl
    · cases h

theorem authorityOf_nil {rest : List Char} (nothing : rest.dropWhile isSlash = []) :
    (authorityOf rest).1 = [] := by
  rw [authorityOf, nothing]
  rfl

/-- There is no host without characters. -/
theorem dropWhile_isSlash_ne_nil {rest host : List Char}
    (h : Host.ofChars? (authorityOf rest).1 = some host) : rest.dropWhile isSlash ≠ [] := by
  intro nothing
  rw [authorityOf_nil nothing] at h
  cases h

section Path

variable {rest : List Char} (some_authority : rest.dropWhile isSlash ≠ [])
  (path : ∀ c ∈ more.head?, inAuthority c = false)

include some_authority path

theorem authorityOf_append : authorityOf (rest ++ more) = authorityOf rest := by
  rw [authorityOf, authorityOf, dropWhile_append_of_dropWhile_ne_nil some_authority,
    takeWhile_append_of_head? path]

theorem behindAuthority_append : behindAuthority (rest ++ more) = behindAuthority rest ++ more := by
  rw [behindAuthority, behindAuthority, dropWhile_append_of_dropWhile_ne_nil some_authority,
    dropWhile_append_of_head? path]

end Path

/-- Without a query and a fragment there is nothing but a path. -/
theorem dropWhile_inPath_eq_nil {behind : List Char}
    (noQuery : behindMark '?' (behind.dropWhile inPath) = none)
    (noFragment : behindMark '#' ((behind.dropWhile inPath).dropWhile (· ≠ '#')) = none) :
    behind.dropWhile inPath = [] := by
  rcases hmark : behind.dropWhile inPath with _ | ⟨c, tail⟩
  · rfl
  · have first : c ∈ (behind.dropWhile inPath).head? := by
      rw [hmark]
      rfl
    have stopped := head?_dropWhile c first
    rw [hmark] at noQuery noFragment
    simp only [inPath, Bool.not_eq_false', Bool.or_eq_true, decide_eq_true_eq] at stopped
    rcases stopped with rfl | rfl
    · cases noQuery
    · cases noFragment

/-- **An address without query and fragment goes on with any path**: it is the same service
    that is meant, and there is no query or fragment still. -/
theorem ofString?_append {root more : String} {a : Address} (reads : ofString? root = some a)
    (noQuery : a.query = none) (noFragment : a.fragment = none)
    (last : ∀ c ∈ root.toList.getLast?, isBlankOrControl c = false)
    (first : ∀ c ∈ more.toList.head?, isSlash c = true)
    (clean : ∀ c ∈ more.toList, isBlankOrControl c = false ∧ inPath c = true) :
    ∃ b, ofString? (root ++ more) = some b ∧ b.scheme = a.scheme ∧ b.host = a.host ∧
      b.port = a.port ∧ b.query = none ∧ b.fragment = none := by
  obtain ⟨rest, host, hscheme, hhost, host_eq, hport, -, query_eq, fragment_eq⟩ :=
    ofString?_eq_some_iff.mp reads
  rw [noQuery, eq_comm, Option.map_eq_none_iff, Option.map_eq_none_iff] at query_eq
  rw [noFragment, eq_comm, Option.map_eq_none_iff] at fragment_eq
  have authority := dropWhile_isSlash_ne_nil hhost
  have path : ∀ c ∈ more.toList.head?, inAuthority c = false := by
    intro c hc
    rw [inAuthority, first c hc]
    rfl
  have onlyPath : (behindAuthority (rest ++ more.toList)).dropWhile inPath = [] := by
    have before := List.dropWhile_eq_nil_iff.mp (dropWhile_inPath_eq_nil query_eq fragment_eq)
    rw [behindAuthority_append authority path]
    refine List.dropWhile_eq_nil_iff.mpr (fun c hc => ?_)
    rcases List.mem_append.mp hc with hc | hc
    · exact before c hc
    · exact (clean c hc).2
  refine ⟨{ a with path := readPath ((behindAuthority (rest ++ more.toList)).takeWhile inPath) },
    ?_, rfl, rfl, rfl, noQuery, noFragment⟩
  refine ofString?_eq_some_iff.mpr ⟨rest ++ more.toList, host, ?_, ?_, host_eq, ?_, rfl, ?_, ?_⟩
  · rw [String.toList_append, cleaned_append last (fun c hc => (clean c hc).1)]
    exact readScheme?_append hscheme
  · rw [authorityOf_append authority path]
    exact hhost
  · rw [authorityOf_append authority path]
    exact hport
  · rw [onlyPath]
    exact noQuery
  · rw [onlyPath]
    exact noFragment

end Going

/-! ### What has no marks -/

/-- No character begins a query or a fragment. -/
def Unmarked (cs : List Char) : Prop := ∀ c ∈ cs, inPath c = true

instance (cs : List Char) : Decidable (Unmarked cs) := List.decidableBAll _ cs

section Unmarked

variable {cs ds : List Char}

theorem Unmarked.append (hc : Unmarked cs) (hd : Unmarked ds) : Unmarked (cs ++ ds) := by
  intro x hx
  rcases List.mem_append.mp hx with h | h
  · exact hc x h
  · exact hd x h

theorem Unmarked.intercalate {ps : List (List Char)} (between : Unmarked cs)
    (each : ∀ p ∈ ps, Unmarked p) : Unmarked (cs.intercalate ps) := by
  induction ps with
  | nil => exact fun c hc => nomatch hc
  | cons p ps ih =>
    have first := each p List.mem_cons_self
    have rest := ih (fun q hq => each q (List.mem_cons_of_mem p hq))
    cases ps with
    | nil => simpa [List.intercalate] using first
    | cons q ps =>
      rw [List.intercalate_cons_cons]
      exact (first.append between).append rest

theorem unmarked_toDigits {base : Nat} (h : 1 < base) (digits : base ≤ 16) (n : Nat) :
    Unmarked (Nat.toDigits base n) := by
  have digit : ∀ d : Fin 16, Unmarked [Nat.digitChar d.val] := by decide
  induction n using Nat.strong_induction_on with
  | _ n ih =>
    rcases Nat.lt_or_ge n base with small | large
    · rw [Nat.toDigits_of_lt_base small]
      exact digit ⟨n, by omega⟩
    · have last : n % base < 16 := (Nat.mod_lt n (by omega)).trans_le digits
      rw [Nat.toDigits_of_base_le h large]
      exact (ih _ (Nat.div_lt_self (by omega) h)).append (digit ⟨n % base, last⟩)

theorem unmarked_toString (n : Nat) : Unmarked (toString n).toList := by
  have digits : (toString n).toList = Nat.toDigits 10 n := by
    rw [Nat.toString_eq_repr, Nat.repr, String.toList_ofList]
  rw [digits]
  exact unmarked_toDigits (by decide) (by decide) n

end Unmarked

theorem unmarked_of_ipv4? {cs host : List Char} (h : Host.ipv4? cs = some host) :
    Unmarked host := by
  rw [Host.ipv4?] at h
  split at h
  · obtain ⟨n, -, rfl⟩ := Option.map_eq_some_iff.mp h
    refine Unmarked.intercalate (by decide) (fun p hp => ?_)
    simp only [List.mem_cons, List.not_mem_nil, or_false] at hp
    rcases hp with rfl | rfl | rfl | rfl <;> exact unmarked_toString _
  · cases h

theorem unmarked_of_ipv6? {cs host : List Char} (h : Host.ipv6? cs = some host) :
    Unmarked host := by
  have groups : ∀ ns, Unmarked (Host.writeGroups ns) := by
    intro ns
    refine Unmarked.intercalate (by decide) (fun p hp => ?_)
    obtain ⟨n, -, rfl⟩ := List.mem_map.mp hp
    exact unmarked_toDigits (by decide) (by decide) n
  have eight : ∀ ns, Unmarked (Host.writeEight ns) := by
    intro ns
    rw [Host.writeEight]
    split
    split
    · exact groups ns
    · exact ((groups _).append (by decide)).append (groups _)
  obtain ⟨ns, -, rfl⟩ := Option.map_eq_some_iff.mp h
  have opening : Unmarked ['['] := by decide
  exact (opening.append (eight ns)).append (by decide)

theorem unmarked_of_name? {cs host : List Char} (h : Host.name? cs = some host) :
    Unmarked host := by
  simp only [Host.name?, Option.bind_eq_bind, Option.bind_eq_some_iff] at h
  obtain ⟨decoded, -, labels, -, made⟩ := h
  split at made
  · cases made
  · rename_i allowed
    split at made
    · exact unmarked_of_ipv4? made
    · cases made
      intro c hc
      have other : Host.isForbidden c = false := by
        simp only [Bool.or_eq_true, not_or, List.any_eq_true, not_exists, not_and] at allowed
        simpa using allowed.2 c hc
      rw [inPath, Bool.not_eq_true', Bool.or_eq_false_iff, decide_eq_false_iff_not,
        decide_eq_false_iff_not]
      refine ⟨?_, ?_⟩ <;>
        · rintro rfl
          cases other

/-- A host that was read has no marks, be it a name or a number. -/
theorem unmarked_of_ofChars? {cs host : List Char} (h : Host.ofChars? cs = some host) :
    Unmarked host := by
  rw [Host.ofChars?.eq_def] at h
  split at h
  · split at h
    · exact unmarked_of_ipv6? h
    · cases h
  · exact unmarked_of_name? h

theorem unmarked_escape (c : Char) : Unmarked (escape c) := by
  have digit : ∀ d : Fin 16, inPath (Char.ofNat (capitalDigit d.val)) = true := by decide
  intro x hx
  obtain ⟨b, -, hx⟩ := List.mem_flatMap.mp hx
  have bound : b.toNat < 256 := UInt8.toNat_lt b
  simp only [List.mem_cons, List.not_mem_nil, or_false] at hx
  rcases hx with rfl | rfl | rfl
  · rfl
  · exact digit ⟨b.toNat / 16, by omega⟩
  · exact digit ⟨b.toNat % 16, by omega⟩

theorem unmarked_escapeAll (cs : List Char) : Unmarked (escapeAll escapedInPath cs) := by
  intro x hx
  obtain ⟨c, -, hx⟩ := List.mem_flatMap.mp hx
  split at hx
  · exact unmarked_escape c x hx
  · rename_i kept
    rw [List.mem_singleton.mp hx, inPath, Bool.not_eq_true', Bool.or_eq_false_iff,
      decide_eq_false_iff_not, decide_eq_false_iff_not]
    refine ⟨?_, ?_⟩ <;>
      · rintro rfl
        exact kept rfl

/-- Resolving dot segments makes no segments but empty ones. -/
theorem forall_mem_resolve {P : List Char → Prop} (empty : P []) {segments passed : List (List Char)}
    (hs : ∀ p ∈ segments, P p) (hp : ∀ p ∈ passed, P p) : ∀ p ∈ resolve segments passed, P p := by
  induction segments generalizing passed with
  | nil => exact fun p h => hp p (List.mem_reverse.mp h)
  | cons s rest ih =>
    have left : ∀ passed, (∀ p ∈ passed, P p) → ∀ p ∈ resolve rest passed, P p :=
      fun passed => ih (fun p h => hs p (List.mem_cons_of_mem s h))
    have kept : ∀ p ∈ (if isDoubleDot s then passed.drop 1 else passed), P p := by
      split
      · exact fun p h => hp p (List.mem_of_mem_drop h)
      · exact hp
    rw [resolve.eq_def]
    dsimp only
    split
    · split
      · exact left _ (List.forall_mem_cons.mpr ⟨empty, kept⟩)
      · exact left _ kept
    · exact left _ (List.forall_mem_cons.mpr ⟨hs s List.mem_cons_self, kept⟩)

theorem unmarked_of_mem_readPath {cs : List Char} {segment : String}
    (h : segment ∈ readPath cs) : Unmarked segment.toList := by
  rw [readPath.eq_def] at h
  obtain ⟨p, hp, rfl⟩ := List.mem_map.mp h
  rw [String.toList_ofList]
  refine forall_mem_resolve (by decide) (fun q hq => ?_) (fun q hq => nomatch hq) p hp
  obtain ⟨segment, -, rfl⟩ := List.mem_map.mp hq
  exact unmarked_escapeAll segment

/-! ### The query in the text -/

/-- The address as far as its path. -/
def front (a : Address) : String :=
  a.scheme.name ++ "://" ++ a.host
    ++ (match a.port with
        | some n => ":" ++ toString n
        | none => "")
    ++ "".intercalate (a.path.map ("/" ++ ·))

theorem unmarked_front {s : String} {a : Address} (reads : ofString? s = some a) :
    Unmarked a.front.toList := by
  obtain ⟨rest, host, -, hhost, host_eq, -, path_eq, -⟩ := ofString?_eq_some_iff.mp reads
  have scheme : Unmarked a.scheme.name.toList := by cases a.scheme <;> decide
  have name : Unmarked a.host.toList := by
    rw [host_eq, String.toList_ofList]
    exact unmarked_of_ofChars? hhost
  have port : Unmarked (match a.port with
      | some n => ":" ++ toString n
      | none => "").toList := by
    split
    · rw [String.toList_append]
      exact Unmarked.append (by decide) (unmarked_toString _)
    · decide
  have path : Unmarked ("".intercalate (a.path.map ("/" ++ ·))).toList := by
    rw [String.toList_intercalate]
    refine Unmarked.intercalate (by decide) (fun p hp => ?_)
    simp only [List.mem_map] at hp
    obtain ⟨_, ⟨segment, hsegment, rfl⟩, rfl⟩ := hp
    rw [path_eq] at hsegment
    rw [String.toList_append]
    exact Unmarked.append (by decide) (unmarked_of_mem_readPath hsegment)
  simp only [front, String.toList_append]
  exact (((scheme.append (by decide)).append name).append port).append path

/-- The query begins behind the first question mark and goes on to the end of the text, as
    there is no number sign to begin a fragment. -/
def IsQueryOf (text query : String) : Prop :=
  ∃ front, text = front ++ "?" ++ query ∧ ¬ '?' ∈ front.toList ∧ ¬ '#' ∈ text.toList

/-- A text has no more than one query. -/
theorem IsQueryOf.unique {text query other : String} (h : IsQueryOf text query)
    (h' : IsQueryOf text other) : query = other := by
  have cut : ∀ (front query : String), ¬ '?' ∈ front.toList →
      (front ++ "?" ++ query).toList.dropWhile (· ≠ '?') = '?' :: query.toList := by
    intro front query plain
    rw [String.toList_append, String.toList_append, List.append_assoc,
      List.dropWhile_append_of_pos (fun c hc => decide_eq_true (ne_of_mem_of_not_mem hc plain))]
    rfl
  obtain ⟨front, rfl, plain, -⟩ := h
  obtain ⟨front', same, plain', -⟩ := h'
  have tails := cut front query plain
  rw [same, cut front' other plain'] at tails
  exact (String.toList_injective (List.cons.inj tails).2).symm

/-- What is written behind an address that was read is its query. -/
theorem isQueryOf_text {s query : String} {a : Address} (reads : ofString? s = some a)
    (noFragment : a.fragment = none) (plain : ¬ '#' ∈ query.toList) :
    IsQueryOf ({ a with query := some query } : Address).text query := by
  have marks : ¬ '?' ∈ a.front.toList ∧ ¬ '#' ∈ a.front.toList :=
    ⟨fun mark => absurd (unmarked_front reads _ mark) (by decide),
      fun mark => absurd (unmarked_front reads _ mark) (by decide)⟩
  have written : ({ a with query := some query } : Address).text = a.front ++ "?" ++ query := by
    rw [text, noFragment, String.append_empty, String.append_assoc]
    rfl
  refine ⟨a.front, written, marks.1, ?_⟩
  rw [written, String.toList_append, String.toList_append, List.mem_append, List.mem_append]
  rintro ((mark | mark) | mark)
  · exact marks.2 mark
  · exact absurd mark (by decide)
  · exact plain mark

end Url.Address

end ResourceCatalog
