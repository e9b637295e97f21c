/-
  ResourceCatalog/Proofs/Service/Environment.lean
  ===============================================
  **Which environments make a usable configuration.**

  A configuration is read from three variables, each field from one of its own, and what
  comes of a value is told by its shape alone (`ReadFrom`): a timeout is a number of 64 bits
  with white space around it, and a root is what is left of a value without the white space
  around it and without the slashes that then are at its end.

  A configuration should be usable (`Usable`): its roots are there, with no white space
  around them and no slash at their end; a value without anything in it gives way to the
  default; and whoever writes the fields into an environment reads the same fields from it.
  Roots are so exactly if some character of the value is neither white space nor a slash and
  nothing but slashes, and white space behind them, follows the last such character
  (`usable_iff`).  A value without such a character does not give way: slashes and white space
  around them leave an empty root (`rootOf_eq_empty_iff`).  And white space in front of the
  slashes at the end is still there when these are gone, for another reading to take away.
-/
import ResourceCatalog.Service.Config

namespace ResourceCatalog

namespace Text

/-- No digit is trimmed off. -/
theorem isSpace_of_isDigit {c : Char} (digit : isDigit c = true) : isSpace c = false := by
  simp only [isDigit, Bool.and_eq_true, decide_eq_true_eq] at digit
  simp only [isSpace, Bool.or_eq_false_iff, Bool.and_eq_false_iff, decide_eq_false_iff_not,
    beq_eq_false_iff_ne]
  omega

end Text

namespace Config

open Text

/-- The values of the variables that are set. -/
abbrev Environment := String → Option String

/-! ### Timeouts -/

/-- Decimal digits, at least one, that come to a number. -/
structure IsDecimal (n : Nat) (cs : List Char) : Prop where
  filled : cs ≠ []
  digits : ∀ c ∈ cs, isDigit c = true
  value : Nat.ofDigitChars 10 cs 0 = n

/-- A number as it may be given: in digits, with or without a plus sign in front. -/
inductive IsNumeral (n : Nat) : List Char → Prop
  | bare {digits : List Char} : IsDecimal n digits → IsNumeral n digits
  | signed {digits : List Char} : IsDecimal n digits → IsNumeral n ('+' :: digits)

/-- A value is a timeout if it is a number of 64 bits, white space around it apart. -/
def IsTimeout (raw : String) (ms : Nat) : Prop :=
  ∃ t, IsTrimOf t raw.toList ∧ IsNumeral ms t ∧ ms < UInt64.size

/-- The timeout that is read from a variable. -/
inductive TimeoutRead : Option String → Nat → Prop
  | number {raw : String} {ms : Nat} : IsTimeout raw ms → TimeoutRead (some raw) ms
  | default {value : Option String} : (∀ raw ∈ value, ∀ ms, ¬ IsTimeout raw ms) →
      TimeoutRead value defaultTimeoutMs

theorem isDecimal_iff {n : Nat} {cs : List Char} :
    IsDecimal n cs ↔ cs.isEmpty = false ∧ valueIn? 10 cs = some n := by
  rw [valueIn?_ten_eq_some_iff, List.isEmpty_eq_false_iff]
  exact ⟨fun h => ⟨h.filled, h.digits, h.value⟩, fun h => ⟨h.1, h.2.1, h.2.2⟩⟩

theorem isNumeral_signed_iff {n : Nat} {digits : List Char} :
    IsNumeral n ('+' :: digits) ↔ IsDecimal n digits := by
  constructor
  · intro numeral
    cases numeral with
    | bare decimal => exact absurd (decimal.digits '+' List.mem_cons_self) (by decide)
    | signed decimal => exact decimal
  · exact .signed

theorem isNumeral_bare_iff {n : Nat} {cs : List Char} (bare : ∀ digits, cs ≠ '+' :: digits) :
    IsNumeral n cs ↔ IsDecimal n cs := by
  constructor
  · intro numeral
    cases numeral with
    | bare decimal => exact decimal
    | signed decimal => exact absurd rfl (bare _)
  · exact .bare

/-- With or without a sign, the digits are read in the same way. -/
theorem unsigned?_eq_some_iff {s : String} {n : Nat} :
    unsigned? s = some n ↔ IsNumeral n s.toList ∧ n < UInt64.size := by
  rw [unsigned?]
  split
  · rename_i rest signed
    rw [signed, isNumeral_signed_iff, isDecimal_iff]
    grind
  · rename_i bare
    rw [isNumeral_bare_iff bare, isDecimal_iff]
    grind

theorem isTimeout_iff {raw : String} {ms : Nat} :
    IsTimeout raw ms ↔ unsigned? (trim raw) = some ms := by
  rw [unsigned?_eq_some_iff, trim, String.toList_ofList]
  constructor
  · rintro ⟨t, trims, number⟩
    rwa [isTrimOf_iff.mp trims]
  · exact fun number => ⟨_, isTrimOf_iff.mpr rfl, number⟩

theorem timeoutRead_iff {value : Option String} {ms : Nat} :
    TimeoutRead value ms ↔ timeoutOf value = ms := by
  constructor
  · intro read
    cases read with
    | number timeout => rw [timeoutOf, isTimeout_iff.mp timeout, Option.getD_some]
    | default noTimeout =>
      cases value with
      | none => rfl
      | some raw =>
        have unread : unsigned? (trim raw) = none :=
          Option.eq_none_iff_forall_ne_some.mpr fun ms number =>
            noTimeout raw rfl ms (isTimeout_iff.mpr number)
        rw [timeoutOf, unread, Option.getD_none]
  · rintro rfl
    cases value with
    | none => exact .default (fun _ unset => nomatch unset)
    | some raw =>
      cases number : unsigned? (trim raw) with
      | some ms =>
        rw [timeoutOf, number]
        exact .number (isTimeout_iff.mpr number)
      | none =>
        rw [timeoutOf, number]
        refine .default ?_
        rintro _ ⟨⟩ ms timeout
        rw [isTimeout_iff.mp timeout] at number
        cases number

theorem TimeoutRead.lt {value : Option String} {ms : Nat} (read : TimeoutRead value ms) :
    ms < UInt64.size := by
  cases read with
  | number timeout =>
    obtain ⟨_, _, _, small⟩ := timeout
    exact small
  | default => decide

/-- A timeout that is written in digits is that timeout. -/
theorem isTimeout_toString {ms : Nat} (small : ms < UInt64.size) : IsTimeout (toString ms) ms := by
  have digits : ∀ c ∈ Nat.toDigits 10 ms, isDigit c = true :=
    fun _ hc => isDigit_of_mem_toDigits hc
  have trimmed := isTrimmed_of_visible fun c hc => isSpace_of_isDigit (digits c hc)
  rw [IsTimeout, Nat.toString_eq_ofList_toDigits, String.toList_ofList]
  exact ⟨_, trimmed.isTrimOf, .bare ⟨Nat.toDigits_ne_nil, digits, Nat.ofDigitChars_ten_toDigits⟩,
    small⟩

/-! ### Roots -/

/-- The root that is read from a variable: white space around the value is left out first, and
    then the slashes at its end. -/
inductive RootRead (fallback : String) : Option String → String → Prop
  | named {raw root : String} {slashes : List Char} :
      IsTrimOf (root.toList ++ slashes) raw.toList → (∀ c ∈ slashes, c = '/') →
      root.toList.getLast? ≠ some '/' → RootRead fallback (some raw) root
  | unset : RootRead fallback none fallback

/-- A root that a path can be put behind. -/
structure IsTidyRoot (root : String) : Prop where
  filled : root ≠ ""
  trimmed : IsTrimmed root.toList
  noSlash : root.toList.getLast? ≠ some '/'

instance (root : String) : Decidable (IsTidyRoot root) :=
  decidable_of_iff (root ≠ "" ∧ IsTrimmed root.toList ∧ root.toList.getLast? ≠ some '/')
    ⟨fun ⟨filled, trimmed, noSlash⟩ => ⟨filled, trimmed, noSlash⟩,
      fun ⟨filled, trimmed, noSlash⟩ => ⟨filled, trimmed, noSlash⟩⟩

/-- There is nothing in a value but slashes, or not even these, white space around them apart. -/
def NamesNothing (raw : String) : Prop :=
  ∃ t, IsTrimOf t raw.toList ∧ ∀ c ∈ t, c = '/'

/-- Some character is neither white space nor a slash, and what stands behind the last one are
    slashes first and then white space. -/
def NamesRoot (raw : String) : Prop :=
  ∃ front last slashes blanks, raw.toList = front ++ last :: (slashes ++ blanks) ∧
    isSpace last = false ∧ last ≠ '/' ∧ (∀ c ∈ slashes, c = '/') ∧ AllBlank blanks

theorem forall_getLast?_ne_slash_iff {cs : List Char} :
    (∀ c ∈ cs.getLast?, decide (c = '/') = false) ↔ cs.getLast? ≠ some '/' := by
  cases cs.getLast? <;> simp

theorem rootRead_iff {fallback root : String} {value : Option String} :
    RootRead fallback value root ↔ rootOf value fallback = root := by
  constructor
  · intro read
    cases read with
    | unset => rfl
    | @named raw _ slashes trims all noSlash =>
      have left : dropEndWhile (· = '/') (root.toList ++ slashes) = root.toList :=
        dropEndWhile_eq_iff.mpr ⟨forall_getLast?_ne_slash_iff.mpr noSlash, slashes, rfl,
          fun c hc => decide_eq_true (all c hc)⟩
      rw [rootOf, withoutSlashes, trim, String.toList_ofList, isTrimOf_iff.mp trims, left,
        String.ofList_toList]
  · rintro rfl
    cases value with
    | none => exact .unset
    | some raw =>
      have left : (rootOf (some raw) fallback).toList =
          dropEndWhile (· = '/') (trimChars raw.toList) := by
        rw [rootOf, withoutSlashes, trim, String.toList_ofList, String.toList_ofList]
      obtain ⟨last, slashes, cut, all⟩ := dropEndWhile_eq_iff.mp left.symm
      exact .named (isTrimOf_iff.mpr cut) (fun c hc => of_decide_eq_true (all c hc))
        (forall_getLast?_ne_slash_iff.mp last)

/-- A value without anything in it leaves an empty root, whatever the fallback. -/
theorem rootOf_eq_empty_iff {raw : String} (fallback : String) :
    rootOf (some raw) fallback = "" ↔ NamesNothing raw := by
  rw [← rootRead_iff]
  constructor
  · intro read
    cases read with
    | named trims all => exact ⟨_, trims, all⟩
  · rintro ⟨_, trims, all⟩
    exact .named trims all (by simp)

theorem NamesRoot.not_namesNothing {raw : String} (names : NamesRoot raw) :
    ¬ NamesNothing raw := by
  rintro ⟨t, ⟨-, before, behind, value, blankBefore, blankBehind⟩, slashes⟩
  obtain ⟨front, last, _, _, cut, visible, noSlash, -⟩ := names
  have inside : last ∈ before ++ (t ++ behind) := by
    rw [← value, cut]
    exact List.mem_append_right front List.mem_cons_self
  rw [List.mem_append, List.mem_append] at inside
  rcases inside with h | h | h
  · exact absurd (blankBefore last h) (by simp [visible])
  · exact noSlash (slashes last h)
  · exact absurd (blankBehind last h) (by simp [visible])

theorem RootRead.namesRoot {fallback raw root : String}
    (read : RootRead fallback (some raw) root) (tidy : IsTidyRoot root) : NamesRoot raw := by
  cases read with
  | @named _ _ slashes trims all =>
    obtain ⟨-, before, behind, value, -, blank⟩ := trims
    rcases List.eq_nil_or_concat root.toList with empty | ⟨front, last, ends⟩
    · exact absurd (String.toList_eq_nil_iff.mp empty) tidy.filled
    · have final : root.toList.getLast? = some last := by simp [ends]
      refine ⟨before ++ front, last, slashes, behind, by simp [value, ends],
        tidy.trimmed.last last final, ?_, all, blank⟩
      rintro rfl
      exact tidy.noSlash final

/-- What stands between the white space in front and the slashes is read, and it is tidy. -/
theorem NamesRoot.exists_rootRead {raw : String} (names : NamesRoot raw) (fallback : String) :
    ∃ root, RootRead fallback (some raw) root ∧ IsTidyRoot root := by
  obtain ⟨front, last, slashes, blanks, value, visible, noSlash, all, blank⟩ := names
  have cut : raw.toList = (front ++ [last]) ++ (slashes ++ blanks) := by simp [value]
  have ends : ((front ++ [last]).dropWhile isSpace).getLast? = some last :=
    getLast?_dropWhile_of_not List.getLast?_concat visible
  generalize front ++ [last] = l at cut ends
  have filled : l.dropWhile isSpace ≠ [] := by
    intro empty
    rw [empty] at ends
    cases ends
  have trimmed : IsTrimmed (l.dropWhile isSpace) := by
    refine ⟨head?_dropWhile, fun c hc => ?_⟩
    rw [ends] at hc
    cases hc
    exact visible
  have bare : (l.dropWhile isSpace).getLast? ≠ some '/' := by
    rw [ends]
    exact mt Option.some.inj noSlash
  have trims : IsTrimOf (l.dropWhile isSpace ++ slashes) raw.toList := by
    have visibleSlashes : ∀ c ∈ slashes, isSpace c = false := fun c hc => by rw [all c hc]; rfl
    refine ⟨trimmed.append filled visibleSlashes, l.takeWhile isSpace, blanks, ?_,
      List.all_eq_true.mp List.all_takeWhile, blank⟩
    rw [cut, List.append_assoc, ← List.append_assoc (l.takeWhile isSpace),
      List.takeWhile_append_dropWhile]
  refine ⟨String.ofList (l.dropWhile isSpace), .named (by rwa [String.toList_ofList]) all ?_, ?_⟩
  · rwa [String.toList_ofList]
  · refine ⟨?_, by rwa [String.toList_ofList], by rwa [String.toList_ofList]⟩
    rwa [Ne, ← String.toList_eq_nil_iff, String.toList_ofList]

theorem isTidyRoot_rootOf_iff {raw fallback : String} :
    IsTidyRoot (rootOf (some raw) fallback) ↔ NamesRoot raw := by
  constructor
  · exact RootRead.namesRoot (rootRead_iff.mpr rfl)
  · intro names
    obtain ⟨root, read, tidy⟩ := names.exists_rootRead fallback
    rwa [rootRead_iff.mp read]

/-- What is tidy is read as it is. -/
theorem IsTidyRoot.rootOf_eq {root : String} (tidy : IsTidyRoot root) (fallback : String) :
    rootOf (some root) fallback = root := by
  have trims : IsTrimOf (root.toList ++ []) root.toList := by
    rw [List.append_nil]
    exact tidy.trimmed.isTrimOf
  exact rootRead_iff.mp (.named trims (fun _ h => nomatch h) tidy.noSlash)

/-- A root that serves its purpose: it is tidy, and it is the fallback if no value names any. -/
structure RootServes (fallback : String) (value : Option String) (root : String) : Prop
    extends IsTidyRoot root where
  fallsBack : (∀ raw ∈ value, NamesNothing raw) → root = fallback

theorem rootServes_rootOf_iff {fallback : String} {value : Option String}
    (tidy : IsTidyRoot fallback) :
    RootServes fallback value (rootOf value fallback) ↔ ∀ raw ∈ value, NamesRoot raw := by
  cases value with
  | none =>
    refine ⟨fun _ raw unset => ?_, fun _ => ⟨tidy, fun _ => rfl⟩⟩
    cases unset
  | some raw =>
    constructor
    · rintro serves _ ⟨⟩
      exact isTidyRoot_rootOf_iff.mp serves.toIsTidyRoot
    · intro names
      refine ⟨isTidyRoot_rootOf_iff.mpr (names raw rfl), fun nothing => ?_⟩
      exact absurd (nothing raw rfl) (names raw rfl).not_namesNothing

theorem isTidyRoot_defaultApiUrl : IsTidyRoot defaultApiUrl := by decide +kernel

theorem isTidyRoot_defaultChatApiUrl : IsTidyRoot defaultChatApiUrl := by decide +kernel

/-! ### Configurations -/

/-- A configuration is what an environment says, each field by a variable of its own. -/
structure ReadFrom (env : Environment) (config : Config) : Prop where
  apiUrl : RootRead defaultApiUrl (env apiUrlVariable) config.apiUrl
  timeoutMs : TimeoutRead (env timeoutVariable) config.timeoutMs
  chatApiUrl : RootRead defaultChatApiUrl (env chatApiUrlVariable) config.chatApiUrl

theorem readFrom_iff {env : Environment} {config : Config} :
    ReadFrom env config ↔ ofEnvironment env = config := by
  constructor
  · rintro ⟨apiUrl, timeoutMs, chatApiUrl⟩
    rw [ofEnvironment, rootRead_iff.mp apiUrl, timeoutRead_iff.mp timeoutMs,
      rootRead_iff.mp chatApiUrl]
  · rintro rfl
    exact ⟨rootRead_iff.mpr rfl, timeoutRead_iff.mpr rfl, rootRead_iff.mpr rfl⟩

/-- The fields, each written into its variable. -/
def environment (config : Config) : Environment := fun name =>
  if name = apiUrlVariable then some config.apiUrl
  else if name = timeoutVariable then some (toString config.timeoutMs)
  else if name = chatApiUrlVariable then some config.chatApiUrl
  else none

/-- Tidy roots and a timeout of 64 bits are read back. -/
theorem ofEnvironment_environment {config : Config} (apiUrl : IsTidyRoot config.apiUrl)
    (small : config.timeoutMs < UInt64.size) (chatApiUrl : IsTidyRoot config.chatApiUrl) :
    ofEnvironment config.environment = config := by
  have timeoutMs : timeoutOf (some (toString config.timeoutMs)) = config.timeoutMs :=
    timeoutRead_iff.mp (.number (isTimeout_toString small))
  rw [ofEnvironment,
    show config.environment apiUrlVariable = some config.apiUrl from rfl,
    show config.environment timeoutVariable = some (toString config.timeoutMs) from rfl,
    show config.environment chatApiUrlVariable = some config.chatApiUrl from rfl,
    apiUrl.rootOf_eq, timeoutMs, chatApiUrl.rootOf_eq]

/-- What should come of an environment.  Whatever the other variables are, a field stays the same
    with its own, and another reading changes nothing. -/
structure Usable (env : Environment) : Prop where
  apiUrl : RootServes defaultApiUrl (env apiUrlVariable) (ofEnvironment env).apiUrl
  chatApiUrl : RootServes defaultChatApiUrl (env chatApiUrlVariable) (ofEnvironment env).chatApiUrl
  timeoutMs : TimeoutRead (env timeoutVariable) (ofEnvironment env).timeoutMs
  own : ∀ other : Environment,
    (other apiUrlVariable = env apiUrlVariable →
      (ofEnvironment other).apiUrl = (ofEnvironment env).apiUrl) ∧
    (other timeoutVariable = env timeoutVariable →
      (ofEnvironment other).timeoutMs = (ofEnvironment env).timeoutMs) ∧
    (other chatApiUrlVariable = env chatApiUrlVariable →
      (ofEnvironment other).chatApiUrl = (ofEnvironment env).chatApiUrl)
  stable : ofEnvironment (ofEnvironment env).environment = ofEnvironment env

/-- Every variable for a root that is set names one. -/
structure NamesRoots (env : Environment) : Prop where
  apiUrl : ∀ raw ∈ env apiUrlVariable, NamesRoot raw
  chatApiUrl : ∀ raw ∈ env chatApiUrlVariable, NamesRoot raw

/-- **A configuration is usable exactly if the variables name its roots.**  In any case it is
    what its environment says. -/
theorem usable_iff (env : Environment) :
    (∀ config, ReadFrom env config ↔ ofEnvironment env = config) ∧
      (Usable env ↔ NamesRoots env) := by
  refine ⟨fun _ => readFrom_iff, ?_, ?_⟩
  · exact fun usable =>
      ⟨(rootServes_rootOf_iff isTidyRoot_defaultApiUrl).mp usable.apiUrl,
        (rootServes_rootOf_iff isTidyRoot_defaultChatApiUrl).mp usable.chatApiUrl⟩
  · intro names
    have apiUrl := (rootServes_rootOf_iff isTidyRoot_defaultApiUrl).mpr names.apiUrl
    have chatApiUrl := (rootServes_rootOf_iff isTidyRoot_defaultChatApiUrl).mpr names.chatApiUrl
    have read : ReadFrom env (ofEnvironment env) := readFrom_iff.mpr rfl
    refine ⟨apiUrl, chatApiUrl, read.timeoutMs, fun other => ⟨?_, ?_, ?_⟩, ?_⟩
    · exact fun same => congrArg (rootOf · defaultApiUrl) same
    · exact fun same => congrArg timeoutOf same
    · exact fun same => congrArg (rootOf · defaultChatApiUrl) same
    · exact ofEnvironment_environment apiUrl.toIsTidyRoot read.timeoutMs.lt chatApiUrl.toIsTidyRoot

/-- An environment with one variable in it. -/
def setting (name value : String) : Environment := fun other =>
  if other = name then some value else none

/-- White space inside of a root stays, and the slashes behind it go. -/
theorem usable_iff_decorated :
    NamesRoots (setting apiUrlVariable "\u3000http://h/ a//\n") ∧
      Usable (setting apiUrlVariable "\u3000http://h/ a//\n") ∧
      (ofEnvironment (setting apiUrlVariable "\u3000http://h/ a//\n")).apiUrl = "http://h/ a" := by
  have names : NamesRoots (setting apiUrlVariable "\u3000http://h/ a//\n") := by
    refine ⟨?_, fun _ unset => nomatch unset⟩
    rintro _ ⟨⟩
    exact ⟨"\u3000http://h/ ".toList, 'a', ['/', '/'], ['\n'], by decide, rfl, by decide,
      by simp, by simp [AllBlank, isSpace]⟩
  exact ⟨names, (usable_iff _).2.mpr names, by decide +kernel⟩

/-- A blank value leaves an empty root, and white space in front of a slash is left at the end. -/
theorem not_usable_blank_or_spaced :
    ¬ Usable (setting apiUrlVariable " ") ∧
      ¬ Usable (setting chatApiUrlVariable "http://chat.test /") := by
  constructor
  · intro usable
    have nothing : NamesNothing " " := ⟨[], isTrimOf_iff.mpr rfl, fun _ h => nomatch h⟩
    exact usable.apiUrl.filled ((rootOf_eq_empty_iff defaultApiUrl).mpr nothing)
  · intro usable
    have last := usable.chatApiUrl.trimmed.last ' ' (by decide +kernel)
    cases last

end Config

end ResourceCatalog
