import Mathlib
import Waymark.Exchange.Target

/-! # Reading a query back

    A query is a form: its entries stand between ampersands, each with an equals sign between
    its name and its value, and both are percent-encoded with a plus sign for a space. This
    module reads such a text as a server does (`Target.entriesOfQuery?`).

    * What is read from the encoded form of a text is the text (`Text.formDecoded?_formEncoded`).
    * What is read from a query are its entries, those of one name together
      (`Target.entriesOfQuery?_queryText`). They are in the order in which they were given
      exactly if the entries of each name stood side by side (`Target.grouped_eq_self_iff`).
-/

namespace Waymark

namespace Text

/-! ## Splitting -/

/-- Splitting is that of the library. -/
theorem splitWhere_eq_splitOnP (p : Char → Bool) (cs : List Char) :
    splitWhere p cs = cs.splitOnP p := by
  induction cs with
  | nil => rfl
  | cons c rest ih =>
    obtain ⟨part, parts, hsplit⟩ := List.exists_cons_of_ne_nil (List.splitOnP_ne_nil p rest)
    rw [splitWhere, ih, List.splitOnP_cons_eq_if_modifyHead, hsplit]
    rfl

/-- Parts without the separator are what they were before they were put together. -/
theorem splitWhere_intercalate {separator : Char} {parts : List (List Char)} (hne : parts ≠ [])
    (h : ∀ part ∈ parts, separator ∉ part) :
    splitWhere (· == separator) ([separator].intercalate parts) = parts := by
  rw [splitWhere_eq_splitOnP]
  exact List.splitOn_intercalate separator h hne

/-! ## Octets -/

/-- The octets of a text, by a loop over their positions, are those that it holds. -/
theorem toList_loop_eq (octets : ByteArray) (i : Nat) (before : List UInt8) :
    ByteArray.toList.loop octets i before = before.reverse ++ octets.data.toList.drop i := by
  fun_induction ByteArray.toList.loop octets i before with
  | case1 i before hlt ih =>
    have hlength : i < octets.data.toList.length := by simpa using hlt
    have hget : octets.get! i = octets.data.toList[i] := by
      show octets.data[i]! = _
      exact getElem!_pos octets.data i (by simpa using hlt)
    rw [ih, List.drop_eq_getElem_cons hlength, hget]
    simp
  | case2 i before hge =>
    have hlength : octets.data.toList.length ≤ i := by simpa using hge
    simp [List.drop_eq_nil_of_le hlength]

/-- The bytes of a character are its octets as numbers. -/
theorem utf8Bytes_eq (c : Char) : utf8Bytes c = (String.utf8EncodeChar c).map UInt8.toNat := by
  have hoctets : (String.toUTF8 (String.singleton c)).toList = String.utf8EncodeChar c := by
    rw [ByteArray.toList, toList_loop_eq, String.toUTF8_eq_toByteArray,
      String.toByteArray_singleton, List.utf8Encode_singleton, List.toList_data_toByteArray]
    rfl
  unfold utf8Bytes
  rw [hoctets]

/-- The octets of a text are those of its characters. -/
theorem toUTF8_ofList (cs : List Char) :
    (String.ofList cs).toUTF8 = (cs.flatMap String.utf8EncodeChar).toByteArray :=
  String.toByteArray_ofList

/-! ## Forms -/

/-- The value of a hexadecimal digit in either case. -/
def escapeDigit? (c : Char) : Option Nat :=
  hexDigit? c.toLower

/-- The octets that a text in a form stands for. A percent sign without two digits behind it
    stands for itself. -/
def formOctets : List Char → List UInt8
  | '%' :: high :: low :: rest =>
    match escapeDigit? high, escapeDigit? low with
    | some h, some l => UInt8.ofNat (16 * h + l) :: formOctets rest
    | _, _ => String.utf8EncodeChar '%' ++ formOctets (high :: low :: rest)
  | '+' :: rest => String.utf8EncodeChar ' ' ++ formOctets rest
  | c :: rest => String.utf8EncodeChar c ++ formOctets rest
  | [] => []

/-- The text that a text in a form stands for, if its octets are those of one. -/
def formDecoded? (cs : List Char) : Option String :=
  String.fromUTF8? (formOctets cs).toByteArray

/-- A character as it stands in a form. -/
def formChar (c : Char) : List Char :=
  if c == ' ' then ['+'] else if isUnreserved c then [c] else (utf8Bytes c).flatMap percentByte

theorem toList_formEncoded (s : String) : (formEncoded s).toList = s.toList.flatMap formChar :=
  String.toList_ofList

/-- A digit in upper case reads as its value. -/
theorem escapeDigit?_toUpper {d : Nat} (h : d < 16) :
    escapeDigit? (hexDigit d).toUpper = some d := by
  interval_cases d <;> decide

theorem percentByte_eq (byte : Nat) :
    percentByte byte
      = ['%', (hexDigit (byte / 16 % 16)).toUpper, (hexDigit (byte % 16)).toUpper] := rfl

/-- A byte in front that is written by its number is read. -/
theorem formOctets_percentByte (octet : UInt8) (rest : List Char) :
    formOctets (percentByte octet.toNat ++ rest) = octet :: formOctets rest := by
  have hoctet : octet.toNat < 256 := octet.toNat_lt
  have hhigh := escapeDigit?_toUpper (show octet.toNat / 16 % 16 < 16 by omega)
  have hlow := escapeDigit?_toUpper (show octet.toNat % 16 < 16 by omega)
  have hvalue : 16 * (octet.toNat / 16 % 16) + octet.toNat % 16 = octet.toNat := by omega
  rw [percentByte_eq]
  simp only [List.cons_append, List.nil_append, formOctets, hhigh, hlow, hvalue,
    UInt8.ofNat_toNat]

/-- An unreserved character has no meaning of its own in a form. -/
theorem ne_of_isUnreserved {c : Char} (h : isUnreserved c = true) :
    c ≠ '%' ∧ c ≠ '+' ∧ c ≠ '&' ∧ c ≠ '=' := by
  refine ⟨?_, ?_, ?_, ?_⟩
  all_goals
    rintro rfl
    revert h
    decide

/-- What stands for a character in a form reads as the octets of the character. -/
theorem formOctets_formChar (c : Char) (rest : List Char) :
    formOctets (formChar c ++ rest) = String.utf8EncodeChar c ++ formOctets rest := by
  unfold formChar
  by_cases hspace : c = ' '
  · subst hspace
    rfl
  · rw [if_neg (by simpa using hspace)]
    by_cases hplain : isUnreserved c = true
    · obtain ⟨hpercent, hplus, -, -⟩ := ne_of_isUnreserved hplain
      rw [if_pos hplain, List.cons_append, List.nil_append, formOctets.eq_3]
      · intro high low more heq
        exact absurd heq hpercent
      · exact hplus
    · rw [if_neg hplain, utf8Bytes_eq]
      -- the bytes of the character, one after the other
      induction String.utf8EncodeChar c with
      | nil => rfl
      | cons octet more ih =>
        rw [List.map_cons, List.flatMap_cons, List.append_assoc, formOctets_percentByte, ih,
          List.cons_append]

/-- **What is read from the encoded form of a text is the text.** -/
theorem formDecoded?_formEncoded (s : String) :
    formDecoded? (formEncoded s).toList = some s := by
  have hoctets : ∀ cs : List Char,
      formOctets (cs.flatMap formChar) = cs.flatMap String.utf8EncodeChar := by
    intro cs
    induction cs with
    | nil => rfl
    | cons c rest ih => rw [List.flatMap_cons, formOctets_formChar, ih, List.flatMap_cons]
  unfold formDecoded?
  rw [toList_formEncoded, hoctets, ← toUTF8_ofList, String.ofList_toList]
  exact dif_pos s.isValidUTF8

/-! ### Characters of an encoded text -/

/-- The digits of an escape are digits or letters. -/
theorem isAlphanum_of_mem_percentByte {byte : Nat} {c : Char} (h : c ∈ percentByte byte) :
    c = '%' ∨ c.isAlphanum = true := by
  have hdigit : ∀ d < 16, (hexDigit d).toUpper.isAlphanum = true := by decide
  rw [percentByte_eq] at h
  simp only [List.mem_cons, List.not_mem_nil, or_false] at h
  rcases h with rfl | rfl | rfl
  · exact .inl rfl
  · exact .inr (hdigit _ (by omega))
  · exact .inr (hdigit _ (by omega))

/-- The characters of a percent-encoded text. -/
theorem mem_percentEncodeUnless {keeps : Char → Bool} {s : String} {c : Char}
    (h : c ∈ (percentEncodeUnless keeps s).toList) :
    keeps c = true ∨ c = '%' ∨ c.isAlphanum = true := by
  unfold percentEncodeUnless at h
  rw [String.toList_ofList, List.mem_flatMap] at h
  obtain ⟨d, -, hc⟩ := h
  split at hc
  · next hkeeps =>
    obtain rfl := List.mem_singleton.mp hc
    exact .inl hkeeps
  · obtain ⟨byte, -, hc⟩ := List.mem_flatMap.mp hc
    exact .inr (isAlphanum_of_mem_percentByte hc)

/-- Every character leaves itself or an escape. -/
theorem mem_or_percent_mem {keeps : Char → Bool} {s : String} {c : Char} (h : c ∈ s.toList) :
    c ∈ (percentEncodeUnless keeps s).toList ∨ '%' ∈ (percentEncodeUnless keeps s).toList := by
  unfold percentEncodeUnless
  rw [String.toList_ofList, List.mem_flatMap, List.mem_flatMap]
  by_cases hkeeps : keeps c = true
  · exact .inl ⟨c, h, by simp [hkeeps]⟩
  · refine .inr ⟨c, h, ?_⟩
    rw [if_neg hkeeps, utf8Bytes_eq]
    obtain ⟨octet, more, hoctets⟩ := List.exists_cons_of_ne_nil
      (show String.utf8EncodeChar c ≠ [] from String.utf8EncodeChar_ne_nil)
    rw [hoctets, List.map_cons, List.flatMap_cons]
    exact List.mem_append_left _ List.mem_cons_self

/-- A text stays as it is if all its characters do. -/
theorem percentEncodeUnless_eq_self {keeps : Char → Bool} {s : String}
    (h : ∀ c ∈ s.toList, keeps c = true) : percentEncodeUnless keeps s = s := by
  have hchars : ∀ cs : List Char, (∀ c ∈ cs, keeps c = true) →
      (cs.flatMap fun c => if keeps c then [c] else (utf8Bytes c).flatMap percentByte) = cs := by
    intro cs hcs
    induction cs with
    | nil => rfl
    | cons c rest ih =>
      rw [List.flatMap_cons, if_pos (hcs c List.mem_cons_self),
        ih fun d hd => hcs d (List.mem_cons_of_mem _ hd)]
      rfl
  unfold percentEncodeUnless
  rw [hchars _ h, String.ofList_toList]

/-- The characters of a text in a form. -/
theorem mem_formEncoded {s : String} {c : Char} (h : c ∈ (formEncoded s).toList) :
    c = '+' ∨ c = '%' ∨ isUnreserved c = true := by
  rw [toList_formEncoded, List.mem_flatMap] at h
  obtain ⟨d, -, hc⟩ := h
  unfold formChar at hc
  split at hc
  · exact .inl (List.mem_singleton.mp hc)
  · split at hc
    · next hplain =>
      obtain rfl := List.mem_singleton.mp hc
      exact .inr (.inr hplain)
    · obtain ⟨byte, -, hc⟩ := List.mem_flatMap.mp hc
      rcases isAlphanum_of_mem_percentByte hc with hpercent | halphanum
      · exact .inr (.inl hpercent)
      · exact .inr (.inr (by simp [isUnreserved, halphanum]))

/-- Letters and digits are between two numbers. -/
theorem bounds_of_isAlphanum {c : Char} (h : c.isAlphanum = true) :
    0x30 ≤ c.toNat ∧ c.toNat ≤ 0x7a := by
  simp only [Char.isAlphanum, Char.isAlpha, Char.isUpper, Char.isLower, Char.isDigit,
    Bool.or_eq_true, Bool.and_eq_true, decide_eq_true_eq, ge_iff_le, UInt32.le_iff_toNat_le,
    Char.reduceVal, UInt32.reduceToNat] at h
  have hval : c.val.toNat = c.toNat := rfl
  omega

theorem bounds_of_isUnreserved {c : Char} (h : isUnreserved c = true) :
    0x2d ≤ c.toNat ∧ c.toNat < 0x7f := by
  simp only [isUnreserved, Bool.or_eq_true, beq_iff_eq] at h
  rcases h with (((h | rfl) | rfl) | rfl) | rfl
  · have hbounds := bounds_of_isAlphanum h
    omega
  all_goals decide

/-- The marks between entries do not stand in a text of a form. -/
theorem not_mem_formEncoded (s : String) :
    '&' ∉ (formEncoded s).toList ∧ '=' ∉ (formEncoded s).toList := by
  constructor
  all_goals
    intro h
    rcases mem_formEncoded h with hplus | hpercent | hplain
    · exact absurd hplus (by decide)
    · exact absurd hpercent (by decide)
    · exact absurd hplain (by decide)

end Text

namespace Exchange.Target

/-! ## Characters -/

/-- An unreserved character may stand anywhere. -/
theorem isPrintableExcept_of_isUnreserved {c : Char} (h : Text.isUnreserved c = true)
    {excluded : List Char} (hexcluded : excluded.any Text.isUnreserved = false) :
    isPrintableExcept excluded c = true := by
  have hbounds := Text.bounds_of_isUnreserved h
  have hnot : excluded.contains c = false := by
    rw [List.contains_eq_mem, decide_eq_false_iff_not]
    intro hmem
    rw [List.any_eq_false] at hexcluded
    exact hexcluded c hmem h
  simp only [isPrintableExcept, hnot, Bool.and_eq_true, decide_eq_true_eq, Bool.not_false, and_true]
  omega

theorem inPath_of_isUnreserved {c : Char} (h : Text.isUnreserved c = true) : inPath c = true :=
  isPrintableExcept_of_isUnreserved h rfl

theorem inQuery_of_isUnreserved {c : Char} (h : Text.isUnreserved c = true) : inQuery c = true :=
  isPrintableExcept_of_isUnreserved h rfl

theorem not_isControl_of_isUnreserved {c : Char} (h : Text.isUnreserved c = true) :
    isControl c = false := by
  have hbounds := Text.bounds_of_isUnreserved h
  simp only [isControl, Bool.or_eq_false_iff, decide_eq_false_iff_not, beq_eq_false_iff_ne]
  omega

/-! ## Entries -/

/-- The entry that stands between two ampersands. -/
def entryOfPart? (part : List Char) : Option (String × String) := do
  let (name, value) := splitFirst (· == '=') part
  return (← Text.formDecoded? name, ← Text.formDecoded? (value.getD []))

/-- The entries of a query. There are none without a query, and nothing between two ampersands
    is no entry. -/
def entriesOfQuery? (query : Option String) : Option (List (String × String)) :=
  ((Text.splitWhere (· == '&') (query.getD "").toList).filter (!·.isEmpty)).mapM entryOfPart?

/-- An entry as it stands in a query. -/
def entryChars (e : String × String) : List Char :=
  (Text.formEncoded e.1).toList ++ '=' :: (Text.formEncoded e.2).toList

theorem toList_queryText (entries : List (String × String)) :
    (queryText entries).toList = ['&'].intercalate ((grouped entries).map entryChars) := by
  have hentry : ∀ e ∈ grouped entries,
      (Text.formEncoded e.1 ++ "=" ++ Text.formEncoded e.2).toList = entryChars e := by
    intro e _
    rw [String.toList_append, String.toList_append, List.append_assoc]
    rfl
  have hseparator : "&".toList = ['&'] := rfl
  unfold queryText
  rw [String.toList_intercalate, List.map_map, hseparator]
  exact congrArg _ (List.map_congr_left hentry)

/-- What stands before the first separator, and what behind it. -/
theorem splitFirst_append_cons {p : Char → Bool} {front rest : List Char} {separator : Char}
    (hfront : ∀ c ∈ front, p c = false) (hseparator : p separator = true) :
    splitFirst p (front ++ separator :: rest) = (front, some rest) := by
  have hdrop : (front ++ separator :: rest).dropWhile (fun c => !p c) = separator :: rest := by
    rw [List.dropWhile_append_of_pos (fun c hc => by simp [hfront c hc])]
    simp [hseparator]
  have htake : (front ++ separator :: rest).takeWhile (fun c => !p c) = front := by
    rw [List.takeWhile_append_of_pos (fun c hc => by simp [hfront c hc])]
    simp [hseparator]
  simp only [splitFirst, hdrop, htake]

/-- Nothing is split off without a separator. -/
theorem splitFirst_eq_self {p : Char → Bool} {cs : List Char} (h : ∀ c ∈ cs, p c = false) :
    splitFirst p cs = (cs, none) := by
  have hdrop : cs.dropWhile (fun c => !p c) = [] :=
    List.dropWhile_eq_nil_iff.mpr fun c hc => by simp [h c hc]
  simp only [splitFirst, hdrop]

theorem not_mem_entryChars (e : String × String) : '&' ∉ entryChars e := by
  intro h
  rcases List.mem_append.mp h with h | h
  · exact (Text.not_mem_formEncoded _).1 h
  · rcases List.mem_cons.mp h with h | h
    · exact absurd h (by decide)
    · exact (Text.not_mem_formEncoded _).1 h

/-- A query may be sent as it is. -/
theorem percentEncodeUnless_queryText (entries : List (String × String)) :
    Text.percentEncodeUnless inQuery (queryText entries) = queryText entries := by
  apply Text.percentEncodeUnless_eq_self
  -- what is encoded already is all plain, plus signs and percent signs
  have hform : ∀ (s : String) (c : Char), c ∈ (Text.formEncoded s).toList → inQuery c = true := by
    intro s c hc
    rcases Text.mem_formEncoded hc with rfl | rfl | hplain
    · rfl
    · rfl
    · exact inQuery_of_isUnreserved hplain
  have hentries : ∀ es : List (String × String), ∀ c ∈ ['&'].intercalate (es.map entryChars),
      inQuery c = true := by
    intro es
    induction es with
    | nil => simp
    | cons e rest ih =>
      have hentry : ∀ c ∈ entryChars e, inQuery c = true := by
        intro c hc
        rcases List.mem_append.mp hc with hc | hc
        · exact hform _ c hc
        · rcases List.mem_cons.mp hc with rfl | hc
          · rfl
          · exact hform _ c hc
      by_cases hrest : rest = []
      · simpa [hrest] using hentry
      · intro c hc
        rw [List.map_cons, List.intercalate_cons_of_ne_nil (by simpa using hrest), List.mem_append,
          List.mem_append] at hc
        rcases hc with (hc | hc) | hc
        · exact hentry c hc
        · obtain rfl := List.mem_singleton.mp hc
          rfl
        · exact ih c hc
  rw [toList_queryText]
  exact hentries _

/-- An entry is read from what stands for it. -/
theorem entryOfPart?_entryChars (e : String × String) : entryOfPart? (entryChars e) = some e := by
  have hname : ∀ c ∈ (Text.formEncoded e.1).toList, (c == '=') = false := by
    intro c hc
    rw [beq_eq_false_iff_ne]
    rintro rfl
    exact (Text.not_mem_formEncoded _).2 hc
  unfold entryOfPart? entryChars
  simp only [splitFirst_append_cons hname (beq_self_eq_true '='), Option.getD_some,
    Text.formDecoded?_formEncoded]
  rfl

/-- **What is read from a query are its entries, those of one name together.** -/
theorem entriesOfQuery?_queryText {entries : List (String × String)} (hne : grouped entries ≠ []) :
    entriesOfQuery? (some (queryText entries)) = some (grouped entries) := by
  have hsplit : Text.splitWhere (· == '&') (queryText entries).toList
      = (grouped entries).map entryChars := by
    rw [toList_queryText]
    refine Text.splitWhere_intercalate (by simpa using hne) fun part hpart => ?_
    obtain ⟨e, -, rfl⟩ := List.mem_map.mp hpart
    exact not_mem_entryChars e
  -- no part is empty, since each has an equals sign
  have hfilter : ((grouped entries).map entryChars).filter (!·.isEmpty)
      = (grouped entries).map entryChars := by
    rw [List.filter_eq_self]
    intro part hpart
    obtain ⟨e, -, rfl⟩ := List.mem_map.mp hpart
    simp [entryChars]
  unfold entriesOfQuery?
  rw [Option.getD_some, hsplit, hfilter]
  induction grouped entries with
  | nil => rfl
  | cons e rest ih =>
    rw [List.map_cons, List.mapM_cons, ih, entryOfPart?_entryChars]
    rfl

/-! ### The order of the entries -/

/-- The names of entries, each once, behind those that were seen before. -/
def namesAfter (seen : List String) (entries : List (String × String)) : List String :=
  entries.foldl (fun ns e => if ns.contains e.1 then ns else ns ++ [e.1]) seen

theorem grouped_eq (entries : List (String × String)) :
    grouped entries = (namesAfter [] entries).flatMap fun n => entries.filter fun e => e.1 == n :=
  rfl

/-- Names that were seen before do not count. By induction on the number of entries, since those
    of the first name are left out at once. -/
theorem namesAfter_eq (seen : List String) (entries : List (String × String)) :
    namesAfter seen entries
      = seen ++ namesAfter [] (entries.filter fun e => !seen.contains e.1) := by
  induction hlength : entries.length using Nat.strong_induction_on generalizing seen entries with
  | _ n ih =>
    cases entries with
    | nil => simp [namesAfter]
    | cons e rest =>
      have hrest : rest.length < n := by
        rw [← hlength]
        exact Nat.lt_succ_self _
      -- a name that was seen is passed over, a new one is put behind the others
      by_cases hseen : seen.contains e.1 = true
      · have hstep : namesAfter seen (e :: rest) = namesAfter seen rest := by
          simp [namesAfter, List.contains_iff_mem.mp hseen]
        rw [hstep, ih _ hrest seen rest rfl, List.filter_cons_of_neg (by rw [hseen]; decide)]
      · have hstep : namesAfter seen (e :: rest) = namesAfter (seen ++ [e.1]) rest := by
          have hmem : e.1 ∉ seen := fun hmem => hseen (List.contains_iff_mem.mpr hmem)
          simp [namesAfter, hmem]
        have hfirst : ∀ later : List (String × String),
            namesAfter [] (e :: later) = namesAfter [e.1] later := fun later => rfl
        have hfewer : (rest.filter fun e => !seen.contains e.1).length < n :=
          Nat.lt_of_le_of_lt (List.length_filter_le _ _) hrest
        rw [hstep, ih _ hrest _ rest rfl, List.filter_cons_of_pos (by simpa using hseen), hfirst,
          ih _ hfewer [e.1] _ rfl, List.filter_filter, List.append_assoc]
        congr 3
        apply List.filter_congr
        intro other _
        simp [Bool.and_comm]

/-- The names are those of entries. -/
theorem exists_of_mem_namesAfter {entries : List (String × String)} {name : String} :
    ∀ {seen}, name ∈ namesAfter seen entries → name ∈ seen ∨ ∃ e ∈ entries, e.1 = name := by
  induction entries with
  | nil => exact fun h => .inl h
  | cons e rest ih =>
    intro seen h
    rcases ih (show name ∈ namesAfter _ rest from h) with hseen | ⟨other, hother, hname⟩
    · dsimp only at hseen
      split at hseen
      · exact .inl hseen
      · rcases List.mem_append.mp hseen with hseen | hfirst
        · exact .inl hseen
        · exact .inr ⟨e, List.mem_cons_self, (List.mem_singleton.mp hfirst).symm⟩
    · exact .inr ⟨other, List.mem_cons_of_mem _ hother, hname⟩

/-- The entries of the first name come first, then all others. -/
theorem grouped_cons (e : String × String) (rest : List (String × String)) :
    grouped (e :: rest)
      = e :: (rest.filter fun other => other.1 == e.1)
        ++ grouped (rest.filter fun other => other.1 != e.1) := by
  have hothers : (rest.filter fun other => !([e.1] : List String).contains other.1)
      = rest.filter fun other => other.1 != e.1 := by
    apply List.filter_congr
    intro other _
    by_cases hsame : other.1 = e.1
    · simp [hsame]
    · simp [hsame]
  have hnames : namesAfter [] (e :: rest)
      = e.1 :: namesAfter [] (rest.filter fun other => other.1 != e.1) := by
    show namesAfter [e.1] rest = _
    rw [namesAfter_eq, hothers]
    rfl
  rw [grouped_eq, hnames, List.flatMap_cons, List.filter_cons_of_pos (by simp), grouped_eq]
  congr 1
  -- an entry of another name is among the others
  apply List.flatMap_congr
  intro name hname
  rcases exists_of_mem_namesAfter hname with hnone | ⟨other, hother, rfl⟩
  · cases hnone
  · have hne : other.1 ≠ e.1 := by simpa using (List.mem_filter.mp hother).2
    rw [List.filter_cons_of_neg (by simpa using hne.symm), List.filter_filter]
    apply List.filter_congr
    intro third _
    by_cases hsame : third.1 = other.1
    · simp [hsame, hne]
    · simp [hsame]

/-- By induction on the number of entries, those of the first name at once. -/
theorem grouped_induction {P : List (String × String) → Prop} (nil : P [])
    (cons : ∀ e rest, P (rest.filter fun other => other.1 != e.1) → P (e :: rest))
    (entries : List (String × String)) : P entries := by
  induction hlength : entries.length using Nat.strong_induction_on generalizing entries with
  | _ n ih =>
    cases entries with
    | nil => exact nil
    | cons e rest =>
      refine cons e rest (ih _ ?_ _ rfl)
      rw [← hlength]
      exact Nat.lt_succ_of_le (List.length_filter_le _ _)

/-- The entries of each name are those that were given, in the same order. -/
theorem filter_grouped (name : String) (entries : List (String × String)) :
    (grouped entries).filter (fun e => e.1 == name) = entries.filter fun e => e.1 == name := by
  induction entries using grouped_induction with
  | nil => rfl
  | cons e rest ih =>
    rw [grouped_cons, List.filter_append, ih, List.filter_filter]
    -- the entries of the first name come first, those of others are among the rest
    by_cases hname : e.1 = name
    · subst hname
      have hnone : (rest.filter fun other => other.1 == e.1 && other.1 != e.1) = [] := by
        rw [List.filter_eq_nil_iff]
        simp
      rw [hnone, List.append_nil, List.filter_cons_of_pos (by simp), List.filter_filter,
        List.filter_cons_of_pos (by simp)]
      simp
    · have hnone : ((rest.filter fun other => other.1 == e.1).filter fun other => other.1 == name)
          = [] := by
        rw [List.filter_filter, List.filter_eq_nil_iff]
        intro other _
        by_cases hsame : other.1 = name
        · simp [hsame, Ne.symm hname]
        · simp [hsame]
      rw [List.filter_cons_of_neg (by simpa using hname), hnone, List.nil_append,
        List.filter_cons_of_neg (by simpa using hname)]
      apply List.filter_congr
      intro other _
      by_cases hsame : other.1 = name
      · simp [hsame, Ne.symm hname]
      · simp [hsame]

/-- No entry is lost, and none is added. -/
theorem mem_grouped_iff {entries : List (String × String)} {e : String × String} :
    e ∈ grouped entries ↔ e ∈ entries := by
  have hname : ∀ es : List (String × String), e ∈ es ↔ e ∈ es.filter fun other => other.1 == e.1 := by
    intro es
    simp
  rw [hname (grouped entries), filter_grouped, ← hname]

/-- The entries of each name stand side by side. -/
inductive SideBySide : List (String × String) → Prop where
  | nil : SideBySide []
  | block {name value : String} {values : List String} {others : List (String × String)}
    (ne : ∀ e ∈ others, e.1 ≠ name) (rest : SideBySide others) :
    SideBySide ((value :: values).map (fun v => (name, v)) ++ others)

/-- Entries of one name are its values with the name. -/
theorem map_of_same_name {name : String} {entries : List (String × String)}
    (h : ∀ e ∈ entries, e.1 = name) : (entries.map Prod.snd).map (fun v => (name, v)) = entries := by
  rw [List.map_map]
  conv_rhs => rw [← List.map_id entries]
  apply List.map_congr_left
  intro e he
  exact Prod.ext (h e he).symm rfl

/-- **The entries stay in order exactly if those of each name stood side by side.** -/
theorem grouped_eq_self_iff (entries : List (String × String)) :
    grouped entries = entries ↔ SideBySide entries := by
  constructor
  · intro h
    induction entries using grouped_induction with
    | nil => exact .nil
    | cons e rest ih =>
      rw [grouped_cons, List.cons_append, List.cons.injEq] at h
      obtain ⟨-, hrest⟩ := h
      have hsame : ∀ other ∈ rest.filter (fun other => other.1 == e.1), other.1 = e.1 := by
        intro other hother
        simpa using (List.mem_filter.mp hother).2
      have hothers : ∀ other ∈ rest.filter (fun other => other.1 != e.1), other.1 ≠ e.1 := by
        intro other hother
        simpa using (List.mem_filter.mp hother).2
      -- the others were behind those of the first name already
      have hlater : grouped (rest.filter fun other => other.1 != e.1)
          = rest.filter fun other => other.1 != e.1 := by
        have hnone : (rest.filter fun other => other.1 == e.1).filter (fun other => other.1 != e.1)
            = [] := by
          rw [List.filter_eq_nil_iff]
          intro other hother
          simp [hsame other hother]
        have hall : (grouped (rest.filter fun other => other.1 != e.1)).filter
            (fun other => other.1 != e.1) = grouped (rest.filter fun other => other.1 != e.1) := by
          rw [List.filter_eq_self]
          intro other hother
          simpa using hothers other (mem_grouped_iff.mp hother)
        have hfilter := congrArg (List.filter fun other => other.1 != e.1) hrest
        rwa [List.filter_append, hnone, hall, List.nil_append] at hfilter
      rw [hlater] at hrest
      have hblock : (e.2 :: (rest.filter fun other => other.1 == e.1).map Prod.snd).map
          (fun v => (e.1, v)) = e :: rest.filter fun other => other.1 == e.1 := by
        rw [List.map_cons, map_of_same_name hsame]
      have hentries := @SideBySide.block e.1 e.2
        ((rest.filter fun other => other.1 == e.1).map Prod.snd) _ hothers (ih hlater)
      rwa [hblock, List.cons_append, hrest] at hentries
  · intro h
    induction h with
    | nil => rfl
    | @block name value values others hothers _ ih =>
      have hsame : (values.map (fun v => (name, v)) ++ others).filter (fun other => other.1 == name)
          = values.map fun v => (name, v) := by
        rw [List.filter_append, List.filter_eq_self.mpr (by simp),
          List.filter_eq_nil_iff.mpr (by simpa using hothers), List.append_nil]
      have hrest : (values.map (fun v => (name, v)) ++ others).filter (fun other => other.1 != name)
          = others := by
        rw [List.filter_append, List.filter_eq_nil_iff.mpr (by simp),
          List.filter_eq_self.mpr (by simpa using hothers), List.nil_append]
      rw [List.map_cons, List.cons_append, grouped_cons, hsame, hrest, ih, List.cons_append]

/-- Between two entries of a name there is one of another name. -/
example : grouped [("x", "1"), ("y", "2"), ("x", "3")] = [("x", "1"), ("x", "3"), ("y", "2")] := by
  decide

end Exchange.Target

end Waymark
