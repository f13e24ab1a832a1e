import BrokerClient.Cookies
import BrokerClient.Proofs.Server.Addresses
import BrokerClient.Proofs.Text.ByteOrder
import BrokerClient.Proofs.Text.Parts
import BrokerClient.Session.CookieFile

/-!
# Cookie Jars

A cookie jar has a line for every cookie, with seven fields between tabs, of which the last
two are the name and the value. Nothing is done about tabs and line breaks in them. Names and
values are read from JSON strings, which may have both, so a value can bring a line of its own
that a reader takes for another cookie.

What is printed is the lines of one cookie after those of another (`Cookies.linesOf_jar`). The
host has neither tabs nor line breaks. So the lines of a cookie are one exactly if there are no
line breaks in its name and its value, and that one has seven fields exactly if there are no
tabs in them.

## Main definitions

* `Cookies.jarFields`: The seven fields of a cookie.
* `Cookies.linesOf`: The lines of a text.
* `Cookies.IsPlain`: No tabs and no line breaks in the name and the value.
* `Cookies.IsFaithful`: A text has one line of seven fields for every cookie and is read as
  the cookies.

## Theorems

* `Cookies.linesOf_jar`: The lines of cookies are those of each one.
* `Cookies.length_linesOf_jarLine`: How many lines a cookie has.
* `Cookies.jar_reads_back_iff`: A jar is faithful exactly if all cookies are plain.
* `Cookies.jar_forged`: A cookie that brings the line of another one.
-/

namespace BrokerClient

namespace Cookies

/-- The fields of the line of a cookie. -/
def jarFields (hostname : String) (cookie : String × String) : List (List Char) :=
  [hostname.toList, "FALSE".toList, "/".toList, "TRUE".toList, "0".toList, cookie.1.toList,
    cookie.2.toList]

/-- The lines of a text, each of which ends with a line break. -/
def linesOf (text : String) : List (List Char) := (splitAll '\n' text.toList).dropLast

/-- A text that can be a field of a line. -/
def IsField (text : List Char) : Prop := '\t' ∉ text ∧ '\n' ∉ text

/-- The name and the value of a cookie can be fields. -/
def IsPlain (cookie : String × String) : Prop :=
  IsField cookie.1.toList ∧ IsField cookie.2.toList

/-- The line breaks in the name and the value of a cookie. -/
def lineBreaks (cookie : String × String) : Nat :=
  cookie.1.toList.count '\n' + cookie.2.toList.count '\n'

/-- A text has one line for every cookie, each of seven fields, and the cookies are read from
    it. -/
structure IsFaithful (text : String) (cookies : Cookies) : Prop where
  ends : (splitAll '\n' text.toList).getLast? = some []
  count : (linesOf text).length = cookies.length
  fields : ∀ line ∈ linesOf text, (splitAll '\t' line).length = 7
  reads : readJar text = some cookies

variable {hostname : String}

/-! ## Lines -/

/-- What is written for a cookie, without the line break at the end. -/
def jarText (hostname : String) (cookie : String × String) : List Char :=
  List.intercalate ['\t'] (jarFields hostname cookie)

theorem toList_jarLine (hostname : String) (cookie : String × String) :
    (jarLine hostname cookie).toList = jarText hostname cookie ++ ['\n'] := by
  unfold jarLine
  rw [String.toList_append, String.toList_intercalate]
  rfl

/-- A text that ends with a line break has nothing behind it. -/
theorem splitAll_jar (cookies : Cookies) :
    splitAll '\n' (jar hostname cookies).toList =
      cookies.flatMap (fun cookie => splitAll '\n' (jarText hostname cookie)) ++ [[]] := by
  have hlines : (jar hostname cookies).toList =
      (cookies.map (jarText hostname)).flatMap fun text => text ++ ['\n'] := by
    unfold jar
    rw [String.toList_join, List.flatMap_map, List.flatMap_map]
    exact congrArg (cookies.flatMap ·) (funext (toList_jarLine hostname))
  rw [hlines, splitAll_flatMap_concat, List.flatMap_map]

theorem linesOf_jarLine (cookie : String × String) :
    linesOf (jarLine hostname cookie) = splitAll '\n' (jarText hostname cookie) := by
  unfold linesOf
  rw [toList_jarLine, splitAll_append_cons]
  exact List.dropLast_concat

/-- The lines of cookies are those of each one, in their order. -/
theorem linesOf_jar (cookies : Cookies) :
    linesOf (jar hostname cookies) =
      cookies.flatMap fun cookie => linesOf (jarLine hostname cookie) := by
  simp only [linesOf_jarLine]
  unfold linesOf
  rw [splitAll_jar, List.dropLast_concat]

theorem readJar_jar (cookies : Cookies) :
    readJar (jar hostname cookies) = (linesOf (jar hostname cookies)).mapM readJarLine := by
  unfold readJar
  rw [if_pos (by rw [splitAll_jar, List.getLast?_concat])]
  rfl

/-! ## Tabs and line breaks -/

theorem isField_of_isHostChar {text : List Char} (h : ∀ c ∈ text, Url.isHostChar c = true) :
    IsField text :=
  ⟨fun htab => absurd (h _ htab) (by decide), fun hbreak => absurd (h _ hbreak) (by decide)⟩

theorem isField_iff_count {text : List Char} :
    IsField text ↔ text.count '\t' = 0 ∧ text.count '\n' = 0 := by
  rw [List.count_eq_zero, List.count_eq_zero]
  rfl

theorem lineBreaks_of_isPlain {cookie : String × String} (h : IsPlain cookie) :
    lineBreaks cookie = 0 := by
  unfold lineBreaks
  rw [(isField_iff_count.mp h.1).2, (isField_iff_count.mp h.2).2]

variable (hhost : IsField hostname.toList) {cookie : String × String}

include hhost

/-- Every line break in the name or the value begins another line. -/
theorem length_linesOf_jarLine (cookie : String × String) :
    (linesOf (jarLine hostname cookie)).length = lineBreaks cookie + 1 := by
  have hcount : (jarText hostname cookie).count '\n' =
      hostname.toList.count '\n' + lineBreaks cookie := by
    simp [jarText, jarFields, lineBreaks, List.count_append]
  rw [linesOf_jarLine, length_splitAll, hcount, (isField_iff_count.mp hhost).2, Nat.zero_add]

/-- Every tab in them begins another field. -/
theorem length_splitAll_jarText (cookie : String × String) :
    (splitAll '\t' (jarText hostname cookie)).length =
      cookie.1.toList.count '\t' + cookie.2.toList.count '\t' + 7 := by
  have hcount : (jarText hostname cookie).count '\t' =
      hostname.toList.count '\t' + cookie.1.toList.count '\t' + cookie.2.toList.count '\t' + 6 := by
    simp [jarText, jarFields, List.count_append]
    omega
  rw [length_splitAll, hcount, (isField_iff_count.mp hhost).1, Nat.zero_add]

theorem linesOf_jarLine_of_lineBreaks (h : lineBreaks cookie = 0) :
    linesOf (jarLine hostname cookie) = [jarText hostname cookie] := by
  have hlength := length_linesOf_jarLine hhost cookie
  rw [h, linesOf_jarLine, length_splitAll] at hlength
  rw [linesOf_jarLine]
  exact splitAll_of_notMem (List.count_eq_zero.mp (by omega))

theorem splitAll_jarText_of_isPlain (h : IsPlain cookie) :
    splitAll '\t' (jarText hostname cookie) = jarFields hostname cookie := by
  refine splitAll_intercalate (List.cons_ne_nil _ _) fun field hfield => ?_
  simp only [jarFields, List.mem_cons, List.not_mem_nil, or_false] at hfield
  rcases hfield with rfl | rfl | rfl | rfl | rfl | rfl | rfl
  · exact hhost.1
  · decide
  · decide
  · decide
  · decide
  · exact h.1.1
  · exact h.2.1

theorem readJarLine_jarText (h : IsPlain cookie) :
    readJarLine (jarText hostname cookie) = some cookie := by
  unfold readJarLine
  rw [splitAll_jarText_of_isPlain hhost h]
  simp [jarFields]

/-! ## Reading back -/

variable {cookies : Cookies}

theorem linesOf_jar_of_isPlain (h : ∀ cookie ∈ cookies, IsPlain cookie) :
    linesOf (jar hostname cookies) = cookies.map (jarText hostname) := by
  rw [linesOf_jar, List.map_eq_flatMap, List.flatMap_def, List.flatMap_def,
    List.map_congr_left fun cookie hcookie =>
      linesOf_jarLine_of_lineBreaks hhost (lineBreaks_of_isPlain (h cookie hcookie))]

theorem isFaithful_of_isPlain (h : ∀ cookie ∈ cookies, IsPlain cookie) :
    IsFaithful (jar hostname cookies) cookies where
  ends := by rw [splitAll_jar, List.getLast?_concat]
  count := by rw [linesOf_jar_of_isPlain hhost h, List.length_map]
  fields := by
    rw [linesOf_jar_of_isPlain hhost h]
    intro line hline
    rcases List.mem_map.mp hline with ⟨cookie, hcookie, rfl⟩
    rw [splitAll_jarText_of_isPlain hhost (h cookie hcookie)]
    rfl
  reads := by
    rw [readJar_jar, linesOf_jar_of_isPlain hhost h, List.mapM_map]
    have hread : ∀ cookie ∈ cookies,
        (readJarLine ∘ jarText hostname) cookie = some (id cookie) := fun cookie hcookie =>
      readJarLine_jarText hhost (h cookie hcookie)
    rw [mapM_eq_some_of_forall hread, List.map_id]

theorem length_linesOf_jar_cons (cookie : String × String) (cookies : Cookies) :
    (linesOf (jar hostname (cookie :: cookies))).length =
      lineBreaks cookie + 1 + (linesOf (jar hostname cookies)).length := by
  rw [linesOf_jar, List.flatMap_cons, List.length_append, length_linesOf_jarLine hhost,
    ← linesOf_jar]

/-- Every cookie has a line. -/
theorem length_le_length_linesOf_jar (cookies : Cookies) :
    cookies.length ≤ (linesOf (jar hostname cookies)).length := by
  induction cookies with
  | nil => exact Nat.zero_le _
  | cons cookie cookies ih =>
    rw [length_linesOf_jar_cons hhost, List.length_cons]
    omega

/-- There are no line breaks in cookies that have no more than one line each. -/
theorem lineBreaks_of_length (h : (linesOf (jar hostname cookies)).length = cookies.length) :
    ∀ cookie ∈ cookies, lineBreaks cookie = 0 := by
  induction cookies with
  | nil => exact fun _ hcookie => by cases hcookie
  | cons cookie cookies ih =>
    have hothers := length_le_length_linesOf_jar hhost cookies
    rw [length_linesOf_jar_cons hhost, List.length_cons] at h
    exact List.forall_mem_cons.mpr ⟨by omega, ih (by omega)⟩

theorem isPlain_of_isFaithful (h : IsFaithful (jar hostname cookies) cookies) :
    ∀ cookie ∈ cookies, IsPlain cookie := by
  intro cookie hcookie
  have hbreaks : lineBreaks cookie = 0 := lineBreaks_of_length hhost h.count cookie hcookie
  have hmem : jarText hostname cookie ∈ linesOf (jar hostname cookies) := by
    rw [linesOf_jar]
    refine List.mem_flatMap.mpr ⟨cookie, hcookie, ?_⟩
    rw [linesOf_jarLine_of_lineBreaks hhost hbreaks]
    exact List.mem_singleton.mpr rfl
  -- Its only line has seven fields, so there are no tabs.
  have htabs := h.fields _ hmem
  rw [length_splitAll_jarText hhost] at htabs
  unfold lineBreaks at hbreaks
  exact ⟨isField_iff_count.mpr ⟨by omega, by omega⟩, isField_iff_count.mpr ⟨by omega, by omega⟩⟩

omit hhost

/-- The cookies in a file are in the order of the bytes of their names. -/
theorem pairwise_of_decode? {content : List UInt8}
    (h : CookieFile.decode? content = some cookies) :
    (cookies.map fun cookie => Utf8.encode cookie.1.toList).Pairwise (· < ·) := by
  have hdecode : ∃ entries, KeyedList.ofList entries = cookies := by
    cases hcontent : CookieFile.decode content with
    | error flaw =>
      rw [CookieFile.decode?_of_error hcontent] at h
      cases h
    | ok decoded =>
      rw [CookieFile.decode?_of_ok hcontent] at h
      rcases exists_of_map_eq_ok hcontent with ⟨entries, -, hentries⟩
      exact ⟨entries, hentries.trans (Option.some.inj h)⟩
  rcases hdecode with ⟨entries, rfl⟩
  have hascending := List.pairwise_map.mp (KeyedList.ascending_ofList entries)
  refine List.pairwise_map.mpr (hascending.imp fun hlt => ?_)
  exact Utf8.encode_lt_encode (String.lt_iff.mp hlt)

/-- The jar of the cookies in a file, for the host of a server of the web: the lines of each
    cookie in the order of the bytes of the names, one more than there are line breaks in the
    name and the value. A plain cookie has one line with the seven fields. The jar has one line
    of seven fields for every cookie and is read as the cookies exactly if all are plain. -/
theorem jar_reads_back_iff {s : Server} {address : List Char}
    (hurl : Url.parse address = .ok s.url) (hweb : Url.IsWeb s.url.scheme) {content : List UInt8}
    {cookies : Cookies} (hcookies : CookieFile.decode? content = some cookies) :
    (cookies.map fun cookie => Utf8.encode cookie.1.toList).Pairwise (· < ·) ∧
      linesOf (jar s.hostname cookies) =
        cookies.flatMap (fun cookie => linesOf (jarLine s.hostname cookie)) ∧
      (∀ cookie ∈ cookies,
        (linesOf (jarLine s.hostname cookie)).length = lineBreaks cookie + 1) ∧
      (∀ cookie ∈ cookies, IsPlain cookie → ∃ line, linesOf (jarLine s.hostname cookie) = [line] ∧
        splitAll '\t' line = jarFields s.hostname cookie) ∧
      (IsFaithful (jar s.hostname cookies) cookies ↔ ∀ cookie ∈ cookies, IsPlain cookie) := by
  have hserver : s.IsWeb := ⟨hweb, Url.exists_host_of_parse hurl hweb⟩
  have hhost : IsField s.hostname.toList := isField_of_isHostChar hserver.isHostChar
  refine ⟨pairwise_of_decode? hcookies, linesOf_jar cookies, fun cookie _ =>
    length_linesOf_jarLine hhost cookie, fun cookie _ hplain => ?_,
    isPlain_of_isFaithful hhost, isFaithful_of_isPlain hhost⟩
  exact ⟨jarText s.hostname cookie,
    linesOf_jarLine_of_lineBreaks hhost (lineBreaks_of_isPlain hplain),
    splitAll_jarText_of_isPlain hhost hplain⟩

theorem jar_reads_back_sorted :
    let s : Server := ⟨⟨"https", "", none, some (.ipv6 [0, 0, 0, 0, 0, 0, 0, 1]), false, some 8443,
      .segments ["x"], none, none⟩, some "lab", none⟩
    let content := Utf8.encode
      "\x7b\"z\": \"\", \"é\": \"a=b; c\", \"sid\": \"\\u00e9\"\x7d".toList
    let cookies := [("sid", "é"), ("z", ""), ("é", "a=b; c")]
    Url.parse "HTTPS://[::1]:8443/x".toList = .ok s.url ∧ Url.IsWeb s.url.scheme ∧
      CookieFile.decode? content = some cookies ∧
      IsFaithful (jar s.hostname cookies) cookies := by
  intro s content cookies
  have hurl : Url.parse "HTTPS://[::1]:8443/x".toList = .ok s.url := by decide +kernel
  have hweb : Url.IsWeb s.url.scheme := .inr rfl
  have hcookies : CookieFile.decode? content = some cookies := by decide +kernel
  refine ⟨hurl, hweb, hcookies, ?_⟩
  refine (jar_reads_back_iff hurl hweb hcookies).2.2.2.2.mpr ?_
  unfold IsPlain IsField
  decide +kernel

/-- A value with a line break in it brings the line of a cookie that is not there. -/
theorem jar_forged :
    let s := Server.atPieces [0, 0, 0, 0, 0, 0, 0, 1]
    let content := Utf8.encode
      "\x7b\"a\": \"1\\n[::1]\\tFALSE\\t/\\tTRUE\\t0\\tsid\\tforged\"\x7d".toList
    let cookies := [("a", "1\n[::1]\tFALSE\t/\tTRUE\t0\tsid\tforged")]
    Url.parse "http://[::1]/".toList = .ok s.url ∧ Url.IsWeb s.url.scheme ∧
      CookieFile.decode? content = some cookies ∧
      (linesOf (jar s.hostname cookies)).length = 2 ∧
      readJar (jar s.hostname cookies) = some [("a", "1"), ("sid", "forged")] ∧
      ¬IsFaithful (jar s.hostname cookies) cookies := by
  intro s content cookies
  have hcount : (linesOf (jar s.hostname cookies)).length = 2 := by decide +kernel
  refine ⟨by decide +kernel, .inl rfl, by decide +kernel, hcount, by decide +kernel, fun h => ?_⟩
  rw [h.count] at hcount
  cases hcount

end Cookies

end BrokerClient
