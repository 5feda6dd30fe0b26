import P2PTransmission.Deploy.Environment
import P2PTransmission.Foundation.Fallible
import Mathlib.Data.List.TakeWhile
import Mathlib.Data.List.Nodup
import Mathlib.Data.List.Infix

/-!
# The environment over several releases

Each release reads the environment file, builds the environment of the new version from it and writes that one. The reader
takes the whitespace around a value away, and then one pair of quotation marks; the writer writes the value as it is. So a
value that shows whitespace or quotation marks at its ends once it has been read is read differently the next time
(`Nested`), and all others are kept over any number of releases (`configuration_survives_iff`).
-/

set_option autoImplicit false

namespace P2PTransmission.Deploy

/-! ## Whitespace -/

/-- No whitespace at the ends. -/
def Trimmed (text : List Char) : Prop :=
  (∀ c ∈ text.head?, isSpace c = false) ∧ ∀ c ∈ text.getLast?, isSpace c = false

/-- Nothing but whitespace. -/
def Blank (text : List Char) : Prop := ∀ c ∈ text, isSpace c = true

theorem dropWhile_blank {pre rest : List Char} (h : Blank pre) : (pre ++ rest).dropWhile isSpace = rest.dropWhile isSpace := by
  induction pre with
  | nil => rfl
  | cons c pre ih =>
    rw [List.cons_append, List.dropWhile_cons, if_pos (h c List.mem_cons_self)]
    exact ih fun c' hc' => h c' (List.mem_cons_of_mem _ hc')

theorem dropWhile_of_head {text : List Char} (h : ∀ c ∈ text.head?, isSpace c = false) : text.dropWhile isSpace = text := by
  cases text with
  | nil => rfl
  | cons c text => rw [List.dropWhile_cons, if_neg (by simpa using h c rfl)]

theorem strip_of {pre text post : List Char} (hpre : Blank pre) (htext : Trimmed text) (hpost : Blank post) :
    strip (pre ++ (text ++ post)) = text := by
  have hpost' : Blank post.reverse := fun c hc => hpost c (List.mem_reverse.mp hc)
  unfold strip
  rw [dropWhile_blank hpre]
  cases text with
  | nil =>
    rw [List.nil_append]
    have hall : post.dropWhile isSpace = [] := List.dropWhile_eq_nil_iff.mpr hpost
    rw [hall]
    rfl
  | cons c text =>
    have hhead : ∀ c' ∈ (c :: text ++ post).head?, isSpace c' = false := htext.1
    rw [dropWhile_of_head hhead, List.reverse_append, dropWhile_blank hpost', dropWhile_of_head, List.reverse_reverse]
    intro c' hc'
    rw [List.head?_reverse] at hc'
    exact htext.2 c' hc'

theorem strip_trimmed {text : List Char} (h : Trimmed text) : strip text = text := by
  have hblank : Blank [] := fun _ hc => by cases hc
  have hstrip := strip_of hblank h hblank
  rwa [List.nil_append, List.append_nil] at hstrip

theorem head_dropWhile {text : List Char} : ∀ c ∈ (text.dropWhile isSpace).head?, isSpace c = false := by
  intro c hc
  have hnot := List.head?_dropWhile_not isSpace text
  rw [Option.mem_def] at hc
  rw [hc] at hnot
  simpa using hnot

/-- A text is what is left of it between whitespace. -/
theorem strip_spec (text : List Char) :
    ∃ pre post, text = pre ++ (strip text ++ post) ∧ Blank pre ∧ Blank post ∧ Trimmed (strip text) := by
  let rest := text.dropWhile isSpace
  have hrest : rest = strip text ++ (rest.reverse.takeWhile isSpace).reverse := by
    have hsplit := List.takeWhile_append_dropWhile (p := isSpace) (l := rest.reverse)
    calc rest = rest.reverse.reverse := (List.reverse_reverse rest).symm
      _ = (rest.reverse.takeWhile isSpace ++ rest.reverse.dropWhile isSpace).reverse := by rw [hsplit]
      _ = _ := List.reverse_append
  refine ⟨text.takeWhile isSpace, (rest.reverse.takeWhile isSpace).reverse, ?_, ?_, ?_, ?_, ?_⟩
  · rw [← hrest]
    exact List.takeWhile_append_dropWhile.symm
  · exact fun c hc => List.mem_takeWhile_imp hc
  · exact fun c hc => List.mem_takeWhile_imp (List.mem_reverse.mp hc)
  · intro c hc
    have hhead : ∀ c ∈ rest.head?, isSpace c = false := head_dropWhile
    apply hhead c
    rw [hrest]
    cases hstrip : strip text with
    | nil =>
      rw [hstrip] at hc
      cases hc
    | cons first others =>
      rw [hstrip] at hc
      exact hc
  · intro c hc
    unfold strip at hc
    rw [List.getLast?_reverse] at hc
    exact head_dropWhile c hc

theorem mem_of_mem_strip {text : List Char} {c : Char} (h : c ∈ strip text) : c ∈ text := by
  obtain ⟨pre, post, htext, -⟩ := strip_spec text
  rw [htext]
  exact List.mem_append_right _ (List.mem_append_left _ h)

/-! ## Quotation marks -/

def IsQuote (c : Char) : Prop := c = '"' ∨ c = '\''

/-- The text begins and ends with the same quotation mark. -/
def Enclosed (text : List Char) : Prop := ∃ quote, IsQuote quote ∧ text.head? = some quote ∧ text.getLast? = some quote

theorem isQuote_iff {c : Char} : [0x22, 0x27].contains c.toNat = true ↔ IsQuote c := by
  have hchar : ∀ n, c.toNat = n → c = Char.ofNat n := fun n hn => by rw [← hn, Char.ofNat_toNat]
  constructor
  · intro h
    simp only [List.contains_cons, List.contains_nil, Bool.or_false, Bool.or_eq_true, beq_iff_eq] at h
    rcases h with h | h
    · exact .inl (hchar _ h)
    · exact .inr (hchar _ h)
  · rintro (rfl | rfl) <;> rfl

theorem unquote_enclosed {text : List Char} (h : Enclosed text) : unquote text = text.tail.dropLast := by
  obtain ⟨quote, hquote, hhead, hlast⟩ := h
  cases text with
  | nil => cases hhead
  | cons first rest =>
    obtain rfl := Option.some.inj hhead
    dsimp only [unquote]
    rw [isQuote_iff.mpr hquote, hlast, if_pos (by simp)]
    rfl

theorem unquote_plain {text : List Char} (h : ¬Enclosed text) : unquote text = text := by
  cases text with
  | nil => rfl
  | cons first rest =>
    dsimp only [unquote]
    rw [if_neg]
    intro hboth
    rw [Bool.and_eq_true, beq_iff_eq] at hboth
    exact h ⟨first, isQuote_iff.mp hboth.1, rfl, hboth.2⟩

theorem mem_of_mem_unquote {text : List Char} {c : Char} (h : c ∈ unquote text) : c ∈ text := by
  by_cases henclosed : Enclosed text
  · rw [unquote_enclosed henclosed] at h
    exact List.mem_of_mem_tail (List.mem_of_mem_dropLast h)
  · rwa [unquote_plain henclosed] at h

theorem length_unquote_lt {text : List Char} (h : Enclosed text) : (unquote text).length < text.length := by
  rw [unquote_enclosed h, List.length_dropLast, List.length_tail]
  obtain ⟨quote, -, hhead, -⟩ := h
  cases text with
  | nil => cases hhead
  | cons first rest =>
    rw [List.length_cons]
    omega

/-- A value that stays the same when it is read again. -/
def Stable (value : List Char) : Prop := unquote (strip value) = value

theorem stable_iff {value : List Char} : Stable value ↔ Trimmed value ∧ ¬Enclosed value := by
  constructor
  · intro h
    have hshorter : (strip value).length ≤ value.length := by
      obtain ⟨pre, post, hvalue, -⟩ := strip_spec value
      have hlength := congrArg List.length hvalue
      rw [List.length_append, List.length_append] at hlength
      omega
    have hplain : ¬Enclosed (strip value) := fun henclosed => by
      have hlt := length_unquote_lt henclosed
      rw [h] at hlt
      omega
    rw [Stable, unquote_plain hplain] at h
    obtain ⟨_, _, -, -, -, htrimmed⟩ := strip_spec value
    rw [h] at htrimmed hplain
    exact ⟨htrimmed, hplain⟩
  · rintro ⟨htrimmed, hplain⟩
    rw [Stable, strip_trimmed htrimmed, unquote_plain hplain]

/-- Quotation marks around whitespace or around quotation marks: taking them off uncovers what is taken off next. -/
def Nested (written : List Char) : Prop :=
  Enclosed written ∧ (¬Trimmed written.tail.dropLast ∨ Enclosed written.tail.dropLast)

theorem stable_unquote {written : List Char} (h : Trimmed written) : Stable (unquote written) ↔ ¬Nested written := by
  rw [stable_iff]
  by_cases henclosed : Enclosed written
  · rw [unquote_enclosed henclosed, Nested, not_and_or, not_or, not_not]
    constructor
    · rintro ⟨htrimmed, hplain⟩
      exact .inr ⟨htrimmed, hplain⟩
    · rintro (hnot | hboth)
      · exact absurd henclosed hnot
      · exact hboth
  · rw [unquote_plain henclosed]
    exact ⟨fun _ hnested => henclosed hnested.1, fun _ => ⟨h, henclosed⟩⟩

/-! ## Lines -/

theorem splitLines_cons {line : List Char} {c : Char} (rest : List Char) (h : isLineBreak c = false) :
    splitLines line (c :: rest) = splitLines (c :: line) rest := by
  rw [splitLines]
  · rw [h]
    rfl
  · rintro rest' rfl
    cases h

/-- A line that is written is read as it is. -/
theorem splitLines_line {rest : List Char} : ∀ {line read : List Char}, (∀ c ∈ line, isLineBreak c = false) →
    splitLines read (line ++ '\n' :: rest) = (read.reverse ++ line) :: splitLines [] rest
  | [], read, _ => by
    rw [List.nil_append, List.append_nil, splitLines]
    · rfl
    · rintro rest' h
      cases h
  | c :: line, read, h => by
    rw [List.cons_append, splitLines_cons _ (h c List.mem_cons_self),
      splitLines_line fun c' hc' => h c' (List.mem_cons_of_mem _ hc'), List.reverse_cons, List.append_assoc]
    rfl

theorem splitLines_lines : ∀ {lines : List (List Char)}, (∀ line ∈ lines, ∀ c ∈ line, isLineBreak c = false) →
    splitLines [] (lines.flatMap fun line => line ++ ['\n']) = lines
  | [], _ => rfl
  | line :: lines, h => by
    rw [List.flatMap_cons, List.append_assoc, List.singleton_append, splitLines_line (h line List.mem_cons_self),
      splitLines_lines fun line' hline' => h line' (List.mem_cons_of_mem _ hline')]
    rfl

/-- Lines that are read do not go on over a line break. -/
theorem mem_splitLines {read text : List Char} (hread : ∀ c ∈ read, isLineBreak c = false) :
    ∀ line ∈ splitLines read text, ∀ c ∈ line, isLineBreak c = false := by
  induction read, text using splitLines.induct with
  | case1 read hempty =>
    intro line hline
    rw [splitLines, if_pos hempty] at hline
    cases hline
  | case2 read hempty =>
    intro line hline c hc
    rw [splitLines, if_neg hempty, List.mem_singleton] at hline
    rw [hline, List.mem_reverse] at hc
    exact hread c hc
  | case3 read rest ih =>
    intro line hline c hc
    rw [splitLines] at hline
    rcases List.mem_cons.mp hline with rfl | hline
    · exact hread c (List.mem_reverse.mp hc)
    · exact ih (fun _ h => by cases h) line hline c hc
  | case4 read c' rest hcrlf hbreak ih =>
    intro line hline c hc
    rw [splitLines, if_pos hbreak] at hline
    · rcases List.mem_cons.mp hline with rfl | hline
      · exact hread c (List.mem_reverse.mp hc)
      · exact ih (fun _ h => by cases h) line hline c hc
    · exact hcrlf
  | case5 read c' rest hcrlf hbreak ih =>
    have hplain : isLineBreak c' = false := Bool.not_eq_true _ ▸ hbreak
    rw [splitLines_cons rest hplain]
    refine ih fun c hc => ?_
    rcases List.mem_cons.mp hc with rfl | hc
    · exact hplain
    · exact hread c hc

/-! ## Assignments -/

/-- The variable that a line assigns, and what is written behind the equals sign. -/
def readAssignment (rawLine : List Char) : Option (String × List Char) :=
  let line := strip rawLine
  if line.isEmpty || line.head? == some '#' || !line.contains '=' then none
  else
    let key := String.ofList (strip (line.takeWhile (· != '=')))
    if isEnvKey key then some (key, strip ((line.dropWhile (· != '=')).drop 1)) else none

/-- What the text says for a variable: the last assignment counts. -/
def written (text key : String) : Option (List Char) :=
  (((splitLines [] text.toList).filterMap readAssignment).reverse.find? fun entry => entry.1 == key).map Prod.snd

/-- The value of an assignment: what is written without its quotation marks. -/
def valueOf (entry : String × List Char) : String × String := (entry.1, String.ofList (unquote entry.2))

theorem parseEnvLine_eq (rawLine : List Char) : parseEnvLine rawLine = (readAssignment rawLine).map valueOf := by
  unfold parseEnvLine readAssignment
  dsimp only
  split
  · rfl
  · split
    · rfl
    · rfl

theorem find?_map_value (entries : List (String × List Char)) (key : String) :
    (entries.map valueOf).find? (fun entry => entry.1 == key) = (entries.find? fun entry => entry.1 == key).map valueOf := by
  rw [List.find?_map]
  rfl

/-- The value that is read for a variable. -/
theorem get_parseEnvText (text key : String) :
    (parseEnvText text).get key = (written text key).map fun value => String.ofList (unquote value) := by
  have hlines : parseEnvText text = ((splitLines [] text.toList).filterMap readAssignment).map valueOf := by
    rw [List.map_filterMap]
    exact List.filterMap_congr fun line _ => parseEnvLine_eq line
  unfold Environment.get written
  rw [hlines, ← List.map_reverse, find?_map_value, Option.map_map, Option.map_map]
  rfl

/-- What is written has no whitespace at its ends and does not go on over a line break. -/
theorem written_spec {text key : String} {value : List Char} (h : written text key = some value) :
    Trimmed value ∧ ∀ c ∈ value, isLineBreak c = false := by
  obtain ⟨entry, hfind, rfl⟩ := Option.map_eq_some_iff.mp h
  have hmem := List.mem_reverse.mp (List.mem_of_find?_eq_some hfind)
  obtain ⟨rawLine, hline, hread⟩ := List.mem_filterMap.mp hmem
  unfold readAssignment at hread
  dsimp only at hread
  split at hread
  · cases hread
  · split at hread
    · cases hread
      obtain ⟨_, _, -, -, -, htrimmed⟩ := strip_spec (((strip rawLine).dropWhile (· != '=')).drop 1)
      refine ⟨htrimmed, fun c hc => ?_⟩
      have hstripped : c ∈ strip rawLine :=
        (List.dropWhile_sublist _).subset (List.mem_of_mem_drop (mem_of_mem_strip hc))
      exact mem_splitLines (fun _ h => by cases h) rawLine hline c (mem_of_mem_strip hstripped)
    · cases hread

/-- A value that is read does not go on over a line break. -/
theorem get_plain {text key value : String} (h : (parseEnvText text).get key = some value) :
    ∀ c ∈ value.toList, isLineBreak c = false := by
  rw [get_parseEnvText] at h
  obtain ⟨raw, hraw, rfl⟩ := Option.map_eq_some_iff.mp h
  intro c hc
  rw [String.toList_ofList] at hc
  exact (written_spec hraw).2 c (mem_of_mem_unquote hc)

/-! ## Lines that are written -/

/-- A character of a variable's name is no whitespace, ends no line and is neither the equals sign nor the mark of a
comment. -/
theorem envKey_char {key : String} (h : isEnvKey key = true) : ∀ c ∈ key.toList,
    isSpace c = false ∧ isLineBreak c = false ∧ c ≠ '=' ∧ c ≠ '#' := by
  have hplain : ∀ c, (isUpper c || isDigit c || c == '_') = true →
      isSpace c = false ∧ isLineBreak c = false ∧ c ≠ '=' ∧ c ≠ '#' := by
    intro c hc
    have hcode : (65 ≤ c.toNat ∧ c.toNat ≤ 90) ∨ (48 ≤ c.toNat ∧ c.toNat ≤ 57) ∨ c.toNat = 95 := by
      unfold isUpper isDigit at hc
      simp only [Bool.or_eq_true, Bool.and_eq_true, decide_eq_true_eq, beq_iff_eq] at hc
      rcases hc with (hc | hc) | rfl
      · exact .inl hc
      · exact .inr (.inl hc)
      · exact .inr (.inr rfl)
    refine ⟨?_, ?_, ?_, ?_⟩
    · simp only [isSpace, List.contains_cons, List.contains_nil, Bool.or_false, Bool.or_eq_false_iff,
        Bool.and_eq_false_iff, decide_eq_false_iff_not, beq_eq_false_iff_ne, ne_eq]
      omega
    · simp only [isLineBreak, List.contains_cons, List.contains_nil, Bool.or_false, Bool.or_eq_false_iff,
        beq_eq_false_iff_ne, ne_eq]
      omega
    · rintro rfl
      revert hcode
      decide
    · rintro rfl
      revert hcode
      decide
  unfold isEnvKey at h
  cases hkey : key.toList with
  | nil =>
    intro c hc
    cases hc
  | cons first rest =>
    rw [hkey] at h
    rw [Bool.and_eq_true, List.all_eq_true] at h
    intro c hc
    rcases List.mem_cons.mp hc with rfl | hc
    · exact hplain c (by rw [h.1]; rfl)
    · exact hplain c (h.2 c hc)

theorem envKey_nonempty {key : String} (h : isEnvKey key = true) : ∃ first rest, key.toList = first :: rest := by
  unfold isEnvKey at h
  cases hkey : key.toList with
  | nil =>
    rw [hkey] at h
    cases h
  | cons first rest => exact ⟨first, rest, rfl⟩

theorem head_key {key : String} (h : isEnvKey key = true) (rest : List Char) :
    ∀ c ∈ (key.toList ++ rest).head?, c ∈ key.toList := by
  obtain ⟨first, others, hkey⟩ := envKey_nonempty h
  intro c hc
  rw [hkey] at hc ⊢
  obtain rfl := Option.some.inj hc
  exact List.mem_cons_self

/-- Stripping the line strips the value on the right. -/
theorem strip_assignment {key : String} (hkey : isEnvKey key = true) (value : List Char) :
    ∃ rest, strip (key.toList ++ '=' :: value) = key.toList ++ '=' :: rest ∧ strip rest = strip value := by
  obtain ⟨pre, post, hvalue, hpre, hpost, htrimmed⟩ := strip_spec value
  have hblank : Blank [] := fun _ hc => by cases hc
  cases hstrip : strip value with
  | nil =>
    have hall : Blank value := by
      intro c hc
      rw [hvalue, hstrip, List.nil_append] at hc
      rcases List.mem_append.mp hc with hc | hc
      · exact hpre c hc
      · exact hpost c hc
    refine ⟨[], ?_, rfl⟩
    have hends : Trimmed (key.toList ++ ['=']) := by
      refine ⟨fun c hc => (envKey_char hkey c (head_key hkey _ c hc)).1, fun c hc => ?_⟩
      rw [List.getLast?_append_of_ne_nil _ (List.cons_ne_nil _ _)] at hc
      obtain rfl := Option.some.inj hc
      rfl
    have hline := strip_of hblank hends hall
    rwa [List.nil_append, List.append_assoc, List.singleton_append] at hline
  | cons first others =>
    rw [hstrip] at hvalue htrimmed
    refine ⟨pre ++ (first :: others), ?_, ?_⟩
    · have hends : Trimmed (key.toList ++ '=' :: (pre ++ (first :: others))) := by
        refine ⟨fun c hc => (envKey_char hkey c (head_key hkey _ c hc)).1, fun c hc => ?_⟩
        apply htrimmed.2 c
        rw [List.getLast?_append_of_ne_nil _ (List.cons_ne_nil _ _), ← List.cons_append,
          List.getLast?_append_of_ne_nil _ (List.cons_ne_nil _ _)] at hc
        exact hc
      have hline := strip_of hblank hends hpost
      rw [List.nil_append] at hline
      rw [← hline, hvalue]
      simp only [List.append_assoc, List.cons_append]
    · have hrest := strip_of hpre htrimmed hblank
      rwa [List.append_nil] at hrest

theorem readAssignment_written {key : String} (hkey : isEnvKey key = true) (value : List Char) :
    readAssignment (key.toList ++ '=' :: value) = some (key, strip value) := by
  obtain ⟨rest, hline, hrest⟩ := strip_assignment hkey value
  obtain ⟨first, others, hchars⟩ := envKey_nonempty hkey
  have hbefore : ∀ c ∈ key.toList, (c != '=') = true := fun c hc => bne_iff_ne.mpr (envKey_char hkey c hc).2.2.1
  have htake : (key.toList ++ '=' :: rest).takeWhile (· != '=') = key.toList := by
    rw [List.takeWhile_append_of_pos hbefore]
    simp
  have hdrop : (key.toList ++ '=' :: rest).dropWhile (· != '=') = '=' :: rest := by
    rw [List.dropWhile_append_of_pos hbefore]
    simp
  have hstrip : strip key.toList = key.toList := by
    refine strip_trimmed ⟨fun c hc => ?_, fun c hc => ?_⟩
    · exact (envKey_char hkey c (List.mem_of_mem_head? hc)).1
    · exact (envKey_char hkey c (List.mem_of_mem_getLast? hc)).1
  unfold readAssignment
  dsimp only
  rw [hline, htake, hdrop, hstrip, String.ofList_toList, if_pos hkey, if_neg]
  · rw [List.drop_one, List.tail_cons, hrest]
  · have hcomment := (envKey_char hkey first (by rw [hchars]; exact List.mem_cons_self)).2.2.2
    rw [hchars]
    simp [hcomment]

/-! ## The text that is written -/

def formatEntry (entry : String × String) : Except String String := do
  if !isEnvKey entry.1 then throw ("invalid environment key: " ++ entry.1)
  if entry.2.toList.any fun c => c == '\n' || c == '\r' then
    throw ("environment value for " ++ entry.1 ++ " contains a newline")
  return entry.1 ++ "=" ++ entry.2

theorem formatEnv_eq (values : Environment) : formatEnv values =
    (values.mapM formatEntry >>= fun lines => .ok (String.intercalate "\n" lines ++ "\n")) := rfl

theorem formatEntry_ok {entry : String × String} {line : String} : formatEntry entry = .ok line ↔
    isEnvKey entry.1 = true ∧ (∀ c ∈ entry.2.toList, c ≠ '\n' ∧ c ≠ '\r') ∧ line = entry.1 ++ "=" ++ entry.2 := by
  unfold formatEntry
  rw [throwIf_ok, throwIf_ok]
  simp only [Bool.not_eq_true', Bool.not_eq_false, List.any_eq_true, Bool.or_eq_true, beq_iff_eq, not_exists, not_and,
    not_or]
  constructor
  · rintro ⟨hkey, hvalue, hline⟩
    cases hline
    exact ⟨hkey, hvalue, rfl⟩
  · rintro ⟨hkey, hvalue, rfl⟩
    exact ⟨hkey, hvalue, rfl⟩

/-- Lines between line feeds, with one behind the last. -/
theorem intercalate_lineFeed : ∀ {lines : List (List Char)}, lines ≠ [] →
    ['\n'].intercalate lines ++ ['\n'] = lines.flatMap fun line => line ++ ['\n']
  | [], h => absurd rfl h
  | [line], _ => by simp
  | line :: line' :: lines, _ => by
    rw [List.intercalate_cons_cons, List.append_assoc, List.append_assoc, intercalate_lineFeed (List.cons_ne_nil _ _)]
    simp

/-- A line for each variable. -/
theorem toList_rendered {values : Environment} (hnonempty : values ≠ []) :
    (String.intercalate "\n" (values.map fun entry => entry.1 ++ "=" ++ entry.2) ++ "\n").toList =
      (values.map fun entry => entry.1.toList ++ '=' :: entry.2.toList).flatMap fun line => line ++ ['\n'] := by
  have hlines : (values.map fun entry => entry.1 ++ "=" ++ entry.2).map String.toList =
      values.map fun entry => entry.1.toList ++ '=' :: entry.2.toList := by
    rw [List.map_map]
    refine List.map_congr_left fun entry _ => ?_
    rw [Function.comp_apply, String.toList_append, String.toList_append, List.append_assoc]
    rfl
  rw [String.toList_append, String.toList_intercalate, hlines]
  exact intercalate_lineFeed fun h => hnonempty (List.map_eq_nil_iff.mp h)

/-- An environment whose variables have names and whose values take one line. -/
def Writable (values : Environment) : Prop :=
  values ≠ [] ∧ ∀ entry ∈ values, isEnvKey entry.1 = true ∧ ∀ c ∈ entry.2.toList, isLineBreak c = false

theorem formatEnv_of {values : Environment} (h : Writable values) :
    formatEnv values = .ok (String.intercalate "\n" (values.map fun entry => entry.1 ++ "=" ++ entry.2) ++ "\n") := by
  rw [formatEnv_eq]
  refine bind_ok.mpr ⟨_, mapM_ok.mpr ?_, rfl⟩
  rw [List.forall₂_map_right_iff, List.forall₂_same]
  intro entry hentry
  obtain ⟨hkey, hplain⟩ := h.2 entry hentry
  refine formatEntry_ok.mpr ⟨hkey, fun c hc => ⟨?_, ?_⟩, rfl⟩
  · rintro rfl
    cases hplain _ hc
  · rintro rfl
    cases hplain _ hc

/-- What is read back from an environment that was written. -/
theorem parse_formatEnv {values : Environment} {rendered : String} (h : Writable values)
    (hrendered : formatEnv values = .ok rendered) :
    parseEnvText rendered = values.map fun entry => (entry.1, String.ofList (unquote (strip entry.2.toList))) := by
  rw [formatEnv_of h] at hrendered
  obtain rfl := Except.ok.inj hrendered
  unfold parseEnvText
  rw [toList_rendered h.1, splitLines_lines, List.filterMap_map, ← List.filterMap_eq_map]
  · refine List.filterMap_congr fun entry hentry => ?_
    rw [Function.comp_apply, parseEnvLine_eq, readAssignment_written (h.2 entry hentry).1]
    rfl
  · intro line hline c hc
    obtain ⟨entry, hentry, rfl⟩ := List.mem_map.mp hline
    obtain ⟨hkey, hplain⟩ := h.2 entry hentry
    rcases List.mem_append.mp hc with hc | hc
    · exact (envKey_char hkey c hc).2.1
    · rcases List.mem_cons.mp hc with rfl | hc
      · rfl
      · exact hplain c hc

/-! ## Values by name -/

/-- Where every variable stands once, its value is the one that stands there. -/
theorem get_iff_mem {values : Environment} (h : (values.map Prod.fst).Nodup) {key value : String} :
    values.get key = some value ↔ (key, value) ∈ values := by
  constructor
  · intro hget
    obtain ⟨entry, hfind, rfl⟩ := Option.map_eq_some_iff.mp hget
    have hkey : entry.1 = key := by simpa using List.find?_some hfind
    rw [← hkey]
    exact List.mem_reverse.mp (List.mem_of_find?_eq_some hfind)
  · intro hmem
    have hsome : (values.reverse.find? fun entry => entry.1 == key).isSome = true :=
      List.find?_isSome.mpr ⟨_, List.mem_reverse.mpr hmem, by simp⟩
    obtain ⟨entry, hfind⟩ := Option.isSome_iff_exists.mp hsome
    have hkey : entry.1 = key := by simpa using List.find?_some hfind
    have hentry := List.mem_reverse.mp (List.mem_of_find?_eq_some hfind)
    have hsame := List.inj_on_of_nodup_map h hentry hmem hkey
    rw [Environment.get, hfind, hsame]
    rfl

/-- Stable values are read back as they were. -/
theorem parse_stable {values : Environment} {rendered : String} (h : Writable values)
    (hrendered : formatEnv values = .ok rendered) (hstable : ∀ entry ∈ values, Stable entry.2.toList) :
    parseEnvText rendered = values := by
  rw [parse_formatEnv h hrendered]
  calc _ = values.map id := List.map_congr_left fun entry hentry => by
          rw [hstable entry hentry, String.ofList_toList]
          rfl
    _ = values := List.map_id values

/-- **An environment is read back exactly if its values are stable.** -/
theorem reads_back_iff {values : Environment} {rendered : String} (h : Writable values)
    (hnodup : (values.map Prod.fst).Nodup) (hrendered : formatEnv values = .ok rendered) :
    (∀ key, (parseEnvText rendered).get key = values.get key) ↔ ∀ entry ∈ values, Stable entry.2.toList := by
  constructor
  · intro hsame entry hentry
    rw [parse_formatEnv h hrendered] at hsame
    have hget := (get_iff_mem hnodup).mpr hentry
    rw [← hsame entry.1, get_iff_mem (by rwa [List.map_map])] at hget
    obtain ⟨other, hother, heq⟩ := List.mem_map.mp hget
    obtain ⟨hkey, hvalue⟩ := Prod.mk.inj heq
    obtain rfl := List.inj_on_of_nodup_map hnodup hother hentry hkey
    have hlist := congrArg String.toList hvalue
    rwa [String.toList_ofList] at hlist
  · intro hstable key
    rw [parse_stable h hrendered hstable]

/-! ## The environment of a release -/

/-- What the environment before has to supply. -/
structure Supplied (existing : Environment) : Prop where
  turnUrls : existing.getD "P2P_TURN_URLS" "" ≠ ""
  turnSecret : 16 ≤ (existing.getD "P2P_TURN_SECRET" "").length
  capability : 32 ≤ (existing.getD "P2P_CAPABILITY_SECRET" "").length
  offsiteRemote : existing.getD "P2P_OFFSITE_BACKUP_REMOTE" "" ≠ ""
  offsiteRecipient : existing.getD "P2P_OFFSITE_BACKUP_AGE_RECIPIENT" "" ≠ ""
  offsiteIdentity : existing.getD "P2P_OFFSITE_BACKUP_AGE_IDENTITY" "" ≠ ""

def iceUrls (existing : Environment) : String :=
  if existing.getD "P2P_ICE_URLS" "" == "" then "stun:stun.l.google.com:19302" else existing.getD "P2P_ICE_URLS" ""

/-- The environment that `build_production_env` returns. -/
def releaseEnv (existing : Environment) (version : String) : Environment :=
  [ ("P2P_IMAGE_TAG", version),
    ("P2P_BIND_IP", "127.0.0.1"),
    ("P2P_BIND_PORT", "3410"),
    ("P2P_ALLOWED_ORIGINS", "https://p2p.yxswy.com"),
    ("P2P_CAPABILITY_SECRET", existing.getD "P2P_CAPABILITY_SECRET" ""),
    ("P2P_TURN_SECRET", existing.getD "P2P_TURN_SECRET" ""),
    ("P2P_TURN_URLS", existing.getD "P2P_TURN_URLS" ""),
    ("P2P_ICE_URLS", iceUrls existing),
    ("P2P_OFFSITE_BACKUP_REMOTE", existing.getD "P2P_OFFSITE_BACKUP_REMOTE" ""),
    ("P2P_OFFSITE_BACKUP_AGE_RECIPIENT", existing.getD "P2P_OFFSITE_BACKUP_AGE_RECIPIENT" ""),
    ("P2P_OFFSITE_BACKUP_AGE_IDENTITY", existing.getD "P2P_OFFSITE_BACKUP_AGE_IDENTITY" ""),
    ("P2P_SESSION_RATE_MAX", existing.getD "P2P_SESSION_RATE_MAX" "60"),
    ("P2P_ROOM_RATE_MAX", existing.getD "P2P_ROOM_RATE_MAX" "60"),
    ("P2P_JOIN_RATE_MAX", existing.getD "P2P_JOIN_RATE_MAX" "120"),
    ("P2P_SIGNAL_RATE_MAX", existing.getD "P2P_SIGNAL_RATE_MAX" "600"),
    ("P2P_MAX_ACTIVE_WEBSOCKETS", existing.getD "P2P_MAX_ACTIVE_WEBSOCKETS" "200"),
    ("P2P_MAX_5XX_RATIO_BPS", existing.getD "P2P_MAX_5XX_RATIO_BPS" "100"),
    ("RUST_LOG", existing.getD "RUST_LOG" "p2p_server=info,tower_http=info") ]

theorem buildProductionEnv_ok {existing values : Environment} {version : String} :
    buildProductionEnv existing version = .ok values ↔
      isVersion version = true ∧ Supplied existing ∧ values = releaseEnv existing version := by
  unfold buildProductionEnv
  rw [throwIf_ok, throwIf_ok, throwIf_ok, throwIf_ok, throwIf_ok, throwIf_ok, throwIf_ok]
  constructor
  · rintro ⟨hversion, h₁, h₂, h₃, h₄, h₅, h₆, hvalues⟩
    cases hvalues
    exact ⟨by simpa using hversion, ⟨by simpa using h₁, Nat.not_lt.mp h₂, Nat.not_lt.mp h₃, by simpa using h₄,
      by simpa using h₅, by simpa using h₆⟩, rfl⟩
  · rintro ⟨hversion, ⟨h₁, h₂, h₃, h₄, h₅, h₆⟩, rfl⟩
    exact ⟨by simpa using hversion, by simpa using h₁, Nat.not_lt.mpr h₂, Nat.not_lt.mpr h₃, by simpa using h₄,
      by simpa using h₅, by simpa using h₆, rfl⟩

/-- The variables whose values a release takes over. -/
def CARRIED : List String :=
  ["P2P_CAPABILITY_SECRET", "P2P_TURN_SECRET", "P2P_TURN_URLS", "P2P_ICE_URLS", "P2P_OFFSITE_BACKUP_REMOTE",
    "P2P_OFFSITE_BACKUP_AGE_RECIPIENT", "P2P_OFFSITE_BACKUP_AGE_IDENTITY", "P2P_SESSION_RATE_MAX", "P2P_ROOM_RATE_MAX",
    "P2P_JOIN_RATE_MAX", "P2P_SIGNAL_RATE_MAX", "P2P_MAX_ACTIVE_WEBSOCKETS", "P2P_MAX_5XX_RATIO_BPS", "RUST_LOG"]

/-- The values that a release does not take over, apart from its version. -/
def CONSTANTS : List String :=
  ["127.0.0.1", "3410", "https://p2p.yxswy.com", "", "stun:stun.l.google.com:19302", "60", "120", "600", "200", "100",
    "p2p_server=info,tower_http=info"]

/-- The value of a variable that is taken over, or its default. -/
theorem getD_cases (existing : Environment) {key default : String} (hkey : key ∈ CARRIED) (hdefault : default ∈ CONSTANTS) :
    existing.getD key default ∈ CONSTANTS ∨ key ∈ CARRIED ∧ existing.get key = some (existing.getD key default) := by
  unfold Environment.getD
  cases existing.get key with
  | none => exact .inl hdefault
  | some value => exact .inr ⟨hkey, rfl⟩

theorem iceUrls_cases (existing : Environment) : iceUrls existing ∈ CONSTANTS ∨
    "P2P_ICE_URLS" ∈ CARRIED ∧ existing.get "P2P_ICE_URLS" = some (iceUrls existing) := by
  unfold iceUrls
  split
  · exact .inl (by decide)
  · exact getD_cases existing (by decide) (by decide)

/-- Where a value of the environment comes from. -/
theorem releaseEnv_cases (existing : Environment) (version : String) : ∀ entry ∈ releaseEnv existing version,
    entry.2 = version ∨ entry.2 ∈ CONSTANTS ∨ entry.1 ∈ CARRIED ∧ existing.get entry.1 = some entry.2 := by
  simp only [releaseEnv, List.forall_mem_cons, List.not_mem_nil, false_implies, implies_true, and_true]
  refine ⟨.inl trivial, .inr (.inl (by decide)), .inr (.inl (by decide)), .inr (.inl (by decide)), ?_⟩
  refine ⟨?_, ?_, ?_, ?_, ?_, ?_, ?_, ?_, ?_, ?_, ?_, ?_, ?_, ?_⟩
  case refine_4 => exact .inr (iceUrls_cases existing)
  all_goals exact .inr (getD_cases existing (by decide) (by decide))

/-- A value that is taken over stands in the new environment; no address of a server is taken over if it is empty. -/
theorem mem_releaseEnv (existing : Environment) (version : String) {value : String} : ∀ key ∈ CARRIED,
    existing.get key = some value → value = "" ∨ (key, value) ∈ releaseEnv existing version := by
  have hvalue : ∀ key default, existing.get key = some value → existing.getD key default = value := by
    intro key default h
    rw [Environment.getD, h]
    rfl
  simp only [CARRIED, List.forall_mem_cons, List.not_mem_nil, false_implies, implies_true, and_true]
  refine ⟨?_, ?_, ?_, ?_, ?_, ?_, ?_, ?_, ?_, ?_, ?_, ?_, ?_, ?_⟩
  case refine_4 =>
    intro h
    by_cases hempty : value = ""
    · exact .inl hempty
    · right
      have hice : iceUrls existing = value := by
        unfold iceUrls
        rw [hvalue _ _ h, if_neg (by simpa using hempty)]
      simp [releaseEnv, hice]
  all_goals
    intro h
    right
    simp [releaseEnv, hvalue _ _ h]

/-- The next release takes everything over. -/
theorem releaseEnv_releaseEnv (existing : Environment) (version next : String) :
    releaseEnv (releaseEnv existing version) next = releaseEnv existing next := by
  have hice : iceUrls (releaseEnv existing version) = iceUrls existing := by
    have hget : (releaseEnv existing version).getD "P2P_ICE_URLS" "" = iceUrls existing := rfl
    unfold iceUrls at hget ⊢
    rw [hget]
    split
    · rfl
    · rfl
  unfold releaseEnv at hice ⊢
  rw [hice]
  rfl

theorem Supplied.next {existing : Environment} (h : Supplied existing) (version : String) :
    Supplied (releaseEnv existing version) :=
  ⟨h.turnUrls, h.turnSecret, h.capability, h.offsiteRemote, h.offsiteRecipient, h.offsiteIdentity⟩

theorem releaseEnv_nodup (existing : Environment) (version : String) :
    ((releaseEnv existing version).map Prod.fst).Nodup := by
  have hkeys : (releaseEnv existing version).map Prod.fst = (releaseEnv [] "").map Prod.fst := rfl
  rw [hkeys]
  decide

/-- Releases differ in their tags only. -/
theorem get_releaseEnv (existing : Environment) (version next : String) {key : String} (h : key ≠ "P2P_IMAGE_TAG") :
    (releaseEnv existing next).get key = (releaseEnv existing version).get key := by
  have hget : ∀ version, (releaseEnv existing version).get key = Environment.get ((releaseEnv existing "").drop 1) key := by
    intro version
    have hsplit : releaseEnv existing version = ("P2P_IMAGE_TAG", version) :: (releaseEnv existing "").drop 1 := rfl
    unfold Environment.get
    rw [hsplit, List.reverse_cons, List.find?_append]
    have hlast : [("P2P_IMAGE_TAG", version)].find? (fun entry => entry.1 == key) = none := by
      rw [List.find?_cons_of_neg (by simpa using h.symm), List.find?_nil]
    rw [hlast, Option.or_none]
  rw [hget, hget]

/-! ## Stable values -/

/-- Characters that a version and the constants are made of. -/
theorem version_char {version : String} (h : isVersion version = true) : ∀ c ∈ version.toList,
    isSpace c = false ∧ isLineBreak c = false ∧ ¬IsQuote c := by
  have hplain : ∀ c, (isWord c || c == '.' || c == '-') = true → isSpace c = false ∧ isLineBreak c = false ∧ ¬IsQuote c := by
    intro c hc
    have hcode : (65 ≤ c.toNat ∧ c.toNat ≤ 90) ∨ (97 ≤ c.toNat ∧ c.toNat ≤ 122) ∨ (48 ≤ c.toNat ∧ c.toNat ≤ 57) ∨
        c.toNat = 95 ∨ c.toNat = 46 ∨ c.toNat = 45 := by
      unfold isWord isUpper isDigit at hc
      simp only [Bool.or_eq_true, Bool.and_eq_true, decide_eq_true_eq, beq_iff_eq] at hc
      rcases hc with ((((hc | hc) | hc) | rfl) | rfl) | rfl
      · exact .inl hc
      · exact .inr (.inl hc)
      · exact .inr (.inr (.inl hc))
      · decide
      · decide
      · decide
    refine ⟨?_, ?_, ?_⟩
    · simp only [isSpace, List.contains_cons, List.contains_nil, Bool.or_false, Bool.or_eq_false_iff,
        Bool.and_eq_false_iff, decide_eq_false_iff_not, beq_eq_false_iff_ne, ne_eq]
      omega
    · simp only [isLineBreak, List.contains_cons, List.contains_nil, Bool.or_false, Bool.or_eq_false_iff,
        beq_eq_false_iff_ne, ne_eq]
      omega
    · rintro (rfl | rfl) <;> revert hcode <;> decide
  unfold isVersion at h
  cases hversion : version.toList with
  | nil =>
    intro c hc
    cases hc
  | cons first rest =>
    rw [hversion] at h
    rw [Bool.and_eq_true, Bool.and_eq_true, List.all_eq_true] at h
    intro c hc
    rcases List.mem_cons.mp hc with rfl | hc
    · exact hplain c (by rw [h.1.1]; rfl)
    · exact hplain c (h.2 c hc)

theorem stable_version {version : String} (h : isVersion version = true) : Stable version.toList := by
  rw [stable_iff]
  refine ⟨⟨fun c hc => ?_, fun c hc => ?_⟩, ?_⟩
  · exact (version_char h c (List.mem_of_mem_head? hc)).1
  · exact (version_char h c (List.mem_of_mem_getLast? hc)).1
  · rintro ⟨quote, hquote, hhead, -⟩
    exact (version_char h quote (List.mem_of_mem_head? hhead)).2.2 hquote

/-- Whether a text is on one line is computed with `any`. -/
theorem plain_of_any {value : List Char} (h : value.any isLineBreak = false) : ∀ c ∈ value, isLineBreak c = false :=
  fun c hc => Bool.not_eq_true _ ▸ List.any_eq_false.mp h c hc

theorem constants_plain : ∀ value ∈ CONSTANTS, Stable value.toList ∧ ∀ c ∈ value.toList, isLineBreak c = false := by
  have hplain : ∀ value ∈ CONSTANTS, value.toList.any isLineBreak = false := by decide
  have hstable : ∀ value ∈ CONSTANTS, Stable value.toList := by
    simp only [CONSTANTS, Stable, List.forall_mem_cons, List.not_mem_nil, false_implies, implies_true, and_true]
    decide
  exact fun value hvalue => ⟨hstable value hvalue, plain_of_any (hplain value hvalue)⟩

theorem releaseEnv_writable {text version : String} (hversion : isVersion version = true) :
    Writable (releaseEnv (parseEnvText text) version) := by
  refine ⟨List.cons_ne_nil _ _, fun entry hentry => ⟨?_, ?_⟩⟩
  · have hkeys : ∀ key ∈ (releaseEnv (parseEnvText text) version).map Prod.fst, isEnvKey key = true := by
      have hkeys : (releaseEnv (parseEnvText text) version).map Prod.fst = (releaseEnv [] "").map Prod.fst := rfl
      rw [hkeys]
      decide
    exact hkeys _ (List.mem_map_of_mem hentry)
  · rcases releaseEnv_cases _ _ entry hentry with hvalue | hvalue | ⟨-, hvalue⟩
    · rw [hvalue]
      exact fun c hc => (version_char hversion c hc).2.1
    · exact (constants_plain _ hvalue).2
    · exact get_plain hvalue

/-- The variables that a release takes over are written without nesting. -/
def Unnested (text : String) : Prop := ∀ key ∈ CARRIED, ∀ value, written text key = some value → ¬Nested value

theorem stable_iff_unnested {text version : String} (hversion : isVersion version = true) :
    (∀ entry ∈ releaseEnv (parseEnvText text) version, Stable entry.2.toList) ↔ Unnested text := by
  constructor
  · intro hstable key hkey value hwritten
    rw [← stable_unquote (written_spec hwritten).1]
    have hget : (parseEnvText text).get key = some (String.ofList (unquote value)) := by
      rw [get_parseEnvText, hwritten]
      rfl
    rcases mem_releaseEnv _ version key hkey hget with hempty | hmem
    · have hnil : unquote value = [] := by
        have hlist := congrArg String.toList hempty
        rwa [String.toList_ofList] at hlist
      rw [hnil]
      rfl
    · have hentry := hstable _ hmem
      rwa [String.toList_ofList] at hentry
  · intro hunnested entry hentry
    rcases releaseEnv_cases _ _ entry hentry with hvalue | hvalue | ⟨hkey, hvalue⟩
    · rw [hvalue]
      exact stable_version hversion
    · exact (constants_plain _ hvalue).1
    · rw [get_parseEnvText] at hvalue
      obtain ⟨raw, hraw, hsame⟩ := Option.map_eq_some_iff.mp hvalue
      rw [← hsame, String.toList_ofList, stable_unquote (written_spec hraw).1]
      exact hunnested _ hkey raw hraw

/-! ## Releases -/

/-- The text that a release writes. -/
def releaseText (text version : String) : Except String String := (buildProductionEnv (parseEnvText text) version).bind formatEnv

theorem releaseText_ok (text : String) {version : String} (hversion : isVersion version = true)
    (hsupplied : Supplied (parseEnvText text)) : ∃ rendered, releaseText text version = .ok rendered ∧
      formatEnv (releaseEnv (parseEnvText text) version) = .ok rendered := by
  refine ⟨_, ?_, formatEnv_of (releaseEnv_writable hversion)⟩
  rw [releaseText, buildProductionEnv_ok.mpr ⟨hversion, hsupplied, rfl⟩]
  exact formatEnv_of (releaseEnv_writable hversion)

/-- A text from which the environment of a release is read, whatever its version. -/
def Reads (existing : Environment) (text : String) : Prop := ∃ version, parseEnvText text = releaseEnv existing version

section Releases

variable {existing : Environment} {text : String}

/-- One more release. -/
theorem Reads.release (h : Reads existing text) {version : String} (hversion : isVersion version = true)
    (hsupplied : Supplied existing) (hstable : ∀ entry ∈ releaseEnv existing version, Stable entry.2.toList) :
    ∃ rendered, releaseText text version = .ok rendered ∧ Reads existing rendered := by
  obtain ⟨before, hbefore⟩ := h
  have hnext : releaseEnv (parseEnvText text) version = releaseEnv existing version := by
    rw [hbefore, releaseEnv_releaseEnv]
  have hsupplied' : Supplied (parseEnvText text) := by
    rw [hbefore]
    exact hsupplied.next before
  obtain ⟨rendered, hrelease, hrendered⟩ := releaseText_ok text hversion hsupplied'
  refine ⟨rendered, hrelease, version, ?_⟩
  rw [← hnext]
  refine parse_stable (releaseEnv_writable hversion) hrendered ?_
  rwa [hnext]

/-- Any number of releases. -/
theorem Reads.releases (hsupplied : Supplied existing)
    (hstable : ∀ version, isVersion version = true → ∀ entry ∈ releaseEnv existing version, Stable entry.2.toList) :
    ∀ {versions : List String} {text : String}, Reads existing text → (∀ version ∈ versions, isVersion version = true) →
      ∃ last, versions.foldlM releaseText text = .ok last ∧ Reads existing last
  | [], text, h, _ => ⟨text, rfl, h⟩
  | version :: versions, text, h, hversions => by
    have hversion := hversions version List.mem_cons_self
    obtain ⟨rendered, hrelease, hreads⟩ := h.release hversion hsupplied (hstable version hversion)
    obtain ⟨last, hlast, hreads⟩ := releases hsupplied hstable hreads
      fun version' hmem => hversions version' (List.mem_cons_of_mem _ hmem)
    refine ⟨last, ?_, hreads⟩
    rw [List.foldlM_cons, hrelease]
    exact hlast

end Releases

/-! ## Main result -/

/-- What is written is read back, and further releases change nothing but the tag. -/
structure Survives (values : Environment) (rendered : String) : Prop where
  readBack : ∀ key, (parseEnvText rendered).get key = values.get key
  repeated : ∀ versions : List String, (∀ version ∈ versions, isVersion version = true) →
    ∃ last, versions.foldlM releaseText rendered = .ok last ∧
      ∀ key, key ≠ "P2P_IMAGE_TAG" → (parseEnvText last).get key = values.get key

/-- **The configuration survives exactly if no variable that is taken over is written with nested quotation marks.** -/
theorem configuration_survives_iff {text version rendered : String} {values : Environment}
    (hbuild : buildProductionEnv (parseEnvText text) version = .ok values) (hformat : formatEnv values = .ok rendered) :
    Survives values rendered ↔ Unnested text := by
  obtain ⟨hversion, hsupplied, rfl⟩ := buildProductionEnv_ok.mp hbuild
  have hwritable : Writable (releaseEnv (parseEnvText text) version) := releaseEnv_writable hversion
  rw [← stable_iff_unnested hversion]
  constructor
  · intro h
    exact (reads_back_iff hwritable (releaseEnv_nodup _ _) hformat).mp h.readBack
  · intro hstable
    have hunnested := (stable_iff_unnested hversion).mp hstable
    refine ⟨(reads_back_iff hwritable (releaseEnv_nodup _ _) hformat).mpr hstable, fun versions hversions => ?_⟩
    have hreads : Reads (parseEnvText text) rendered := ⟨version, parse_stable hwritable hformat hstable⟩
    obtain ⟨last, hlast, before, hbefore⟩ := hreads.releases hsupplied
      (fun version' hversion' => (stable_iff_unnested hversion').mpr hunnested) hversions
    refine ⟨last, hlast, fun key hkey => ?_⟩
    rw [hbefore]
    exact get_releaseEnv _ _ _ hkey

/-- An environment with a relay secret. -/
def sampleEnvironment (secret : String) : Environment :=
  [ ("P2P_TURN_SECRET", secret), ("P2P_TURN_URLS", "turns:t"),
    ("P2P_CAPABILITY_SECRET", "0123456789abcdef0123456789abcdef"), ("P2P_OFFSITE_BACKUP_REMOTE", "b:p"),
    ("P2P_OFFSITE_BACKUP_AGE_RECIPIENT", "age1"), ("P2P_OFFSITE_BACKUP_AGE_IDENTITY", "/i") ]

/-- A line for each of its variables. -/
def sampleText (secret : String) : String :=
  String.intercalate "\n" ((sampleEnvironment secret).map fun entry => entry.1 ++ "=" ++ entry.2) ++ "\n"

theorem parse_sampleText (secret : String) (h : ∀ c ∈ secret.toList, isLineBreak c = false) :
    parseEnvText (sampleText secret) = sampleEnvironment (String.ofList (unquote (strip secret.toList))) := by
  have hwritable : Writable (sampleEnvironment secret) := by
    refine ⟨List.cons_ne_nil _ _, ?_⟩
    simp only [sampleEnvironment, List.forall_mem_cons, List.not_mem_nil, false_implies, implies_true, and_true]
    refine ⟨⟨by decide, h⟩, ?_, ?_, ?_, ?_, ?_⟩ <;> exact ⟨by decide, plain_of_any (by decide)⟩
  rw [sampleText, parse_formatEnv hwritable (formatEnv_of hwritable)]
  rfl

theorem configuration_survives_iff_sample : ∃ values rendered,
    buildProductionEnv (parseEnvText (sampleText "\"0123456789abcdef\"")) "1.0.0" = .ok values ∧
      formatEnv values = .ok rendered ∧ Survives values rendered := by
  have hparse := parse_sampleText "\"0123456789abcdef\"" (plain_of_any (by decide))
  have hversion : isVersion "1.0.0" = true := by decide
  have hsupplied : Supplied (parseEnvText (sampleText "\"0123456789abcdef\"")) := by
    rw [hparse]
    constructor <;> decide
  have hbuild := buildProductionEnv_ok.mpr ⟨hversion, hsupplied, rfl⟩
  obtain ⟨rendered, -, hformat⟩ := releaseText_ok _ hversion hsupplied
  refine ⟨_, rendered, hbuild, hformat, (configuration_survives_iff hbuild hformat).mpr ?_⟩
  rw [← stable_iff_unnested hversion, hparse]
  simp only [Stable]
  decide

/-- The relay secret loses its quotation marks in the file that the release writes. -/
theorem nested_secret_changes : ¬∀ text version values rendered,
    buildProductionEnv (parseEnvText text) version = .ok values → formatEnv values = .ok rendered →
      ∀ key, (parseEnvText rendered).get key = values.get key := by
  intro h
  have hparse := parse_sampleText "\"\"0123456789abcdef\"\"" (plain_of_any (by decide))
  have hversion : isVersion "1.0.0" = true := by decide
  have hsupplied : Supplied (parseEnvText (sampleText "\"\"0123456789abcdef\"\"")) := by
    rw [hparse]
    constructor <;> decide
  have hbuild := buildProductionEnv_ok.mpr ⟨hversion, hsupplied, rfl⟩
  obtain ⟨rendered, -, hformat⟩ := releaseText_ok _ hversion hsupplied
  have hstable := (reads_back_iff (releaseEnv_writable hversion) (releaseEnv_nodup _ _) hformat).mp
    (h _ _ _ _ hbuild hformat)
  rw [hparse] at hstable
  have hsecret := hstable ("P2P_TURN_SECRET", "\"0123456789abcdef\"") (by decide)
  revert hsecret
  simp only [Stable]
  decide

end P2PTransmission.Deploy
