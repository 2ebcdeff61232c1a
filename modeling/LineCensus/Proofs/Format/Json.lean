import LineCensus.Format.Json
import LineCensus.Proofs.Format.JsonReader
import LineCensus.Proofs.Text.Decimal
import Mathlib.Data.List.Forall2
import Mathlib.Data.List.TakeWhile

/-!
# The report as JSON

The report is one line, a document from which all that it shows is read again.
-/

namespace LineCensus

namespace JsonReader

theorem run_cons (r : Reader) (c : Char) (rest : List Char) :
    run r (c :: rest) = (step r c).bind (run · rest) :=
  List.foldlM_cons

theorem run_append (r : Reader) (chars rest : List Char) :
    run r (chars ++ rest) = (run r chars).bind (run · rest) :=
  List.foldlM_append

theorem eq_of_isMark {c : Char} (h : isMark c = true) :
    c = '[' ∨ c = ']' ∨ c = '{' ∨ c = '}' ∨ c = ':' ∨ c = ',' := by
  simpa [isMark] using h

theorem isSpace_of_isMark {c : Char} (h : isMark c = true) : isSpace c = false := by
  rcases eq_of_isMark h with rfl | rfl | rfl | rfl | rfl | rfl <;> rfl

theorem run_mark (state : State) {c : Char} (h : isMark c = true) (rest : List Char) :
    run ⟨.outside, state⟩ (c :: rest) =
      (take state (.mark c)).bind fun next => run ⟨.outside, next⟩ rest := by
  simp only [run_cons, step, start, isSpace_of_isMark h, h, Bool.false_eq_true, if_false, if_true,
    Option.bind_map, Function.comp_def]

theorem run_word (state : State) (read : List Char) {chars : List Char}
    (h : ∀ c ∈ chars, endsWord c = false) :
    run ⟨.word read, state⟩ chars = some ⟨.word (chars.reverse ++ read), state⟩ := by
  induction chars generalizing read with
  | nil => rfl
  | cons c rest ih =>
    obtain ⟨hc, hrest⟩ := List.forall_mem_cons.mp h
    rw [run_cons, step, hc, if_neg Bool.false_ne_true, Option.bind_some, ih _ hrest]
    simp

theorem run_value {chars : List Char} {v : JsonValue} (hv : word? chars = some v)
    (hends : ∀ c ∈ chars, endsWord c = false) (outer : List Frame) {c : Char}
    (hc : endsWord c = true) (rest : List Char) :
    run ⟨.outside, .value outer⟩ (chars ++ c :: rest) = run ⟨.outside, put v outer⟩ (c :: rest) := by
  cases chars with
  | nil => cases hv
  | cons first more =>
    obtain ⟨hfirst, hmore⟩ := List.forall_mem_cons.mp hends
    have hstart : step ⟨.outside, .value outer⟩ first = some ⟨.word [first], .value outer⟩ := by
      simp only [endsWord, Bool.or_eq_false_iff, beq_eq_false_iff_ne] at hfirst
      simp [step, start, hfirst]
    have hlast : step ⟨.word (more.reverse ++ [first]), .value outer⟩ c =
        start (put v outer) c := by
      rw [step, if_pos hc, List.reverse_append, List.reverse_reverse, List.reverse_singleton,
        List.singleton_append, hv]
      rfl
    rw [List.cons_append, run_cons, hstart, Option.bind_some, run_append, run_word _ _ hmore,
      Option.bind_some, run_cons, hlast, run_cons]
    rfl

theorem chars?_map_toNat (chars : List Char) : chars? (chars.map Char.toNat) = some chars := by
  induction chars with
  | nil => rfl
  | cons c rest ih =>
    -- surrogates are no characters
    have hc : ¬(0xD800 ≤ c.toNat ∧ c.toNat < 0xDC00) ∧ ¬(0xDC00 ≤ c.toNat ∧ c.toNat < 0xE000) := by
      have hvalid : c.toNat < 0xD800 ∨ 0xDFFF < c.toNat ∧ c.toNat < 0x110000 := c.valid
      omega
    rw [List.map_cons, chars?.eq_def]
    simp only [if_neg hc.1, if_neg hc.2, ih, Option.map_some, Char.ofNat_toNat]

/-! ## Numbers -/

theorem head?_toDigits {n : Nat} (h : (Nat.toDigits 10 n).head? = some '0') : n = 0 := by
  induction n using Nat.strongRecOn with
  | ind n ih =>
    by_cases hn : n < 10
    · rw [Nat.toDigits_of_lt_base hn, List.head?_cons, Option.some_inj, Nat.digitChar_eq_zero] at h
      exact h
    · rw [Nat.toDigits_of_base_le (by omega) (by omega),
        List.head?_append_of_ne_nil _ Nat.toDigits_ne_nil] at h
      have hzero := ih (n / 10) (by omega) h
      omega

theorem unsigned?_toDigits (n : Nat) : unsigned? (Nat.toDigits 10 n) = some (n, 0) := by
  have hdigits : ∀ c ∈ Nat.toDigits 10 n, c.isDigit = true := fun _ => Text.isDigit_of_mem_toDigits
  have hwhole := List.takeWhile_eq_self_iff.mpr hdigits
  have hrest := List.dropWhile_eq_nil_iff.mpr hdigits
  have hzero : ¬(Nat.toDigits 10 n = [] ∨
      (Nat.toDigits 10 n).head? = some '0' ∧ (Nat.toDigits 10 n).length ≠ 1) := by
    rintro (hnil | ⟨hhead, hlength⟩)
    · exact Nat.toDigits_ne_nil hnil
    · rw [head?_toDigits hhead] at hlength
      exact hlength rfl
  simp only [unsigned?, hwhole, hrest, if_neg hzero]
  simp [fraction?, exponent?, Nat.ofDigitChars_ten_toDigits]

theorem word?_of_unsigned? {chars : List Char} {mantissa : Nat} {exponent : Int}
    (h : unsigned? chars = some (mantissa, exponent)) :
    word? chars = some (.number mantissa exponent) ∧
      word? ('-' :: chars) = some (.number (-mantissa) exponent) := by
  refine ⟨?_, by rw [word?, h]; rfl⟩
  have hnot : ∀ other : List Char, unsigned? other = none → chars ≠ other := by
    rintro other hother rfl
    rw [hother] at h
    cases h
  rw [word?.eq_def]
  split
  · exact absurd rfl (hnot _ rfl)
  · exact absurd rfl (hnot _ rfl)
  · exact absurd rfl (hnot _ rfl)
  · exact absurd rfl (hnot _ rfl)
  · rw [h]
    rfl

theorem word?_toString (n : Int) : word? (toString n).toList = some (.number n 0) := by
  rw [Text.toList_toString]
  split
  case isTrue hn =>
    rw [(word?_of_unsigned? (unsigned?_toDigits n.toNat)).1, Int.toNat_of_nonneg hn]
  case isFalse hn =>
    rw [(word?_of_unsigned? (unsigned?_toDigits (-n).toNat)).2, Int.toNat_of_nonneg (by omega),
      Int.neg_neg]

end JsonReader

namespace Format.Json

open JsonReader

/-! ## Texts -/

theorem hexNumber?_hexDigits : ∀ n < 0x20, (Text.hexDigits 4 n).length = 4 ∧
    Yaml.hexNumber? (Text.hexDigits 4 n) = some n := by
  decide

theorem run_code (units : List Nat) (state : State) {digits : List Char} {n : Nat}
    (hlength : digits.length = 4) (hn : Yaml.hexNumber? digits = some n) :
    run ⟨.code units [], state⟩ digits = some ⟨.text (n :: units), state⟩ := by
  obtain ⟨a, b, c, d, rfl⟩ : ∃ a b c d, digits = [a, b, c, d] := by
    match digits, hlength with
    | [a, b, c, d], _ => exact ⟨a, b, c, d, rfl⟩
  simp [run, step, hn]

theorem run_escapeChar (units : List Nat) (state : State) (c : Char) :
    run ⟨.text units, state⟩ (escapeChar c) = some ⟨.text (c.toNat :: units), state⟩ := by
  rw [escapeChar.eq_def]
  split
  case h_8 hquote hbackslash _ _ _ _ _ =>
    split
    case isTrue hcontrol =>
      obtain ⟨hlength, hn⟩ := hexNumber?_hexDigits _ hcontrol
      exact run_code units state hlength hn
    case isFalse hcontrol =>
      rw [run_cons, step, if_neg hquote, if_neg hbackslash, if_neg hcontrol]
      rfl
  all_goals rfl

theorem run_escaped (units : List Nat) (state : State) (chars : List Char) :
    run ⟨.text units, state⟩ (chars.flatMap escapeChar) =
      some ⟨.text ((chars.map Char.toNat).reverse ++ units), state⟩ := by
  induction chars generalizing units with
  | nil => rfl
  | cons c rest ih =>
    rw [List.flatMap_cons, run_append, run_escapeChar, Option.bind_some, ih]
    simp

theorem run_string (state : State) (s : String) (rest : List Char) :
    run ⟨.outside, state⟩ ((string s).toList ++ rest) =
      (take state (.text s)).bind fun next => run ⟨.outside, next⟩ rest := by
  have hlist : (string s).toList ++ rest =
      '"' :: (s.toList.flatMap escapeChar ++ '"' :: rest) := by
    simp [string]
  have hquote : step ⟨.text (s.toList.map Char.toNat).reverse, state⟩ '"' =
      (take state (.text s)).bind fun next => some ⟨.outside, next⟩ := by
    rw [step, if_pos rfl, List.reverse_reverse, chars?_map_toNat]
    simp only [Option.bind_eq_bind, Option.bind_some, String.ofList_toList]
  have hopen : step ⟨.outside, state⟩ '"' = some ⟨.text [], state⟩ := rfl
  rw [hlist, run_cons, hopen, Option.bind_some, run_append, run_escaped, List.append_nil,
    Option.bind_some, run_cons, hquote, Option.bind_assoc]
  rfl

/-! ## Values -/

/-- The text is without control characters, and in front of a character that ends a word it is
read as the value. -/
structure Writes (text : String) (v : JsonValue) : Prop where
  plain : ∀ c ∈ text.toList, 0x20 ≤ c.toNat
  run_eq : ∀ outer c rest, endsWord c = true →
    run ⟨.outside, .value outer⟩ (text.toList ++ c :: rest) =
      run ⟨.outside, put v outer⟩ (c :: rest)

theorem plain_mark {c : Char} (h : isMark c = true) : 0x20 ≤ c.toNat := by
  rcases eq_of_isMark h with rfl | rfl | rfl | rfl | rfl | rfl <;> decide

theorem plain_hexDigits (width n : Nat) : ∀ c ∈ Text.hexDigits width n, 0x20 ≤ c.toNat := by
  have hdigit : ∀ n < 16, 0x20 ≤ (Text.hexDigit n).toNat := by decide
  induction width generalizing n with
  | zero => exact List.forall_mem_nil _
  | succ width ih =>
    rw [Text.hexDigits, List.forall_mem_append, List.forall_mem_singleton]
    exact ⟨ih _, hdigit _ (Nat.mod_lt _ (by decide))⟩

theorem plain_escapeChar (c : Char) : ∀ d ∈ escapeChar c, 0x20 ≤ d.toNat := by
  rw [escapeChar.eq_def]
  split
  case h_8 =>
    split
    case isTrue => simpa using plain_hexDigits 4 _
    case isFalse hcontrol => simpa using hcontrol
  all_goals simp

theorem plain_string (s : String) : ∀ c ∈ (string s).toList, 0x20 ≤ c.toNat := by
  have hchars : ∀ c ∈ s.toList.flatMap escapeChar, 0x20 ≤ c.toNat := by
    intro c hc
    obtain ⟨d, -, hd⟩ := List.mem_flatMap.mp hc
    exact plain_escapeChar d c hd
  rw [string, String.toList_append, String.toList_append, List.forall_mem_append,
    List.forall_mem_append, String.toList_ofList]
  exact ⟨⟨by simp, by simpa using hchars⟩, by simp⟩

theorem writes_string (s : String) : Writes (string s) (.string s) where
  plain := plain_string s
  run_eq outer c rest _ := by
    rw [run_string]
    rfl

theorem endsWord_of_mem_toString {n : Int} {c : Char} (h : c ∈ (toString n).toList) :
    endsWord c = false := by
  rcases Text.isDigit_or_eq_of_mem_toString h with hdigit | rfl
  · have hne : ∀ other : Char, other.isDigit = false → c ≠ other := by
      rintro other hother rfl
      rw [hdigit] at hother
      cases hother
    simp [endsWord, isSpace, isMark, hne]
  · decide

theorem writes_toString (n : Int) : Writes (toString n) (.number n 0) where
  plain c hc := by
    rcases Text.isDigit_or_eq_of_mem_toString hc with hdigit | rfl
    · exact le_trans (by decide) (Char.isDigit_iff_toNat.mp hdigit).1
    · decide
  run_eq outer _ rest hc :=
    run_value (word?_toString n) (fun _ => endsWord_of_mem_toString) outer hc rest

/-! ## Values in one another -/

section Entries

variable {α : Type} {R : String → α → Prop} {texts : List String} {xs : List α}

/-- Entries are read one after the other with commas in between. -/
theorem run_separated {before after : List α → State}
    (hcomma : ∀ read, take (after read) (.mark ',') = some (before read))
    (hentry : ∀ text x, R text x → ∀ read c rest, endsWord c = true →
      run ⟨.outside, before read⟩ (text.toList ++ c :: rest) =
        run ⟨.outside, after (x :: read)⟩ (c :: rest))
    (h : List.Forall₂ R texts xs) (hne : texts ≠ []) (read : List α) {c : Char}
    (hc : endsWord c = true) (rest : List Char) :
    run ⟨.outside, before read⟩ ((",".intercalate texts).toList ++ c :: rest) =
      run ⟨.outside, after (xs.reverse ++ read)⟩ (c :: rest) := by
  -- on the entries; behind each but the last one a comma leads back to the state before it
  induction h generalizing read with
  | nil => exact absurd rfl hne
  | @cons text x texts xs hfirst hrest ih =>
    cases hrest with
    | nil =>
      rw [String.intercalate_singleton, hentry text x hfirst read c rest hc]
      rfl
    | @cons second y more ys hsecond hmore =>
      have hlist : (",".intercalate (text :: second :: more)).toList ++ c :: rest =
          text.toList ++ ',' :: ((",".intercalate (second :: more)).toList ++ c :: rest) := by
        simp [String.intercalate_cons_cons]
      rw [hlist, hentry text x hfirst read _ _ rfl, run_mark _ rfl, hcomma, Option.bind_some,
        ih (List.cons_ne_nil _ _)]
      simp

theorem plain_intercalate (hplain : ∀ text x, R text x → ∀ c ∈ text.toList, 0x20 ≤ c.toNat)
    (h : List.Forall₂ R texts xs) : ∀ c ∈ (",".intercalate texts).toList, 0x20 ≤ c.toNat := by
  induction h with
  | nil => simp
  | @cons text x texts xs hfirst hrest ih =>
    have htext := hplain text x hfirst
    cases hrest with
    | nil => rwa [String.intercalate_singleton]
    | cons hsecond hmore =>
      rw [String.intercalate_cons_cons, String.toList_append, String.toList_append,
        List.forall_mem_append, List.forall_mem_append]
      exact ⟨⟨htext, by simp⟩, ih⟩

theorem writes_enclosed (before after : List Frame → List α → State) (whole : List α → JsonValue)
    (first last : Char) (hfirst : isMark first = true) (hlast : isMark last = true)
    (hopen : ∀ outer, take (.value outer) (.mark first) = some (before outer []))
    (hempty : ∀ outer, take (before outer []) (.mark last) = some (put (whole []) outer))
    (hcomma : ∀ outer read, take (after outer read) (.mark ',') = some (before outer read))
    (hclose : ∀ outer read, take (after outer read) (.mark last) =
      some (put (whole read.reverse) outer))
    (hplain : ∀ text x, R text x → ∀ c ∈ text.toList, 0x20 ≤ c.toNat)
    (hentry : ∀ outer text x, R text x → ∀ read c rest, endsWord c = true →
      run ⟨.outside, before outer read⟩ (text.toList ++ c :: rest) =
        run ⟨.outside, after outer (x :: read)⟩ (c :: rest))
    (h : List.Forall₂ R texts xs) {text : String}
    (htext : text.toList = first :: ((",".intercalate texts).toList ++ [last])) :
    Writes text (whole xs) where
  plain := by
    rw [htext, List.forall_mem_cons, List.forall_mem_append, List.forall_mem_singleton]
    exact ⟨plain_mark hfirst, plain_intercalate hplain h, plain_mark hlast⟩
  run_eq outer c rest hc := by
    have hlist : text.toList ++ c :: rest =
        first :: ((",".intercalate texts).toList ++ last :: c :: rest) := by
      simp [htext]
    have hends : endsWord last = true := by simp [endsWord, hlast]
    rw [hlist, run_mark _ hfirst, hopen, Option.bind_some]
    cases h with
    | nil =>
      rw [String.intercalate_nil, String.toList_empty, List.nil_append, run_mark _ hlast, hempty]
      rfl
    | cons hx hxs =>
      rw [run_separated (hcomma outer) (hentry outer) (.cons hx hxs) (List.cons_ne_nil _ _) []
        hends, run_mark _ hlast, hclose, List.append_nil, List.reverse_reverse]
      rfl

end Entries

theorem writes_array {texts : List String} {items : List JsonValue}
    (h : List.Forall₂ Writes texts items) : Writes (array texts) (.array items) := by
  refine writes_enclosed (fun outer items => .value (.array items :: outer))
    (fun outer items => .afterItem items outer) .array '[' ']' rfl rfl (fun _ => rfl)
    (fun _ => rfl) (fun _ _ => rfl) (fun _ _ => rfl) (fun _ _ hv => hv.plain)
    (fun _ _ _ hv _ => hv.run_eq _) h ?_
  simp [array]

def WritesField (text : String) (field : String × JsonValue) : Prop :=
  ∃ value, text = string field.1 ++ ":" ++ value ∧ Writes value field.2

theorem run_field (outer : List Frame) {text : String} {field : String × JsonValue}
    (h : WritesField text field) (read : List (String × JsonValue)) (c : Char) (rest : List Char)
    (hc : endsWord c = true) :
    run ⟨.outside, .name read outer⟩ (text.toList ++ c :: rest) =
      run ⟨.outside, .afterField (field :: read) outer⟩ (c :: rest) := by
  obtain ⟨value, rfl, hvalue⟩ := h
  have hlist : (string field.1 ++ ":" ++ value).toList ++ c :: rest =
      (string field.1).toList ++ ':' :: (value.toList ++ c :: rest) := by
    simp
  rw [hlist, run_string, take, Option.bind_some, run_mark _ rfl, take, Option.bind_some,
    hvalue.run_eq _ c rest hc]
  rfl

theorem plain_field {text : String} {field : String × JsonValue} (h : WritesField text field) :
    ∀ c ∈ text.toList, 0x20 ≤ c.toNat := by
  obtain ⟨value, rfl, hvalue⟩ := h
  rw [String.toList_append, String.toList_append, List.forall_mem_append, List.forall_mem_append]
  exact ⟨⟨plain_string _, by simp⟩, hvalue.plain⟩

theorem object_eq (texts : List (String × String)) : object texts =
    "\x7b" ++ ",".intercalate (texts.map fun text => string text.1 ++ ":" ++ text.2) ++ "\x7d" :=
  rfl

theorem writes_object {texts : List (String × String)} {fields : List (String × JsonValue)}
    (h : List.Forall₂ (fun text field => text.1 = field.1 ∧ Writes text.2 field.2) texts fields) :
    Writes (object texts) (.object fields) := by
  have hfields : List.Forall₂ WritesField
      (texts.map fun text => string text.1 ++ ":" ++ text.2) fields := by
    rw [List.forall₂_map_left_iff]
    exact h.imp fun text field hfield =>
      ⟨text.2, congrArg (fun name => string name ++ ":" ++ text.2) hfield.1, hfield.2⟩
  refine writes_enclosed (fun outer fields => .name fields outer)
    (fun outer fields => .afterField fields outer) .object '{' '}' rfl rfl (fun _ => rfl)
    (fun _ => rfl) (fun _ _ => rfl) (fun _ _ => rfl) (fun _ _ => plain_field)
    (fun outer _ _ => run_field outer) hfields ?_
  simp [object_eq]

/-! ## The document -/

def lineValues (t : Tally) : List (String × JsonValue) :=
  [("code", .number t.code 0), ("comment", .number t.comment 0), ("blank", .number t.blank 0),
   ("tokens", .number t.tokens 0)]

def tallyValues (t : Tally) : List (String × JsonValue) :=
  ("files", .number t.files 0) :: lineValues t

def fileValue (r : FileEntry) : JsonValue :=
  .object (("name", .string r.path) :: ("language", .string r.language) :: lineValues r.tally)

def languageValue (l : LanguageEntry) : JsonValue :=
  .object (tallyValues l.tally ++ [("name", .string l.name)])

def document (layout : Layout) (c : Census) : JsonValue :=
  .object
    [if layout.byFile then ("files", .array (c.files.map fileValue))
      else ("languages", .array (c.languages.map languageValue)),
     ("total", .object (tallyValues c.total.tally))]

theorem writes_lineFields (t : Tally) :
    List.Forall₂ (fun text field => text.1 = field.1 ∧ Writes text.2 field.2) (lineFields t)
      (lineValues t) := by
  have hnumber := writes_toString
  exact .cons ⟨rfl, hnumber _⟩ (.cons ⟨rfl, hnumber _⟩ (.cons ⟨rfl, hnumber _⟩
    (.cons ⟨rfl, hnumber _⟩ .nil)))

theorem writes_fileObject (r : FileEntry) : Writes (fileObject r) (fileValue r) :=
  writes_object (.cons ⟨rfl, writes_string _⟩ (.cons ⟨rfl, writes_string _⟩
    (writes_lineFields _)))

theorem writes_languageObject (l : LanguageEntry) :
    Writes (languageObject l) (languageValue l) :=
  writes_object (List.rel_append (.cons ⟨rfl, writes_toString _⟩ (writes_lineFields _))
    (.cons ⟨rfl, writes_string _⟩ .nil))

theorem writes_report (layout : Layout) (c : Census) :
    ∃ line, render layout c = line ++ "\n" ∧ Writes line (document layout c) := by
  refine ⟨_, rfl, writes_object (.cons ?_ (.cons ⟨rfl, writes_object ?_⟩ .nil))⟩
  · split
    · refine ⟨rfl, writes_array ?_⟩
      rw [List.forall₂_map_left_iff, List.forall₂_map_right_iff, List.forall₂_same]
      exact fun r _ => writes_fileObject r
    · refine ⟨rfl, writes_array ?_⟩
      rw [List.forall₂_map_left_iff, List.forall₂_map_right_iff, List.forall₂_same]
      exact fun l _ => writes_languageObject l
  · exact .cons ⟨rfl, writes_toString _⟩ (writes_lineFields _)

theorem read?_of_writes {line : String} {v : JsonValue} (h : Writes line v) :
    read? (line ++ "\n") = some v := by
  have hlist : (line ++ "\n").toList ++ [' '] = line.toList ++ '\n' :: [' '] := by simp
  rw [read?, hlist, h.run_eq [] '\n' [' '] rfl]
  rfl

/-! ## Reports and their texts -/

/-- The entry without what reports leave out. -/
def shown (r : FileEntry) : FileEntry :=
  { r with error := none, contentHash := none }

theorem lineValues_inj {t u : Tally} : lineValues t = lineValues u ↔
    t.code = u.code ∧ t.comment = u.comment ∧ t.blank = u.blank ∧ t.tokens = u.tokens := by
  simp [lineValues]

theorem tallyValues_inj {t u : Tally} : tallyValues t = tallyValues u ↔ t = u := by
  rw [tallyValues, tallyValues, List.cons.injEq, lineValues_inj, Tally.ext'_iff]
  simp

theorem fileValue_inj {r r' : FileEntry} : fileValue r = fileValue r' ↔ shown r = shown r' := by
  simp [fileValue, shown, lineValues_inj, FileEntry.tally]

theorem languageValue_inj {l l' : LanguageEntry} :
    languageValue l = languageValue l' ↔ l = l' := by
  constructor
  · intro h
    rw [languageValue, languageValue, JsonValue.object.injEq] at h
    obtain ⟨htally, hname⟩ := List.append_inj h rfl
    rw [tallyValues_inj] at htally
    simp only [List.cons.injEq, Prod.mk.injEq, JsonValue.string.injEq, true_and, and_true] at hname
    rw [LanguageEntry.mk.injEq]
    exact ⟨hname, htally⟩
  · exact congrArg languageValue

/-- Documents are equal if and only if they show the same rows and the same sum. -/
theorem document_inj {layout layout' : Layout} {c c' : Census} :
    document layout c = document layout' c' ↔ layout.byFile = layout'.byFile ∧
      c.total.tally = c'.total.tally ∧
      if layout.byFile then c.files.map shown = c'.files.map shown
      else c.languages = c'.languages := by
  have hfiles : c.files.map fileValue = c'.files.map fileValue ↔
      c.files.map shown = c'.files.map shown := by
    simp only [← List.forall₂_eq_eq_eq, List.forall₂_map_left_iff, List.forall₂_map_right_iff,
      fileValue_inj]
  have hlanguages : c.languages.map languageValue = c'.languages.map languageValue ↔
      c.languages = c'.languages :=
    List.map_inj_right fun _ _ => languageValue_inj.mp
  cases hbyFile : layout.byFile <;> cases hbyFile' : layout'.byFile <;>
    simp [document, hbyFile, hbyFile', tallyValues_inj, hfiles, hlanguages, and_comm]

theorem render_congr {layout layout' : Layout} {c c' : Census}
    (hbyFile : layout.byFile = layout'.byFile) (htotal : c.total.tally = c'.total.tally)
    (hrows : if layout.byFile then c.files.map shown = c'.files.map shown
      else c.languages = c'.languages) : render layout c = render layout' c' := by
  have hfiles (files : List FileEntry) :
      files.map fileObject = (files.map shown).map fileObject := by
    rw [List.map_map]
    rfl
  rw [render, render, ← hbyFile, ← htotal]
  split at hrows
  case isTrue hfile => rw [if_pos hfile, if_pos hfile, hfiles c.files, hrows, ← hfiles]
  case isFalse hfile => rw [if_neg hfile, if_neg hfile, hrows]

/-- The report is one line, without control characters, from which the document is read again; two
reports are one text if and only if they show one and the same. -/
theorem read?_render (layout : Layout) (c : Census) :
    (∃ line, render layout c = line ++ "\n" ∧ ∀ ch ∈ line.toList, 0x20 ≤ ch.toNat) ∧
      read? (render layout c) = some (document layout c) ∧
      ∀ layout' c', render layout c = render layout' c' ↔ layout.byFile = layout'.byFile ∧
        c.total.tally = c'.total.tally ∧
        if layout.byFile then c.files.map shown = c'.files.map shown
        else c.languages = c'.languages := by
  have hread : ∀ layout c, read? (render layout c) = some (document layout c) := by
    intro layout c
    obtain ⟨line, hline, hwrites⟩ := writes_report layout c
    rw [hline]
    exact read?_of_writes hwrites
  refine ⟨?_, hread layout c, fun layout' c' => ⟨fun hrender => ?_, ?_⟩⟩
  · obtain ⟨line, hline, hwrites⟩ := writes_report layout c
    exact ⟨line, hline, hwrites.plain⟩
  · have hdocument := hread layout c
    rw [hrender, hread layout' c', Option.some_inj] at hdocument
    exact document_inj.mp hdocument.symm
  · rintro ⟨hbyFile, htotal, hrows⟩
    exact render_congr hbyFile htotal hrows

end Format.Json

end LineCensus
