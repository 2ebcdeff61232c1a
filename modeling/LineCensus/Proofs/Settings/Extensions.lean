import LineCensus.Proofs.Language.LeftOut
import LineCensus.Proofs.Settings.Fields
import LineCensus.Proofs.Text.Trimming
import Mathlib.Algebra.Order.BigOperators.Group.List
import Mathlib.Algebra.Order.Group.Nat

/-!
# Extensions to leave out

The items that name extensions are trimmed, those of which nothing is left are dropped, and then the
dots in front are taken away.  What stands behind the dots is not trimmed again.  The main statement
says which items suffer from that: those of dots alone, and those with white space behind the dots.
All other items make plain extensions, which are read as themselves when they are read again.
-/

namespace LineCensus

/-! ## Lists that stay as they are -/

theorem nodup_eraseDups (xs : List String) : xs.eraseDups.Nodup := by
  cases xs with
  | nil => exact List.nodup_nil
  | cons x rest =>
    rw [List.eraseDups_cons, List.nodup_cons]
    exact ⟨by simp, nodup_eraseDups _⟩
termination_by xs.length
decreasing_by
  rw [List.length_cons]
  exact Nat.lt_succ_of_le (List.length_filter_le _ rest)

theorem eraseDups_of_nodup {xs : List String} (h : xs.Nodup) : xs.eraseDups = xs := by
  induction xs with
  | nil => rfl
  | cons x rest ih =>
    obtain ⟨hx, hrest⟩ := List.nodup_cons.mp h
    have hkept : rest.filter (fun y => !y == x) = rest := by
      rw [List.filter_eq_self]
      intro y hy
      simpa using ne_of_mem_of_not_mem hy hx
    rw [List.eraseDups_cons, hkept, ih hrest]

theorem map_eq_self {f : String → String} {xs : List String} (h : ∀ x ∈ xs, f x = x) :
    xs.map f = xs :=
  (List.map_congr_left h).trans (List.map_id xs)

namespace Options

open Schema

/-! ## Plain extensions -/

/-- An extension as it may stand behind the dot of a name: something, without dots in front and
without white space around it. -/
structure IsPlain (ext : String) : Prop where
  nonempty : ext ≠ ""
  undotted : ∀ rest, ext.toList ≠ '.' :: rest
  trimmed : Text.trimmed ext = ext

def AllDots (item : String) : Prop :=
  ∃ n, Text.trim item.toList = List.replicate (n + 1) '.'

/-- Items of which no plain extension is left when they are trimmed and lose their dots. -/
inductive Frays (item : String) : Prop where
  | dots (h : AllDots item)
  | blank (n : Nat) (c : Char) (rest : List Char) (hc : Text.isBlank c = true)
    (h : Text.trim item.toList = List.replicate (n + 1) '.' ++ c :: rest)

variable {item ext : String} {items : List String}

theorem toList_dropDots (ext : String) :
    (dropDots ext).toList = ext.toList.dropWhile (· == '.') := by
  rw [dropDots, String.toList_ofList]

theorem toList_trimmed (item : String) : (Text.trimmed item).toList = Text.trim item.toList := by
  rw [Text.trimmed, String.toList_ofList]

theorem trimmed_eq_empty_iff : Text.trimmed item = "" ↔ Text.trim item.toList = [] := by
  rw [← toList_trimmed, String.toList_eq_nil_iff]

theorem dropDots_of_undotted (h : ∀ rest, ext.toList ≠ '.' :: rest) : dropDots ext = ext := by
  rw [← String.toList_inj, toList_dropDots]
  cases hext : ext.toList with
  | nil => rfl
  | cons c rest =>
    have hc : c ≠ '.' := fun hdot => h rest (by rw [hext, hdot])
    rw [List.dropWhile_cons_of_neg (by simpa using hc)]

theorem undotted_dropDots (ext : String) (rest : List Char) :
    (dropDots ext).toList ≠ '.' :: rest := by
  intro h
  have hhead := List.head?_dropWhile_not (· == '.') ext.toList
  rw [← toList_dropDots, h] at hhead
  simp at hhead

theorem exists_dots (s : List Char) :
    ∃ n, s = List.replicate n '.' ++ s.dropWhile (· == '.') := by
  have hdots : ∀ c ∈ s.takeWhile (· == '.'), c = '.' := by
    intro c hc
    simpa using List.mem_takeWhile_imp (p := (· == '.')) hc
  refine ⟨(s.takeWhile (· == '.')).length, ?_⟩
  rw [← List.eq_replicate_of_mem hdots, List.takeWhile_append_dropWhile]

theorem dropWhile_dots_append (n : Nat) (s : List Char) :
    (List.replicate n '.' ++ s).dropWhile (· == '.') = s.dropWhile (· == '.') := by
  refine List.dropWhile_append_of_pos fun c hc => ?_
  rw [List.eq_of_mem_replicate hc, beq_self_eq_true]

theorem ne_dot_of_isBlank {c : Char} (h : Text.isBlank c = true) : c ≠ '.' := by
  rintro rfl
  exact absurd h (by decide)

/-! ## What is left of an item -/

theorem trimmed_ne_empty_of_frays (h : Frays item) : Text.trimmed item ≠ "" := by
  rw [Ne, trimmed_eq_empty_iff]
  cases h with
  | dots h =>
    obtain ⟨n, h⟩ := h
    rw [h]
    exact List.cons_ne_nil _ _
  | blank n c rest hc h =>
    rw [h]
    exact List.cons_ne_nil _ _

theorem allDots_iff (h : Text.trimmed item ≠ "") :
    AllDots item ↔ dropDots (Text.trimmed item) = "" := by
  rw [Ne, trimmed_eq_empty_iff] at h
  rw [← String.toList_eq_nil_iff, toList_dropDots, toList_trimmed]
  constructor
  · rintro ⟨n, hdots⟩
    rw [hdots, ← List.append_nil (List.replicate _ _), dropWhile_dots_append]
    rfl
  · intro hnone
    obtain ⟨n, hdots⟩ := exists_dots (Text.trim item.toList)
    rw [hnone, List.append_nil] at hdots
    cases n with
    | zero => exact absurd hdots h
    | succ n => exact ⟨n, hdots⟩

/-- Behind the dots of an item that frays there is nothing, or white space. -/
theorem frays_iff :
    Frays item ↔ AllDots item ∨
      ∃ c rest, (dropDots (Text.trimmed item)).toList = c :: rest ∧ Text.isBlank c = true := by
  rw [toList_dropDots, toList_trimmed]
  constructor
  · intro hfrays
    cases hfrays with
    | dots hdots => exact .inl hdots
    | blank n c rest hc hdots =>
      refine .inr ⟨c, rest, ?_, hc⟩
      rw [hdots, dropWhile_dots_append]
      exact List.dropWhile_cons_of_neg (by simpa using ne_dot_of_isBlank hc)
  · rintro (hdots | ⟨c, rest, hleft, hc⟩)
    · exact .dots hdots
    · obtain ⟨n, hdots⟩ := exists_dots (Text.trim item.toList)
      rw [hleft] at hdots
      cases n with
      | zero =>
        have hvisible := Text.isBlank_of_trim hdots
        rw [hc] at hvisible
        cases hvisible
      | succ n => exact .blank n c rest hc hdots

theorem trimEnd_dropDots (item : String) :
    Text.trimEnd (dropDots (Text.trimmed item)).toList = (dropDots (Text.trimmed item)).toList := by
  rw [toList_dropDots, toList_trimmed]
  exact Text.trimEnd_of_suffix (Text.trimEnd_trim item.toList) (List.dropWhile_suffix _)

theorem trimmed_eq_self_iff (h : Text.trimEnd ext.toList = ext.toList) :
    Text.trimmed ext = ext ↔ ¬∃ c rest, ext.toList = c :: rest ∧ Text.isBlank c = true := by
  rw [← String.toList_inj, toList_trimmed]
  constructor
  · rintro htrim ⟨c, rest, hext, hc⟩
    have hvisible := Text.isBlank_of_trim (htrim.trans hext)
    rw [hc] at hvisible
    cases hvisible
  · intro hvisible
    have hstart : Text.trimStart ext.toList = ext.toList := by
      cases hext : ext.toList with
      | nil => rfl
      | cons c rest =>
        refine Text.trimStart_cons_of_visible ?_ rest
        rw [Bool.eq_false_iff]
        exact fun hc => hvisible ⟨c, rest, hext, hc⟩
    rw [Text.trim, hstart, h]

theorem isPlain_dropDots_iff (h : Text.trimmed item ≠ "") :
    IsPlain (dropDots (Text.trimmed item)) ↔ ¬Frays item := by
  rw [frays_iff, not_or, ← trimmed_eq_self_iff (trimEnd_dropDots item), allDots_iff h]
  constructor
  · exact fun hplain => ⟨hplain.nonempty, hplain.trimmed⟩
  · exact fun hleft => ⟨hleft.1, undotted_dropDots _, hleft.2⟩

/-! ## The extensions of a list of items -/

def extensionsIn (items : List String) : List String :=
  ((trimmedItems items).map dropDots).eraseDups

theorem extensionsOf_eq (v : Value) : extensionsOf v = (itemsOf v).map extensionsIn := rfl

theorem nodup_extensionsIn (items : List String) : (extensionsIn items).Nodup :=
  nodup_eraseDups _

theorem mem_extensionsIn : ext ∈ extensionsIn items ↔
    ∃ item ∈ items, Text.trimmed item ≠ "" ∧ dropDots (Text.trimmed item) = ext := by
  simp [extensionsIn, trimmedItems, and_assoc]

theorem undotted_of_mem (h : ext ∈ extensionsIn items) (rest : List Char) :
    ext.toList ≠ '.' :: rest := by
  obtain ⟨item, -, -, rfl⟩ := mem_extensionsIn.mp h
  exact undotted_dropDots _ rest

theorem trimEnd_of_mem (h : ext ∈ extensionsIn items) :
    Text.trimEnd ext.toList = ext.toList := by
  obtain ⟨item, -, -, rfl⟩ := mem_extensionsIn.mp h
  exact trimEnd_dropDots item

theorem empty_mem_extensionsIn_iff : "" ∈ extensionsIn items ↔ ∃ item ∈ items, AllDots item := by
  rw [mem_extensionsIn]
  constructor
  · rintro ⟨item, hitem, hne, hnone⟩
    exact ⟨item, hitem, (allDots_iff hne).mpr hnone⟩
  · rintro ⟨item, hitem, hdots⟩
    have hne := trimmed_ne_empty_of_frays (.dots hdots)
    exact ⟨item, hitem, hne, (allDots_iff hne).mp hdots⟩

theorem forall_isPlain_iff :
    (∀ ext ∈ extensionsIn items, IsPlain ext) ↔ ∀ item ∈ items, ¬Frays item := by
  constructor
  · intro hplain item hitem hfrays
    have hne := trimmed_ne_empty_of_frays hfrays
    have hleft := hplain _ (mem_extensionsIn.mpr ⟨item, hitem, hne, rfl⟩)
    exact (isPlain_dropDots_iff hne).mp hleft hfrays
  · intro hnone ext hext
    obtain ⟨item, hitem, hne, rfl⟩ := mem_extensionsIn.mp hext
    exact (isPlain_dropDots_iff hne).mpr (hnone item hitem)

/-! ## Extensions that are read again -/

theorem IsPlain.dropDots_trimmed (h : IsPlain ext) : dropDots (Text.trimmed ext) = ext := by
  rw [h.trimmed, dropDots_of_undotted h.undotted]

theorem extensionsIn_of_plain {exts : List String} (hnodup : exts.Nodup)
    (h : ∀ ext ∈ exts, IsPlain ext) : extensionsIn exts = exts := by
  have htrimmed : exts.map Text.trimmed = exts := map_eq_self fun ext hext => (h ext hext).trimmed
  have hkept : exts.filter (!·.isEmpty) = exts := by
    rw [List.filter_eq_self]
    intro ext hext
    simpa using (h ext hext).nonempty
  have hdots : exts.map dropDots = exts :=
    map_eq_self fun ext hext => dropDots_of_undotted (h ext hext).undotted
  rw [extensionsIn, trimmedItems, htrimmed, hkept, hdots, eraseDups_of_nodup hnodup]

/-- An extension that is not plain gets shorter when it is read again. -/
theorem length_dropDots_trimmed_lt (hundotted : ∀ rest, ext.toList ≠ '.' :: rest)
    (hne : Text.trimmed ext ≠ "") (hplain : ¬IsPlain ext) :
    (dropDots (Text.trimmed ext)).toList.length < ext.toList.length := by
  have hnonempty : ext ≠ "" := by
    rintro rfl
    exact hne (by decide)
  have htrim : Text.trim ext.toList ≠ ext.toList := by
    intro htrim
    refine hplain ⟨hnonempty, hundotted, ?_⟩
    rw [← String.toList_inj, toList_trimmed, htrim]
  have hdrop : (dropDots (Text.trimmed ext)).toList.length ≤ (Text.trim ext.toList).length := by
    rw [toList_dropDots, toList_trimmed]
    exact (List.dropWhile_sublist _).length_le
  have hshorter : (Text.trim ext.toList).length < ext.toList.length :=
    lt_of_le_of_ne (Text.trim_infix _).length_le fun heq =>
      htrim ((Text.trim_infix _).eq_of_length heq)
  omega

/-- If all extensions are there again after they were read again, all of them are plain: one that
is not would come from a longer one that is not. -/
theorem forall_isPlain_of_subset {exts : List String}
    (hundotted : ∀ ext ∈ exts, ∀ rest, ext.toList ≠ '.' :: rest)
    (h : ∀ ext ∈ exts, ext ∈ extensionsIn exts) : ∀ ext ∈ exts, IsPlain ext := by
  by_contra hnot
  push Not at hnot
  obtain ⟨ext, hext, hplain⟩ := hnot
  have hlong : ∀ n, ∃ ext ∈ exts, ¬IsPlain ext ∧ n ≤ ext.toList.length := by
    intro n
    induction n with
    | zero => exact ⟨ext, hext, hplain, Nat.zero_le _⟩
    | succ n ih =>
      obtain ⟨next, hnext, hplain, hn⟩ := ih
      obtain ⟨longer, hlonger, hne, rfl⟩ := mem_extensionsIn.mp (h next hnext)
      have hplain' : ¬IsPlain longer := fun hplain' =>
        hplain (hplain'.dropDots_trimmed.symm ▸ hplain')
      have hlt := length_dropDots_trimmed_lt (hundotted longer hlonger) hne hplain'
      exact ⟨longer, hlonger, hplain', by omega⟩
  obtain ⟨longest, hlongest, -, hlen⟩ := hlong ((exts.map (·.toList.length)).sum + 1)
  have hbound := List.le_sum_of_mem (List.mem_map_of_mem (f := (·.toList.length)) hlongest)
  omega

/-- The extensions are there again after they were read again, in any order, just if no item
frays. -/
theorem mem_extensionsIn_own_iff {own : List String} (hperm : own.Perm (extensionsIn items)) :
    (∀ ext, ext ∈ extensionsIn own ↔ ext ∈ extensionsIn items) ↔ ∀ item ∈ items, ¬Frays item := by
  rw [← forall_isPlain_iff]
  constructor
  · intro hsame
    have hplain : ∀ ext ∈ own, IsPlain ext := by
      apply forall_isPlain_of_subset
      · exact fun ext hext => undotted_of_mem (hperm.mem_iff.mp hext)
      · exact fun ext hext => (hsame ext).mpr (hperm.mem_iff.mp hext)
    exact fun ext hext => hplain ext (hperm.mem_iff.mpr hext)
  · intro hplain ext
    have hown : ∀ ext ∈ own, IsPlain ext := fun ext hext => hplain ext (hperm.mem_iff.mp hext)
    have hnodup : own.Nodup := hperm.nodup_iff.mpr (nodup_extensionsIn items)
    rw [extensionsIn_of_plain hnodup hown, hperm.mem_iff]

/-! ## Options -/

/-- Options whose extensions to leave out come from this value. -/
inductive GivenBy (v : Value) (o : Options) : Prop where
  | fields (fields : Fields) (hfields : ofFields fields = .ok o)
    (hv : Table.find? fields "exclude_ext" = some v)
  /-- In the section of a configuration the items are split before they are read. -/
  | settings (entries : List (Value × Value)) (hentries : ofSection entries = .ok o)
    (hv : Value.entry? entries "exclude_ext" = some v)

theorem trimmedItems_trimmedItems (items : List String) :
    trimmedItems (trimmedItems items) = trimmedItems items := by
  have htrimmed : ∀ item ∈ trimmedItems items, Text.trimmed item = item := by
    intro item hitem
    obtain ⟨given, -, rfl⟩ := List.mem_map.mp (List.mem_filter.mp hitem).1
    rw [← String.toList_inj, toList_trimmed, toList_trimmed, Text.trim_trim]
  calc trimmedItems (trimmedItems items)
      = (trimmedItems items).filter (!·.isEmpty) := congrArg (List.filter _) (map_eq_self htrimmed)
    _ = trimmedItems items := by simp only [trimmedItems, List.filter_filter, Bool.and_self]

theorem extensionsIn_trimmedItems (items : List String) :
    extensionsIn (trimmedItems items) = extensionsIn items := by
  rw [extensionsIn, trimmedItems_trimmedItems, extensionsIn]

theorem itemsField_eq_ok {fields : Fields} {name : String} {v : Value}
    (h : Table.find? fields name = some v) {items : Value → Except ItemsFault (List String)}
    {found : List String} :
    itemsField fields name items = .ok (.ok found) ↔ items v = .ok found := by
  obtain ⟨field, hfield, rfl⟩ := Option.map_eq_some_iff.mp h
  rw [itemsField, hfield]
  dsimp only
  cases items field.2 with
  | ok other => simp
  | error fault => cases fault <;> simp [Checked.fail, Checked.under, Except.mapError]

variable {v : Value} {o : Options}

theorem GivenBy.excludeExt (h : GivenBy v o) :
    ∃ items, itemsOf v = .ok items ∧ o.excludeExt = extensionsIn items := by
  cases h with
  | fields fields hfields hv =>
    have hread := (ofFields_eq_ok.mp hfields).excludeExt
    rw [itemsField_eq_ok hv, extensionsOf_eq] at hread
    obtain ⟨items, hitems, hexts⟩ := Fallible.map_eq_ok.mp hread
    exact ⟨items, hitems, hexts.symm⟩
  | settings entries hentries hv =>
    obtain ⟨known, hknown, hrest⟩ := Fallible.bind_eq_ok.mp hentries
    obtain ⟨split, hsplit, hfields⟩ := Fallible.bind_eq_ok.mp hrest
    rw [← find?_knownFields hknown (by decide)] at hv
    obtain ⟨items, hitems, hfield⟩ := find?_splitFields_list hsplit (.inl rfl) hv
    have hread := (ofFields_eq_ok.mp hfields).excludeExt
    rw [itemsField_eq_ok hfield, extensionsOf_eq, itemsOf_texts] at hread
    refine ⟨items, hitems, ?_⟩
    rw [← extensionsIn_trimmedItems]
    exact (Except.ok.inj hread).symm

theorem ofFields_excludeExt (own : List String) :
    ofFields [("exclude_ext", .list (own.map .text))] =
      .ok { excludeExt := extensionsIn own } := by
  have hitems : extensionsOf (.list (own.map .text)) = .ok (extensionsIn own) := by
    rw [extensionsOf_eq, itemsOf_texts]
    rfl
  have hread : itemsField [("exclude_ext", .list (own.map .text))] "exclude_ext" extensionsOf =
      .ok (.ok (extensionsIn own)) := (itemsField_eq_ok rfl).mpr hitems
  exact ofFields_eq_ok.mpr ⟨hread, rfl, rfl, rfl, rfl, rfl, rfl, rfl, rfl, rfl, rfl, rfl, rfl⟩

end Options

namespace LanguageChoice

theorem excludeExt_of_make {exts names : List String} {r : Registry} {choice : LanguageChoice}
    (hmake : make r exts names = .ok choice) (hnodup : exts.Nodup)
    (hundotted : ∀ ext ∈ exts, ∀ rest, ext.toList ≠ '.' :: rest) : choice.excludeExt = exts := by
  have hdots : exts.map Options.dropDots = exts :=
    map_eq_self fun ext hext => Options.dropDots_of_undotted (hundotted ext hext)
  rw [(make_eq_ok.mp hmake).2, hdots, eraseDups_of_nodup hnodup]

end LanguageChoice

namespace Options

variable {v : Value} {o : Options}

/-- The extensions to leave out are what the items are without the white space around them and the
dots in front.  They have no dots in front and no white space behind; they are plain, and are read
again as they are, if and only if no item frays.  The choice of languages takes them as they are,
and leaves out the files without an extension just if there is an item of dots alone. -/
theorem excludeExt_of_given (h : GivenBy v o) :
    ∃ items, itemsOf v = .ok items ∧
      (∀ ext, ext ∈ o.excludeExt ↔
        ∃ item ∈ items, Text.trimmed item ≠ "" ∧ dropDots (Text.trimmed item) = ext) ∧
      (∀ ext ∈ o.excludeExt,
        (∀ rest, ext.toList ≠ '.' :: rest) ∧ Text.trimEnd ext.toList = ext.toList) ∧
      ((∀ ext ∈ o.excludeExt, IsPlain ext) ↔ ∀ item ∈ items, ¬Frays item) ∧
      (∀ own : List String, own.Perm o.excludeExt → ∃ again,
        ofFields [("exclude_ext", .list (own.map .text))] = .ok again ∧
        ((∀ ext, ext ∈ again.excludeExt ↔ ext ∈ o.excludeExt) ↔ ∀ item ∈ items, ¬Frays item)) ∧
      ∀ r names choice, LanguageChoice.make r o.excludeExt names = .ok choice →
        choice.excludeExt = o.excludeExt ∧
        ∀ p : Path, p.extension = "" →
          (p.extension ∈ choice.excludeExt ↔ ∃ item ∈ items, AllDots item) := by
  obtain ⟨items, hitems, hexts⟩ := h.excludeExt
  rw [hexts]
  refine ⟨items, hitems, fun ext => mem_extensionsIn,
    fun ext hext => ⟨undotted_of_mem hext, trimEnd_of_mem hext⟩, forall_isPlain_iff, ?_, ?_⟩
  · intro own hperm
    exact ⟨_, ofFields_excludeExt own, mem_extensionsIn_own_iff hperm⟩
  · intro r names choice hmake
    have hkept : choice.excludeExt = extensionsIn items :=
      LanguageChoice.excludeExt_of_make hmake (nodup_extensionsIn items)
        fun ext hext => undotted_of_mem hext
    refine ⟨hkept, ?_⟩
    intro p hp
    rw [hkept, hp, empty_mem_extensionsIn_iff]

/-- Two extensions in a section, which are read again as they are, and an item of a single dot. -/
theorem excludeExt_of_given_instances :
    let o : Options := { excludeExt := ["json", "lock"] }
    let dotted : Options := { excludeExt := [""] }
    GivenBy (.text ".json, .lock") o ∧
      (∃ again, ofFields [("exclude_ext", .list [.text "lock", .text "json"])] = .ok again ∧
        ∀ ext, ext ∈ again.excludeExt ↔ ext ∈ o.excludeExt) ∧
      GivenBy (.text ".") dotted ∧
      ∃ items, itemsOf (.text ".") = .ok items ∧ ∃ item ∈ items, AllDots item := by
  intro o dotted
  have hsection : ofSection [(.text "exclude_ext", .text ".json, .lock")] = .ok o :=
    Fallible.toOption_eq_some.mp (by decide +kernel)
  have hfields : ofFields [("exclude_ext", .text ".")] = .ok dotted :=
    Fallible.toOption_eq_some.mp (by decide +kernel)
  have hgiven : GivenBy (.text ".json, .lock") o := .settings _ hsection rfl
  have hdot : GivenBy (.text ".") dotted := .fields _ hfields rfl
  have hplain : ∀ ext ∈ o.excludeExt, IsPlain ext := by
    intro ext hext
    obtain rfl | rfl : ext = "json" ∨ ext = "lock" := by simpa [o] using hext
    · exact ⟨by decide, nofun, by decide +kernel⟩
    · exact ⟨by decide, nofun, by decide +kernel⟩
  obtain ⟨items, -, -, -, hsound, hagain, -⟩ := excludeExt_of_given hgiven
  obtain ⟨again, hread, hsame⟩ := hagain ["lock", "json"] (List.Perm.swap _ _ _)
  obtain ⟨parts, hparts, -, -, -, -, hchoice⟩ := excludeExt_of_given hdot
  have hmake : LanguageChoice.make .bundled dotted.excludeExt [] = .ok ⟨[""], [], []⟩ := by
    decide +kernel
  obtain ⟨-, hbare⟩ := hchoice .bundled [] _ hmake
  have hdots := (hbare (.ofString "Makefile") (by decide +kernel)).mp (by decide +kernel)
  exact ⟨hgiven, ⟨again, hread, hsame.mpr (hsound.mp hplain)⟩, hdot, parts, hparts, hdots⟩

/-- A single dot is read as the empty extension, which leaves out a file that has none.  White space
behind a dot stays until the extension is read again. -/
theorem ofFields_of_dots :
    ofFields [("exclude_ext", .text ".")] = .ok { excludeExt := [""] } ∧
      (∃ choice, LanguageChoice.make .bundled [""] [] = .ok choice ∧
        ∀ language, choice.admits (.ofString "Makefile") language = false) ∧
      ofFields [("exclude_ext", .text ". json")] = .ok { excludeExt := [" json"] } ∧
      ofFields [("exclude_ext", .list [.text " json"])] = .ok { excludeExt := ["json"] } := by
  refine ⟨Fallible.toOption_eq_some.mp (by decide +kernel), ?_,
    Fallible.toOption_eq_some.mp (by decide +kernel),
    Fallible.toOption_eq_some.mp (by decide +kernel)⟩
  exact ⟨⟨[""], [], []⟩, by decide +kernel,
    LanguageChoice.admits_of_mem_excludeExt (by decide +kernel)⟩

end Options
end LineCensus
