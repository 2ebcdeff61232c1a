import LineCensus.Format.Xml
import LineCensus.Proofs.Format.XmlReader
import LineCensus.Text.Split
import Mathlib.Data.List.Nodup

/-!
# The report as XML

Whatever the names of files and languages hold, the report is a document with one element for each
row and one for the sum, whose attributes are read as the names and numbers that were written.
-/

namespace LineCensus

namespace XmlReader

theorem run_cons (r : Reader) (c : Char) (rest : List Char) :
    run r (c :: rest) = (step r c).bind (run · rest) :=
  List.foldlM_cons

theorem run_append (r : Reader) (chars rest : List Char) :
    run r (chars ++ rest) = (run r chars).bind (run · rest) :=
  List.foldlM_append

theorem lineEnds_eq_self {chars : List Char} (h : '\r' ∉ chars) : lineEnds chars = chars := by
  fun_induction lineEnds chars with
  | case1 => rfl
  | case2 rest ih => exact absurd List.mem_cons_self h
  | case3 rest hnot ih => exact absurd List.mem_cons_self h
  | case4 c rest hnot hnot' ih => rw [ih (fun hmem => h (List.mem_cons_of_mem c hmem))]

theorem run_spaces (state : State) {chars : List Char}
    (h : ∀ c ∈ chars, JsonReader.isSpace c = true) :
    run ⟨.outside, state⟩ chars = some ⟨.outside, state⟩ := by
  induction chars with
  | nil => rfl
  | cons c rest ih =>
    obtain ⟨hc, hrest⟩ := List.forall_mem_cons.mp h
    rw [run_cons, step, if_pos hc, Option.bind_some, ih hrest]

/-! ## Names -/

def isName (name : String) : Bool :=
  match name.toList with
  | [] => false
  | c :: rest => startsName c && rest.all isNameChar

theorem isName_iff {name : String} : isName name = true ↔
    ∃ c rest, name.toList = c :: rest ∧ startsName c = true ∧ ∀ d ∈ rest, isNameChar d = true := by
  unfold isName
  split
  · next hnil => simp [hnil]
  · next c rest hcons => simp [hcons]

theorem run_name {lexing : List Char → Lexing} {state : State}
    (hstep : ∀ read c, isNameChar c = true →
      step ⟨lexing read, state⟩ c = some ⟨lexing (c :: read), state⟩)
    {chars : List Char} (h : ∀ c ∈ chars, isNameChar c = true) (read : List Char) :
    run ⟨lexing read, state⟩ chars = some ⟨lexing (chars.reverse ++ read), state⟩ := by
  induction chars generalizing read with
  | nil => rfl
  | cons c rest ih =>
    obtain ⟨hc, hrest⟩ := List.forall_mem_cons.mp h
    rw [run_cons, hstep read c hc, Option.bind_some, ih hrest]
    simp

theorem ne_of_startsName {c other : Char} (h : startsName c = true)
    (hother : startsName other = false) : c ≠ other := by
  rintro rfl
  rw [h] at hother
  cases hother

theorem isNameChar_of_mem {name : String} (h : isName name = true) :
    ∀ c ∈ name.toList, isNameChar c = true := by
  obtain ⟨c, rest, hlist, hstart, hrest⟩ := isName_iff.mp h
  rw [hlist, List.forall_mem_cons]
  exact ⟨by simp [isNameChar, hstart], hrest⟩

theorem not_mem_of_isName {name : String} (h : isName name = true) {c : Char}
    (hc : isNameChar c = false) : c ∉ name.toList := by
  intro hmem
  rw [isNameChar_of_mem h c hmem] at hc
  cases hc

/-! ## Tags -/

section Tags

variable {name : String} (hname : isName name = true) (state : State)

include hname

theorem run_openingName : run ⟨.outside, state⟩ ('<' :: name.toList) =
    some ⟨.openingName name.toList.reverse, state⟩ := by
  obtain ⟨c, rest, hlist, hstart, hrest⟩ := isName_iff.mp hname
  have hopen : step ⟨.outside, state⟩ '<' = some ⟨.markup, state⟩ := rfl
  have hfirst : step ⟨.markup, state⟩ c = some ⟨.openingName [c], state⟩ := by
    rw [step, if_neg (ne_of_startsName hstart rfl), if_neg (ne_of_startsName hstart rfl),
      if_pos hstart]
  have hstep : ∀ read d, isNameChar d = true →
      step ⟨.openingName read, state⟩ d = some ⟨.openingName (d :: read), state⟩ :=
    fun read d hd => by rw [step, if_pos hd]
  rw [hlist, run_cons, hopen, Option.bind_some, run_cons, hfirst, Option.bind_some,
    run_name hstep hrest, List.reverse_cons]

/-- The name of an opening tag ends in front of the space or the mark behind it. -/
theorem run_openingName_append {c : Char} (hc : isNameChar c = false) (rest : List Char) :
    run ⟨.outside, state⟩ ('<' :: name.toList ++ c :: rest) =
      (inTag { name } state c).bind (run · rest) := by
  rw [run_append, run_openingName hname, Option.bind_some, run_cons, step, if_neg (by simp [hc]),
    List.reverse_reverse, String.ofList_toList]

theorem run_opening : run ⟨.outside, state⟩ ("<" ++ name ++ ">").toList =
    accept state (.opening name []) := by
  have hlist : ("<" ++ name ++ ">").toList = '<' :: name.toList ++ ['>'] := by simp
  have htag : inTag { name } state '>' = accept state (.opening name []) := rfl
  rw [hlist, run_openingName_append hname state rfl, htag]
  exact Option.bind_fun_some _

theorem run_closing : run ⟨.outside, state⟩ ("</" ++ name ++ ">").toList =
    accept state (.closing name) := by
  have hlist : ("</" ++ name ++ ">").toList = ['<', '/'] ++ (name.toList ++ ['>']) := by simp
  have hopen : run ⟨.outside, state⟩ ['<', '/'] = some ⟨.closingName [], state⟩ := rfl
  have hstep : ∀ read d, isNameChar d = true →
      step ⟨.closingName read, state⟩ d = some ⟨.closingName (d :: read), state⟩ :=
    fun read d hd => by rw [step, if_pos hd]
  have hend : step ⟨.closingName name.toList.reverse, state⟩ '>' =
      accept state (.closing name) := by
    rw [step, if_neg (by decide), List.reverse_reverse, String.ofList_toList]
    rfl
  rw [hlist, run_append, hopen, Option.bind_some, run_append,
    run_name hstep (isNameChar_of_mem hname), List.append_nil, Option.bind_some, run_cons, hend]
  exact Option.bind_fun_some _

end Tags

end XmlReader

namespace Format.Xml

open XmlReader

/-! ## Attributes -/

/-- What would end a value, or be read as something else, stands in no value as it is written. -/
theorem not_mem_escapeChar (c : Char) :
    ∀ ch ∈ escapeChar c, ch ∉ ['<', '>', '"', '\t', '\n', '\r'] := by
  rw [escapeChar.eq_def]
  split
  case h_8 hamp hlt hgt hquote hreturn hfeed htab =>
    have hne : c ≠ '<' ∧ c ≠ '>' ∧ c ≠ '"' ∧ c ≠ '\t' ∧ c ≠ '\n' ∧ c ≠ '\r' :=
      ⟨hlt, hgt, hquote, htab, hfeed, hreturn⟩
    simpa using hne
  all_goals simp

theorem not_mem_escape (s : String) :
    ∀ ch ∈ (escape s).toList, ch ∉ ['<', '>', '"', '\t', '\n', '\r'] := by
  rw [escape, String.toList_ofList]
  intro ch hch
  obtain ⟨c, -, hc⟩ := List.mem_flatMap.mp hch
  exact not_mem_escapeChar c ch hc

theorem run_escapeChar (t : Tag) (name : String) (read : List Char) (state : State) (c : Char) :
    run ⟨.value t name '"' read, state⟩ (escapeChar c) =
      some ⟨.value t name '"' (c :: read), state⟩ := by
  rw [escapeChar.eq_def]
  split
  case h_8 hamp hlt hgt hquote hreturn hfeed htab =>
    have hspace : (if JsonReader.isSpace c then ' ' else c) = c := by
      split
      case isTrue h =>
        have hne : c ≠ '\t' ∧ c ≠ '\n' ∧ c ≠ '\r' := ⟨htab, hfeed, hreturn⟩
        have hc : c = ' ' := by simpa [JsonReader.isSpace, hne] using h
        exact hc.symm
      case isFalse => rfl
    rw [run_cons, step, if_neg hquote, if_neg hlt, if_neg hamp, hspace]
    rfl
  all_goals rfl

theorem run_escaped (t : Tag) (name : String) (read : List Char) (state : State)
    (chars : List Char) :
    run ⟨.value t name '"' read, state⟩ (chars.flatMap escapeChar) =
      some ⟨.value t name '"' (chars.reverse ++ read), state⟩ := by
  induction chars generalizing read with
  | nil => rfl
  | cons c rest ih =>
    rw [List.flatMap_cons, run_append, run_escapeChar, Option.bind_some, ih]
    simp

def attributeChars (a : String × String) : List Char :=
  a.1.toList ++ (['=', '"'] ++ ((escape a.2).toList ++ ['"']))

theorem run_attributeChars {t : Tag} (state : State) {name : String} (hname : isName name = true)
    (hnew : name ∉ t.attributes.map Prod.fst) (value : String) :
    run ⟨.spaced t, state⟩ (attributeChars (name, value) ++ [' ']) =
      some ⟨.spaced ⟨t.name, (name, value) :: t.attributes⟩, state⟩ := by
  obtain ⟨c, rest, hlist, hstart, hrest⟩ := isName_iff.mp hname
  have hfirst : step ⟨.spaced t, state⟩ c = some ⟨.attribute t [c], state⟩ := by
    rw [step, if_pos hstart]
  have hstep : ∀ read d, isNameChar d = true →
      step ⟨.attribute t read, state⟩ d = some ⟨.attribute t (d :: read), state⟩ :=
    fun read d hd => by rw [step, if_pos hd]
  have hread : run ⟨.spaced t, state⟩ name.toList =
      some ⟨.attribute t name.toList.reverse, state⟩ := by
    rw [hlist, run_cons, hfirst, Option.bind_some, run_name hstep hrest, List.reverse_cons]
  have hequals : run ⟨.attribute t name.toList.reverse, state⟩ ['=', '"'] =
      some ⟨.value t name '"' [], state⟩ := by
    rw [run_cons, step, if_neg (by decide), List.reverse_reverse, String.ofList_toList]
    rfl
  have hvalue : run ⟨.value t name '"' [], state⟩ (escape value).toList =
      some ⟨.value t name '"' value.toList.reverse, state⟩ := by
    rw [escape, String.toList_ofList, run_escaped, List.append_nil]
  have hend : run ⟨.value t name '"' value.toList.reverse, state⟩ (['"'] ++ [' ']) =
      some ⟨.spaced ⟨t.name, (name, value) :: t.attributes⟩, state⟩ := by
    rw [List.singleton_append, run_cons, step, if_pos rfl, List.reverse_reverse,
      String.ofList_toList, Tag.add?, if_neg hnew]
    rfl
  simp only [attributeChars, List.append_assoc]
  rw [run_append, hread, Option.bind_some, run_append, hequals, Option.bind_some, run_append,
    hvalue, Option.bind_some, hend]

theorem run_attributes (state : State) {attributes : List (String × String)}
    (hnames : ∀ name ∈ attributes.map Prod.fst, isName name = true) (t : Tag)
    (hnodup : (attributes.map Prod.fst ++ t.attributes.map Prod.fst).Nodup) :
    run ⟨.spaced t, state⟩ (attributes.flatMap fun a => attributeChars a ++ [' ']) =
      some ⟨.spaced ⟨t.name, attributes.reverse ++ t.attributes⟩, state⟩ := by
  induction attributes generalizing t with
  | nil => rfl
  | cons a rest ih =>
    obtain ⟨ha, hrest⟩ := List.forall_mem_cons.mp hnames
    obtain ⟨hnew, hlater⟩ := List.nodup_cons.mp hnodup
    have hnext : (rest.map Prod.fst ++ a.1 :: t.attributes.map Prod.fst).Nodup :=
      List.nodup_middle.mpr hnodup
    have hnot : a.1 ∉ t.attributes.map Prod.fst :=
      fun hmem => hnew (List.mem_append_right _ hmem)
    rw [List.flatMap_cons, run_append, run_attributeChars state ha hnot, Option.bind_some,
      ih hrest ⟨t.name, (a.1, a.2) :: t.attributes⟩ hnext]
    simp

/-! ## Elements -/

structure Element.Sound (e : Element) : Prop where
  name : isName e.name = true
  attributes : ∀ name ∈ e.attributes.map Prod.fst, isName name = true
  nodup : (e.attributes.map Prod.fst).Nodup

theorem Element.Sound.of_names {e : Element} (name : String) (names : List String)
    (hname : e.name = name) (hnames : e.attributes.map Prod.fst = names)
    (h : isName name = true ∧ (∀ name ∈ names, isName name = true) ∧ names.Nodup) : e.Sound where
  name := hname ▸ h.1
  attributes := hnames ▸ h.2.1
  nodup := hnames ▸ h.2.2

theorem flatMap_cons_concat {α β : Type} (xs : List α) (f : α → List β) (b : β) :
    (xs.flatMap fun x => b :: f x) ++ [b] = b :: xs.flatMap fun x => f x ++ [b] := by
  induction xs with
  | nil => rfl
  | cons x rest ih =>
    rw [List.flatMap_cons, List.append_assoc, ih]
    simp

/-- The space in front of each attribute is taken for the one behind what comes before it. -/
theorem Element.toList_text (e : Element) :
    e.text.toList = '<' :: e.name.toList ++
      ' ' :: ((e.attributes.flatMap fun a => attributeChars a ++ [' ']) ++ ['/', '>']) := by
  have htext : e.text = "<" ++ e.name ++ String.join (e.attributes.map fun a =>
      " " ++ a.1 ++ "=\"" ++ escape a.2 ++ "\"") ++ " />" := rfl
  have hend : " />".toList = [' '] ++ ['/', '>'] := rfl
  have hjoin : (String.join (e.attributes.map fun a =>
      " " ++ a.1 ++ "=\"" ++ escape a.2 ++ "\"")).toList =
      e.attributes.flatMap fun a => ' ' :: attributeChars a := by
    rw [String.toList_join, List.flatMap_map]
    simp [attributeChars]
  rw [htext, String.toList_append, String.toList_append, String.toList_append, hjoin, hend,
    List.append_assoc, ← List.append_assoc _ [' '], flatMap_cons_concat]
  simp

theorem Element.Sound.run_text {e : Element} (h : e.Sound) (state : State) :
    run ⟨.outside, state⟩ e.text.toList =
      (take state (.opening e.name e.attributes)).bind (accept · (.closing e.name)) := by
  have hspace : inTag { name := e.name } state ' ' = some ⟨.spaced { name := e.name }, state⟩ := rfl
  have hnodup : (e.attributes.map Prod.fst ++
      (({ name := e.name } : Tag).attributes.map Prod.fst)).Nodup := by
    rw [List.map_nil, List.append_nil]
    exact h.nodup
  have hend : run ⟨.spaced ⟨e.name, e.attributes.reverse⟩, state⟩ ['/', '>'] =
      (take state (.opening e.name e.attributes)).bind (accept · (.closing e.name)) := by
    have hslash : step ⟨.spaced ⟨e.name, e.attributes.reverse⟩, state⟩ '/' =
        some ⟨.empty ⟨e.name, e.attributes.reverse⟩, state⟩ := rfl
    rw [run_cons, hslash, Option.bind_some, run_cons, step, if_pos rfl, Tag.token,
      List.reverse_reverse]
    exact Option.bind_fun_some _
  rw [e.toList_text, run_openingName_append h.name state rfl, hspace, Option.bind_some, run_append,
    run_attributes state h.attributes _ hnodup, List.append_nil, Option.bind_some, hend]

theorem not_mem_attributeChars {a : String × String} (h : isName a.1 = true) :
    '\r' ∉ attributeChars a := by
  have hname : '\r' ∉ a.1.toList := not_mem_of_isName h rfl
  have hvalue : '\r' ∉ (escape a.2).toList := fun hmem => not_mem_escape a.2 _ hmem (by simp)
  simp [attributeChars, hname, hvalue]

theorem Element.Sound.not_mem_text {e : Element} (h : e.Sound) : '\r' ∉ e.text.toList := by
  have hname : '\r' ∉ e.name.toList := not_mem_of_isName h.name rfl
  have hattributes : ∀ a ∈ e.attributes, '\r' ∉ attributeChars a :=
    fun a ha => not_mem_attributeChars (h.attributes a.1 (List.mem_map_of_mem ha))
  rw [e.toList_text]
  simpa [hname] using hattributes

/-! ## Lines -/

/-- Read between tags, the text leads from one state to another.  Its lines end with line feeds
alone. -/
structure Leads (text : List Char) (state next : State) : Prop where
  plain : '\r' ∉ text
  run_eq : run ⟨.outside, state⟩ text = some ⟨.outside, next⟩

namespace Leads

theorem append {text text' : List Char} {state between next : State}
    (h : Leads text state between) (h' : Leads text' between next) :
    Leads (text ++ text') state next where
  plain := by simp [h.plain, h'.plain]
  run_eq := by rw [run_append, h.run_eq, Option.bind_some, h'.run_eq]

theorem spaces {chars : List Char} (h : ∀ c ∈ chars, c = ' ') (state : State) :
    Leads chars state state where
  plain := fun hmem => absurd (h _ hmem) (by decide)
  run_eq := run_spaces state fun c hc => by rw [h c hc]; rfl

end Leads

def lineChars (lines : List String) : List Char :=
  lines.flatMap fun line => line.toList ++ "\n".toList

theorem leads_nil (state : State) : Leads (lineChars []) state state :=
  ⟨List.not_mem_nil, rfl⟩

theorem leads_cons {line : String} {lines : List String} {state between next : State}
    (h : Leads line.toList state between) (h' : Leads (lineChars lines) between next) :
    Leads (lineChars (line :: lines)) state next := by
  have hend : Leads "\n".toList between between := ⟨by decide, rfl⟩
  exact (h.append hend).append h'

theorem leads_indented {indent line : String} (hindent : ∀ c ∈ indent.toList, c = ' ')
    {state next : State} (h : Leads line.toList state next) :
    Leads (indent ++ line).toList state next := by
  rw [String.toList_append]
  exact (Leads.spaces hindent state).append h

theorem leads_opening {name : String} (hname : isName name = true) {state next : State}
    (h : take state (.opening name []) = some next) :
    Leads ("<" ++ name ++ ">").toList state next where
  plain := by simpa using not_mem_of_isName hname (c := '\r') rfl
  run_eq := by rw [run_opening hname, accept, h, Option.map_some]

theorem leads_closing {name : String} (hname : isName name = true)
    (attributes : List (String × String)) (children outer : List XmlElement) :
    Leads ("</" ++ name ++ ">").toList (.within ⟨name, attributes, children⟩ outer)
      (put ⟨name, attributes, children.reverse⟩ outer) where
  plain := by simpa using not_mem_of_isName hname (c := '\r') rfl
  run_eq := by rw [run_closing hname, accept, take, if_pos rfl, Option.map_some]

def Element.node (e : Element) : XmlElement :=
  { name := e.name, attributes := e.attributes }

theorem Element.Sound.leads_text {e : Element} (h : e.Sound) (parent : XmlElement)
    (outer : List XmlElement) :
    Leads e.text.toList (.within parent outer)
      (.within { parent with children := e.node :: parent.children } outer) where
  plain := h.not_mem_text
  run_eq := by
    rw [h.run_text, take, Option.bind_some, accept, take, if_pos rfl, Option.map_some]
    rfl

/-- Elements on lines of their own are read as the next ones in the element around them. -/
theorem leads_elements {elements : List Element} (h : ∀ e ∈ elements, e.Sound)
    {lines : List String} {parent : XmlElement} {outer : List XmlElement} {next : State}
    (h' : Leads (lineChars lines)
      (.within { parent with children := (elements.map Element.node).reverse ++ parent.children }
        outer) next) :
    Leads (lineChars (elements.map (fun e => "    " ++ e.text) ++ lines)) (.within parent outer)
      next := by
  induction elements generalizing parent with
  | nil =>
    cases parent
    exact h'
  | cons e rest ih =>
    obtain ⟨he, hrest⟩ := List.forall_mem_cons.mp h
    refine leads_cons (leads_indented (by simp) (he.leads_text parent outer)) (ih hrest ?_)
    simpa using h'

def reportLines (name : String) (elements : List Element) : List String :=
  ["<?xml version=\"1.0\" encoding=\"UTF-8\"?>", "<results>", "  <" ++ name ++ ">"] ++
    elements.map (fun e => "    " ++ e.text) ++ ["  </" ++ name ++ ">", "</results>"]

theorem toList_render (layout : Layout) (c : Census) :
    (render layout c).toList =
      lineChars (reportLines (elements layout c).1 (elements layout c).2) :=
  Text.toList_intercalate_append (List.cons_ne_nil _ _)

theorem leads_reportLines {name : String} (hname : isName name = true) {elements : List Element}
    (h : ∀ e ∈ elements, e.Sound) :
    Leads (lineChars (reportLines name elements)) .before
      (.finished ⟨"results", [], [⟨name, [], elements.map Element.node⟩]⟩) := by
  have hindent (mark : String) : "  " ++ mark ++ name ++ ">" = "  " ++ (mark ++ name ++ ">") := by
    simp only [String.append_assoc]
  have hopening : "  <" ++ name ++ ">" = "  " ++ ("<" ++ name ++ ">") := hindent "<"
  have hclosing : "  </" ++ name ++ ">" = "  " ++ ("</" ++ name ++ ">") := hindent "</"
  have hroot : isName "results" = true := by decide
  have hreversed : ((elements.map Element.node).reverse ++ []).reverse =
      elements.map Element.node := by simp
  rw [reportLines, hopening, hclosing, List.append_assoc]
  refine leads_cons ⟨by simp, rfl⟩ ?_
  refine leads_cons (leads_opening hroot rfl) ?_
  refine leads_cons (leads_indented (by simp) (leads_opening hname rfl)) ?_
  refine leads_elements h ?_
  refine leads_cons (leads_indented (by simp) (leads_closing hname [] _ _)) ?_
  refine leads_cons (leads_closing hroot [] _ []) ?_
  rw [hreversed]
  exact leads_nil _

/-! ## The document -/

def fileNode (r : FileEntry) : XmlElement where
  name := "file"
  attributes :=
    [("name", r.path), ("language", r.language), ("code", toString r.code),
     ("comment", toString r.comment), ("blank", toString r.blank)]

def languageNode (l : LanguageEntry) : XmlElement where
  name := "language"
  attributes :=
    [("name", l.name), ("files_count", toString l.tally.files), ("code", toString l.tally.code),
     ("comment", toString l.tally.comment), ("blank", toString l.tally.blank)]

/-- What the element of the sum says; files are not counted among files. -/
def totalNode (layout : Layout) (t : Tally) : XmlElement where
  name := "total"
  attributes :=
    (if layout.byFile then [] else [("sum_files", toString t.files)]) ++
      [("code", toString t.code), ("comment", toString t.comment), ("blank", toString t.blank)]

def document (layout : Layout) (c : Census) : XmlElement where
  name := "results"
  children :=
    [{ name := if layout.byFile then "files" else "languages"
       children :=
        (if layout.byFile then c.files.map fileNode else c.languages.map languageNode) ++
          [totalNode layout c.total.tally] }]

theorem document_eq (layout : Layout) (c : Census) :
    document layout c =
      ⟨"results", [], [⟨(elements layout c).1, [], (elements layout c).2.map Element.node⟩]⟩ := by
  cases hfile : layout.byFile <;>
    simp [document, elements, hfile, totalNode, Function.comp_def, Element.node, fileNode,
      languageNode, fileElement, languageElement, lineAttributes, FileEntry.tally]

theorem sound_elements (layout : Layout) (c : Census) :
    isName (elements layout c).1 = true ∧ ∀ e ∈ (elements layout c).2, e.Sound := by
  cases hfile : layout.byFile with
  | true =>
    have hname : isName "files" = true := by decide
    have hrow (r : FileEntry) : (fileElement r).Sound :=
      .of_names "file" ["name", "language", "code", "comment", "blank"] rfl rfl (by decide)
    have htotal : (⟨"total", lineAttributes c.total.tally⟩ : Element).Sound :=
      .of_names "total" ["code", "comment", "blank"] rfl rfl (by decide)
    rw [elements, if_pos hfile, List.forall_mem_append, List.forall_mem_map,
      List.forall_mem_singleton]
    exact ⟨hname, fun r _ => hrow r, htotal⟩
  | false =>
    have hname : isName "languages" = true := by decide
    have hrow (l : LanguageEntry) : (languageElement l).Sound :=
      .of_names "language" ["name", "files_count", "code", "comment", "blank"] rfl rfl (by decide)
    have htotal : (⟨"total", ("sum_files", toString c.total.tally.files) ::
        lineAttributes c.total.tally⟩ : Element).Sound :=
      .of_names "total" ["sum_files", "code", "comment", "blank"] rfl rfl (by decide)
    rw [elements, if_neg (by simp [hfile]), List.forall_mem_append, List.forall_mem_map,
      List.forall_mem_singleton]
    exact ⟨hname, fun l _ => hrow l, htotal⟩

/-- The report is a document with one element for each file or language, in their order, and one
more for the sum; the values of their attributes are read as the names and the numbers.  No value,
as it is written, holds anything that could end it or start an element. -/
theorem read?_report (layout : Layout) (c : Census) :
    read? (render layout c) = some (document layout c) ∧
      ∀ value : String, ∀ ch ∈ (escape value).toList,
        ch ∉ ['<', '>', '"', '\t', '\n', '\r'] := by
  obtain ⟨hname, helements⟩ := sound_elements layout c
  have hleads := leads_reportLines hname helements
  rw [← document_eq, ← toList_render] at hleads
  refine ⟨?_, not_mem_escape⟩
  rw [read?, lineEnds_eq_self hleads.plain, hleads.run_eq]

/-- A name that looks like the end of an element and the start of another. -/
example : escape "\"/>\n<a b=\"&amp;" = "&quot;/&gt;&#10;&lt;a b=&quot;&amp;amp;" := by decide

end Format.Xml

end LineCensus
