import LineCensus.Proofs.Files.Lookup
import LineCensus.Settings
import LineCensus.Yaml.Load

/-!
# Configuration files that are read

A configuration is a mapping or nothing: a file that is missing, no document, or no mapping leaves
it empty, whatever the documents are.  The files that cannot be passed over are those that are no
text, and those with a document in which a value cannot be made.
-/

namespace LineCensus.Settings

variable {parse : Yaml.Reader} {t : FileTree} {directory : Path} {content : List UInt8}

theorem load_of_not_isFile (h : t.isFile (directory.child fileName) = false) :
    load parse t directory = .ok [] := by
  rw [load, h]
  rfl

theorem load_of_read (h : t.read (directory.child fileName) = .ok content) :
    load parse t directory = ofBytes parse content := by
  rw [load, FileTree.isFile_of_read h, h]
  rfl

theorem ofBytes_of_decode {text : List Char} (h : Text.Utf8.decode content = .ok text) :
    ofBytes parse content =
      match parse (Registry.unifyBreaks [] text) with
      | .ok document => .ok (entriesOf document)
      | .error (.malformed _) => .ok []
      | .error e => .error (.notRead e) := by
  rw [ofBytes, Registry.fileText, h]
  rfl

theorem ofBytes_of_decode_error {e : Text.Utf8.DecodeError}
    (h : Text.Utf8.decode content = .error e) : ofBytes parse content = .error (.notText e) := by
  rw [ofBytes, Registry.fileText, h]
  rfl

/-- The document is nothing that could be entries: there is none, or it is no mapping. -/
inductive Bare : Except Yaml.Error Value → Prop where
  | noDocument (fault : Yaml.Fault) : Bare (.error (.malformed fault))
  | noMapping {v : Value} (h : ∀ entries, v ≠ .mapping entries) : Bare (.ok v)

/-- The file of the directory holds what cannot be passed over. -/
inductive Unreadable (parse : Yaml.Reader) (content : List UInt8) : Unusable → Prop where
  | notText {e : Text.Utf8.DecodeError} (h : Text.Utf8.decode content = .error e) :
    Unreadable parse content (.notText e)
  /-- No other error than that there is no document is passed over. -/
  | notRead {text : List Char} {e : Yaml.Error} (htext : Text.Utf8.decode content = .ok text)
    (h : parse (Registry.unifyBreaks [] text) = .error e) (he : ∀ fault, e ≠ .malformed fault) :
    Unreadable parse content (.notRead e)

theorem ofBytes_eq_error_iff {e : Unusable} :
    ofBytes parse content = .error e ↔ Unreadable parse content e := by
  constructor
  · intro h
    cases hdecode : Text.Utf8.decode content with
    | error cause =>
      cases (ofBytes_of_decode_error hdecode).symm.trans h
      exact .notText hdecode
    | ok text =>
      rw [ofBytes_of_decode hdecode] at h
      split at h
      · cases h
      · cases h
      · next cause hmalformed herror =>
        cases h
        exact .notRead hdecode herror fun fault hfault => hmalformed fault hfault
  · intro h
    cases h with
    | notText hdecode => exact ofBytes_of_decode_error hdecode
    | @notRead text cause hdecode herror hcause =>
      rw [ofBytes_of_decode hdecode, herror]
      cases cause with
      | malformed fault => exact absurd rfl (hcause fault)
      | _ => rfl

theorem load_eq_error_iff {e : Unusable} :
    load parse t directory = .error e ↔ ∃ content,
      t.read (directory.child fileName) = .ok content ∧ Unreadable parse content e := by
  constructor
  · intro h
    rw [load] at h
    split at h
    · split at h
      · next content hread => exact ⟨content, hread, ofBytes_eq_error_iff.mp h⟩
      · cases h
    · cases h
  · rintro ⟨content, hread, hunreadable⟩
    rw [load_of_read hread]
    exact ofBytes_eq_error_iff.mpr hunreadable

/-- What the configuration of a directory is, whatever documents are read as: the entries of the
file if that is a mapping, and else none.  It fails only for a file that is no text, or in which
something else is wrong than that there is no document. -/
theorem load_outcome (parse : Yaml.Reader) (t : FileTree) (directory : Path) :
    (t.isFile (directory.child fileName) = false → load parse t directory = .ok []) ∧
    (∀ content text, t.read (directory.child fileName) = .ok content →
      Text.Utf8.decode content = .ok text →
      (∀ entries, parse (Registry.unifyBreaks [] text) = .ok (.mapping entries) →
        load parse t directory = .ok entries) ∧
      (Bare (parse (Registry.unifyBreaks [] text)) → load parse t directory = .ok [])) ∧
    ∀ e, load parse t directory = .error e ↔ ∃ content,
      t.read (directory.child fileName) = .ok content ∧ Unreadable parse content e := by
  refine ⟨load_of_not_isFile, fun content text hread hdecode => ?_, fun e => load_eq_error_iff⟩
  rw [load_of_read hread, ofBytes_of_decode hdecode]
  refine ⟨fun entries hentries => by rw [hentries]; rfl, fun hbare => ?_⟩
  cases hparsed : parse (Registry.unifyBreaks [] text) with
  | ok v =>
    rw [hparsed] at hbare
    cases hbare with
    | noMapping h =>
      cases v with
      | mapping entries => exact absurd rfl (h entries)
      | _ => rfl
  | error e =>
    rw [hparsed] at hbare
    cases hbare
    rfl

def configured (content : List UInt8) : FileTree :=
  { root := [(fileName, .file content)] }

theorem read_configured (content : List UInt8) :
    (configured content).read (Path.child {} fileName) = .ok content := by
  exact FileTree.read_of_entry fileName rfl (by decide) rfl

/-- A directory without the file, one with a text that is no document, one with a list, one with a
mapping, and one with a day in it that no month has. -/
theorem load_outcome_instances :
    let file (text : String) : FileTree := configured (Text.Utf8.encode text.toList)
    load Yaml.load {} {} = .ok [] ∧ load Yaml.load (file "count: [unclosed\n") {} = .ok [] ∧
      load Yaml.load (file "- just\n- a list\n") {} = .ok [] ∧
      load Yaml.load (file "count:\n  jobs: 2\n") {} =
        .ok [(.text "count", .mapping [(.text "jobs", .int 2)])] ∧
      load Yaml.load (file "count: 2024-02-30\n") {} =
        .error (.notRead (.badValue "day is out of range for month")) := by
  intro file
  have houtcome (text : String)
      (hdecode : Text.Utf8.decode (Text.Utf8.encode text.toList) = .ok text.toList) :=
    (load_outcome Yaml.load (file text) {}).2.1 _ _ (read_configured _) hdecode
  have hunclosed : Yaml.load (Registry.unifyBreaks [] "count: [unclosed\n".toList) =
      .error (.malformed .missingSeparator) := by decide +kernel
  have hlist : Yaml.load (Registry.unifyBreaks [] "- just\n- a list\n".toList) =
      .ok (.list [.text "just", .text "a list"]) := by decide +kernel
  have hmapping : Yaml.load (Registry.unifyBreaks [] "count:\n  jobs: 2\n".toList) =
      .ok (.mapping [(.text "count", .mapping [(.text "jobs", .int 2)])]) := by decide +kernel
  have hday : Yaml.load (Registry.unifyBreaks [] "count: 2024-02-30\n".toList) =
      .error (.badValue "day is out of range for month") := by decide +kernel
  have hmissing : FileTree.isFile {} (Path.child {} fileName) = false := by
    simp [FileTree.isFile, FileTree.get, FileTree.locate, FileTree.walkTo, FileNode.find?,
      FileNode.entry?, Path.child, fileName, bind, Except.bind]
  refine ⟨(load_outcome Yaml.load {} {}).1 hmissing, ?_, ?_, ?_, ?_⟩
  · refine (houtcome _ (by decide)).2 ?_
    rw [hunclosed]
    exact .noDocument _
  · refine (houtcome _ (by decide)).2 ?_
    rw [hlist]
    exact .noMapping fun _ h => by cases h
  · exact (houtcome _ (by decide)).1 _ hmapping
  · refine ((load_outcome Yaml.load (file _) {}).2.2 _).mpr ⟨_, read_configured _, ?_⟩
    exact .notRead (by decide) hday fun _ h => by cases h

/-- A file of one byte that no text begins with. -/
theorem load_not_text :
    load Yaml.load (configured [0xff]) {} = .error (.notText ⟨0, [0xff], .invalidStart⟩) := by
  rw [load_of_read (read_configured [0xff])]
  exact ofBytes_of_decode_error (by cbv)

end LineCensus.Settings
