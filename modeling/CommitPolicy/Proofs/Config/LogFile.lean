import CommitPolicy.Proofs.Config.Documents
import CommitPolicy.Proofs.Files.Path
import CommitPolicy.Proofs.Log.Time

/-!
# Where the log is written

* The path that a log is written to is confined, whatever the configuration says, because the text
  of the configuration is looked at when the path is needed.
* A text is sanitized again to itself.
* The log file of a configuration that is loaded is sanitized, unless the source gives it as bytes:
  then it is the text that these bytes are, as it stands.
-/

namespace CommitPolicy

open Text

/-! ### Sanitized texts -/

/-- A text that is not too long, without control characters, and without white space at the ends. -/
structure IsSanitized (s : String) : Prop where
  length_le : s.toList.length ≤ 1000
  noControl : ∀ c ∈ s.toList, isControl c = false
  head : ∀ c ∈ s.toList.head?, isBlank c = false
  last : ∀ c ∈ s.toList.getLast?, isBlank c = false

theorem isSanitized_sanitize (s : String) :
  IsSanitized (sanitize s)
  := by
  have hdrops := dropsTo_trim ((s.toList.filter fun c => !isControl c).take maxTextLength)
  have hsub := hdrops.isInfix.sublist
  constructor <;> rw [sanitize, String.toList_ofList]
  case length_le =>
    apply hsub.length_le.trans
    apply List.length_take_le
  case noControl =>
    intro c hc
    have hkept := List.mem_of_mem_take (hsub.subset hc)
    simpa using (List.mem_filter.mp hkept).2
  case head => apply hdrops.head
  case last => apply hdrops.last

theorem IsSanitized.sanitize_eq {s : String} (h : IsSanitized s) :
  sanitize s = s
  := by
  have hkept : s.toList.filter (fun c => !isControl c) = s.toList := by
    rw [List.filter_eq_self]
    intro c hc
    rw [h.noControl c hc, Bool.not_false]
  have hshort : s.toList.length ≤ maxTextLength := h.length_le
  rw [sanitize, hkept, List.take_of_length_le hshort, (dropsTo_self h.head h.last).trim_eq,
    String.ofList_toList]

/-! ### The path of the log -/

theorem isConfined_of_isSafePath {s : String} (h : isSafePath s = true) :
  (Path.ofString s).IsConfined
  := by
  simp only [isSafePath, Bool.and_eq_true, Bool.not_eq_true', bne_iff_ne] at h
  obtain ⟨⟨⟨-, hdots⟩, hslash⟩, -⟩ := h
  apply Path.isConfined_ofString hslash
  rw [← contains_iff, hdots]
  apply Bool.false_ne_true

/-- The name of a log that is named for a time. -/
theorem isName_timed (time : LocalTime) :
  Path.IsName ("fcc_log-" ++ time.fileName ++ ".log")
  := by
  have hstart : ∀ s : String, s.toList.head? ≠ some 'f' →
      "fcc_log-" ++ time.fileName ++ ".log" ≠ s := by
    rintro s hs rfl
    apply hs
    simp
  constructor
  · apply hstart _ (by decide)
  · apply hstart _ (by decide)
  · apply hstart _ (by decide)
  · intro h
    simp only [String.toList_append, List.mem_append] at h
    rcases h with (h | h) | h
    · revert h
      decide
    · revert h
      apply LocalTime.not_mem_append rfl (by decide)
    · revert h
      decide

namespace Config

theorem isConfined_of_logPath {c : Config} {time : LocalTime} {p : Path}
    (h : c.logPath time.fileName = some p) :
  p.IsConfined
  := by
  rw [logPath] at h
  split at h
  · obtain rfl := Option.some.inj h
    constructor
    · rfl
    · have hdirectory : Path.IsName logDirectory := by
        constructor <;> decide
      simp [hdirectory, isName_timed]
  · split at h
    · split at h
      · next hsafe =>
        obtain rfl := Option.some.inj h
        apply isConfined_of_isSafePath hsafe
      · cases h
    · cases h

/-! ### Where the log file comes from -/

/-- The setting of a variable of a log file is sanitized. -/
theorem isSanitized_of_variable {name text s : String} {form : VariableForm} {path : List String}
    (hname : (name, "log_file", form) ∈ settingVariables)
    (hread : Field.optionalText path (form.read text) = .ok (some s)) :
  IsSanitized s
  := by
  have hforms : ∀ x ∈ settingVariables, x.2.1 = "log_file" → x.2.2 = .sanitized := by decide
  obtain rfl : form = .sanitized := hforms _ hname rfl
  obtain rfl : sanitize text = s := Option.some.inj (Except.ok.inj hread)
  apply isSanitized_sanitize

/-- A log file that a document sets is sanitized, unless it is set as bytes. -/
theorem isSanitized_or_bytes {v : Value} {path : List String} {s : String}
    (hread : Field.optionalText path (sanitizeUnder (.text "log_file") v) = .ok (some s)) :
  IsSanitized s ∨ ∃ bytes, v = .bytes bytes ∧ decode? bytes = some s
  := by
  cases v with
  | text t =>
      obtain rfl : sanitize t = s := Option.some.inj (Except.ok.inj hread)
      exact .inl (isSanitized_sanitize t)
  | bytes b =>
      apply Or.inr
      use b, rfl
      change (Field.text path (.bytes b)).map some = _ at hread
      rw [Field.text, Value.toText] at hread
      cases hb : decode? b with
      | some t =>
          rw [hb] at hread
          apply Except.ok.inj hread
      | none =>
          rw [hb] at hread
          cases hread
  | _ => cases hread

theorem isSanitized_of_settled {entries : List (Value × Value)} {env : Environment} {s : String}
    {log : Option String} (hlog : log = some s)
    (h : Settled entries env "log_file" default.logFile Field.optionalText log) :
  IsSanitized s
    ∨ ∃ bytes, Value.lookup "log_file" entries = some (.bytes bytes) ∧ decode? bytes = some s
  := by
  cases h with
  | document hv hread =>
      rw [hlog] at hread
      apply (isSanitized_or_bytes hread).imp_right
      rintro ⟨bytes, rfl, hbytes⟩
      use bytes, hv, hbytes
  | «variable» _ hname _ hread =>
      rw [hlog] at hread
      exact .inl (isSanitized_of_variable hname hread)
  | default => cases hlog

theorem isSanitized_of_ofEntries {entries : List (Value × Value)} {env : Environment} {c : Config}
    {s : String} (h : ofEntries (entries ++ environmentEntries env) = .ok c)
    (hnot : Value.lookup "log_file" entries = none) (hlog : c.logFile = some s) :
  IsSanitized s
  := by
  have hread := (readFrom_of_ofEntries h).logFile
  rw [Field.get, Value.lookup_append, hnot, Option.none_or, hlog] at hread
  obtain ⟨name, form, text, hname, -, hlookup⟩ | ⟨-, hlookup⟩ :=
    lookup_environmentEntries_cases env "log_file"
  · rw [hlookup] at hread
    apply isSanitized_of_variable hname hread
  · rw [hlookup] at hread
    cases hread

/-- The path of the log is relative, its components are names, and seen from any directory it leads
to that directory or below it.  Sanitizing twice is sanitizing once.  The log file of a
configuration that is loaded is sanitized unless the source sets it as bytes, and then it is the
text of these bytes; one that comes from the environment is sanitized. -/
theorem log_stays_inside [ReadingLimits] (c : Config) (time : LocalTime) (text : String) :
  (∀ p, c.logPath time.fileName = some p →
      p.IsConfined ∧ ∀ d : Path, (d.join p).normalized.IsAtOrBelow d.normalized)
    ∧ sanitize (sanitize text) = sanitize text
    ∧ (∀ s path directory source, load s path directory = .ok ⟨c, source⟩ →
      c.logFile = some text →
        IsSanitized text
          ∨ ∃ selected entries bytes, Selects s path directory selected
            ∧ selected.settings = .ok (.map entries)
            ∧ Value.lookup "log_file" entries = some (.bytes bytes) ∧ decode? bytes = some text)
    ∧ ∀ entries env, ofEntries (entries ++ environmentEntries env) = .ok c →
      Value.lookup "log_file" entries = none → c.logFile = some text → IsSanitized text
  := by
  refine ⟨?_, ?_, ?_, ?_⟩
  · intro p hp
    have hconfined := isConfined_of_logPath hp
    use hconfined, hconfined.isAtOrBelow
  · apply (isSanitized_sanitize text).sanitize_eq
  · intro s path directory source hload hlog
    rcases exists_selects_or_isFileError s path directory with ⟨selected, hselected⟩ | ⟨f, hf, -⟩
    · rw [load_eq_outcome hselected] at hload
      obtain ⟨-, entries, hsettings, hsettled⟩ := settledBy_of_outcome hload
      apply (isSanitized_of_settled hlog hsettled.logFile).imp_right
      rintro ⟨bytes, hlookup, hbytes⟩
      use selected, entries, bytes, hselected, hsettings, hlookup, hbytes
    · rw [hload] at hf
      cases hf
  · intro entries env
    apply isSanitized_of_ofEntries

/-- The text of a settings file that sets the log file as bytes, which are a letter between two
spaces. -/
def binaryText : String := "log_file: !!binary IGEg\n"

/-- The settings file is the only file. -/
def binaryLog : Surroundings where
  files := ⟨[(["c.yaml"], .file (encode binaryText))], ⟨"/", []⟩⟩
  home := ⟨"/", []⟩
  environment := []

/-- Whether the value consists of these bytes under the key of the log file. -/
def isBinaryLog (bytes : List UInt8) : Value → Bool
  | .map [(.text key, .bytes b)] => key == "log_file" && b == bytes
  | _ => false

theorem eq_of_isBinaryLog {bytes : List UInt8} {v : Value} (h : isBinaryLog bytes v = true) :
  v = .map [(.text "log_file", .bytes bytes)]
  := by
  unfold isBinaryLog at h
  split at h
  · simp only [Bool.and_eq_true, beq_iff_eq] at h
    rw [h.1, h.2]
  · cases h

theorem holdsYaml_binaryText :
  HoldsYaml ⟨"", ["c.yaml"]⟩ (encode binaryText) (.map [(.text "log_file", .bytes [32, 97, 32])])
  := by
  refine ⟨by decide, binaryText, decode?_encode binaryText, ?_⟩
  have htest : ((Source.documentOf ⟨"", ["c.yaml"]⟩ binaryText).map
      (isBinaryLog [32, 97, 32])).toOption = some true := by decide +kernel
  cases hdocument : Source.documentOf ⟨"", ["c.yaml"]⟩ binaryText with
  | error f =>
      rw [hdocument] at htest
      cases htest
  | ok v =>
      rw [hdocument] at htest
      rw [eq_of_isBinaryLog (Option.some.inj htest)]

/-- The configuration whose log file is the letter between the spaces. -/
def spacedLog : Config := { default with logFile := some " a " }

theorem log_stays_inside_binary :
  load binaryLog (some ⟨"", ["c.yaml"]⟩) none = .ok ⟨spacedLog, some ⟨"", ["c.yaml"]⟩⟩
    ∧ ¬IsSanitized " a "
    ∧ (∃ selected entries bytes, Selects binaryLog (some ⟨"", ["c.yaml"]⟩) none selected
      ∧ selected.settings = .ok (.map entries)
      ∧ Value.lookup "log_file" entries = some (.bytes bytes) ∧ decode? bytes = some " a ")
    ∧ Path.IsConfined ⟨"", [" a "]⟩
  := by
  have hload : load binaryLog (some ⟨"", ["c.yaml"]⟩) none
      = .ok ⟨spacedLog, some ⟨"", ["c.yaml"]⟩⟩ := by
    have hselected : Selects binaryLog (some ⟨"", ["c.yaml"]⟩) none
        (.file ⟨"", ["c.yaml"]⟩ (encode binaryText)) := ⟨_, rfl, rfl⟩
    rw [load_of_map hselected holdsYaml_binaryText rfl]
    rfl
  have hnot : ¬IsSanitized " a " := by
    intro h
    have hblank : isBlank ' ' = false := h.head ' ' rfl
    cases hblank
  obtain ⟨hpath, -, hloaded, -⟩ := log_stays_inside spacedLog ⟨2024, 1, 31, 9, 5, 0⟩ " a "
  refine ⟨hload, hnot, (hloaded _ _ _ _ hload rfl).resolve_left hnot, ?_⟩
  apply (hpath _ rfl).1

end Config

end CommitPolicy
