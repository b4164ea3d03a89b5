import Spreadsheet.Configuration
import Spreadsheet.Proofs.Document.Merge
import Spreadsheet.Proofs.Steps

/-
  Loading configurations.

  A configuration is valid if each setting has a value of its
  kind, and just then settings can be read off it.  A document
  that counts as nothing gives the defaults, and a mapping the
  defaults with its own entries in their place, if that is
  valid; every other document is refused.  What is loaded can
  be put over the defaults again and stays valid.

  All of this holds in whichever way documents are read off
  files, if only their maps have each name once.

  Key definitions include:
    * `Spreadsheet.Configuration.IsValid`
    * `Spreadsheet.Document.IsVoid`
    * `Spreadsheet.DocumentReader.HasDistinctNames`
    * `Spreadsheet.Configuration.IsAt`

  Main results:
    * `Spreadsheet.Settings.ofConfiguration_isOk_iff`
    * `Spreadsheet.Configuration.ofDocument_cases`
    * `Spreadsheet.Configuration.loadBy_eq_unreadable_iff`
    * `Spreadsheet.Configuration.load_accepts_iff`
    * `Spreadsheet.Configuration.load_accepts_false`
-/

------------------------------------------------------------
-- Valid Configurations
------------------------------------------------------------

namespace Spreadsheet

namespace Configuration

/- A setting has a positive number. -/
def HasPositive
    (configuration : Configuration)
    (setting : Setting) :
    Prop :=
  ∃ n : Nat, 1 ≤ n ∧
    configuration.get? setting.name = some (.whole n)

/- A setting has a truth value. -/
def HasTruth
    (configuration : Configuration)
    (setting : Setting) :
    Prop :=
  ∃ b, configuration.get? setting.name = some (.truth b)

/- A setting has a number of places that can be shown. -/
def HasPlaces
    (configuration : Configuration)
    (setting : Setting) :
    Prop :=
  ∃ n : Nat, n ≤ 15 ∧
    configuration.get? setting.name = some (.whole n)

/- Each setting has a value of its kind. -/
structure IsValid
    (configuration : Configuration) :
    Prop where
  maxDepth : configuration.HasPositive .maxDepth
  tailBytes : configuration.HasPositive .loggingTailBytes
  memoize : configuration.HasTruth .memoize
  fsync : configuration.HasTruth .loggingFsync
  decimals : configuration.HasPlaces .displayDecimals

/- Validity depends on what is under the names alone. -/
theorem IsValid.congr
    {configuration other : Configuration}
    (hValid : configuration.IsValid)
    (hSame : ∀ setting : Setting,
      other.get? setting.name =
        configuration.get? setting.name) :
    other.IsValid := by
  rcases hValid with
    ⟨hDepth, hTail, hMemoize, hFsync, hDecimals⟩
  unfold HasPositive HasTruth HasPlaces at *
  simp only [← hSame] at *
  exact ⟨hDepth, hTail, hMemoize, hFsync, hDecimals⟩

/- A valid configuration has an entry for each setting. -/
theorem IsValid.exists_get?
    {configuration : Configuration}
    (hValid : configuration.IsValid)
    (setting : Setting) :
    ∃ document,
      configuration.get? setting.name = some document := by
  cases setting with
  | maxDepth =>
      rcases hValid.maxDepth with ⟨n, _, hGet⟩
      exact ⟨_, hGet⟩
  | displayDecimals =>
      rcases hValid.decimals with ⟨n, _, hGet⟩
      exact ⟨_, hGet⟩
  | memoize =>
      rcases hValid.memoize with ⟨b, hGet⟩
      exact ⟨_, hGet⟩
  | loggingFsync =>
      rcases hValid.fsync with ⟨b, hGet⟩
      exact ⟨_, hGet⟩
  | loggingTailBytes =>
      rcases hValid.tailBytes with ⟨n, _, hGet⟩
      exact ⟨_, hGet⟩

theorem isValid_defaults :
    defaults.IsValid where
  maxDepth := ⟨2000, by decide, rfl⟩
  tailBytes := ⟨defaultTailBytes, by decide, rfl⟩
  memoize := ⟨false, rfl⟩
  fsync := ⟨false, rfl⟩
  decimals := ⟨10, by decide, rfl⟩

theorem nodup_names_defaults :
    defaults.names.Nodup := by
  decide

end Configuration

namespace Setting

/- What is under a name that has something is given. -/
theorem given_of_get?
    {setting : Setting}
    {configuration : Configuration}
    {document : Document Key}
    (hGet :
      configuration.get? setting.name = some document) :
    setting.given configuration = document := by
  rw [given, hGet, Option.getD_some]

/- Nothing but data under the name is given, unless null. -/
theorem get?_of_given
    {setting : Setting}
    {configuration : Configuration}
    {document : Document Key}
    (hGiven : setting.given configuration = document)
    (hNull : document ≠ .null) :
    configuration.get? setting.name = some document := by
  unfold given at hGiven
  cases hGet : configuration.get? setting.name with
  | none =>
      rw [hGet] at hGiven
      exact absurd hGiven.symm hNull
  | some found =>
      rw [hGet, Option.getD_some] at hGiven
      rw [hGiven]

theorem positive_eq_ok_iff
    {setting : Setting}
    {configuration : Configuration}
    {n : Nat} :
    setting.positive configuration = .ok n ↔
      1 ≤ n ∧
        configuration.get? setting.name =
          some (.whole n) := by
  unfold positive
  constructor
  · intro hOk
    split at hOk
    case h_1 m hGiven =>
      cases hOk
      exact ⟨Nat.succ_pos m, get?_of_given hGiven nofun⟩
    case h_2 => cases hOk
  · rintro ⟨hPositive, hGet⟩
    obtain ⟨m, rfl⟩ := Nat.exists_eq_add_of_le' hPositive
    rw [given_of_get? hGet]

theorem truth_eq_ok_iff
    {setting : Setting}
    {configuration : Configuration}
    {b : Bool} :
    setting.truth configuration = .ok b ↔
      configuration.get? setting.name = some (.truth b) := by
  unfold truth
  constructor
  · intro hOk
    split at hOk
    case h_1 c hGiven =>
      cases hOk
      exact get?_of_given hGiven nofun
    case h_2 => cases hOk
  · intro hGet
    rw [given_of_get? hGet]

theorem places_eq_ok_iff
    {setting : Setting}
    {configuration : Configuration}
    {n : Nat} :
    setting.places configuration = .ok n ↔
      n ≤ 15 ∧
        configuration.get? setting.name =
          some (.whole n) := by
  unfold places
  constructor
  · intro hOk
    split at hOk
    case h_1 m hGiven =>
      split at hOk
      case isTrue hMost =>
        cases hOk
        exact ⟨hMost, get?_of_given hGiven nofun⟩
      case isFalse => cases hOk
    case h_2 => cases hOk
  · rintro ⟨hMost, hGet⟩
    rw [given_of_get? hGet]
    exact if_pos hMost

end Setting

namespace Settings

/- Settings can be read off a configuration if it is valid. -/
theorem ofConfiguration_isOk_iff
    (configuration : Configuration) :
    (∃ settings, ofConfiguration configuration = .ok settings) ↔
      configuration.IsValid := by
  constructor
  · rintro ⟨settings, hSettings⟩
    simp only [ofConfiguration, bind_eq_ok_iff] at hSettings
    rcases hSettings with
      ⟨depth, hDepth, tail, hTail, memoize, hMemoize, fsync,
        hFsync, decimals, hDecimals, _⟩
    exact {
      maxDepth := ⟨depth, Setting.positive_eq_ok_iff.mp hDepth⟩
      tailBytes := ⟨tail, Setting.positive_eq_ok_iff.mp hTail⟩
      memoize := ⟨memoize, Setting.truth_eq_ok_iff.mp hMemoize⟩
      fsync := ⟨fsync, Setting.truth_eq_ok_iff.mp hFsync⟩
      decimals :=
        ⟨decimals, Setting.places_eq_ok_iff.mp hDecimals⟩
    }
  · rintro ⟨⟨depth, hDepth⟩, ⟨tail, hTail⟩, ⟨memoize, hMemoize⟩,
      ⟨fsync, hFsync⟩, ⟨decimals, hDecimals⟩⟩
    rw [ofConfiguration, Setting.positive_eq_ok_iff.mpr hDepth,
      Setting.positive_eq_ok_iff.mpr hTail,
      Setting.truth_eq_ok_iff.mpr hMemoize,
      Setting.truth_eq_ok_iff.mpr hFsync,
      Setting.places_eq_ok_iff.mpr hDecimals]
    exact ⟨_, rfl⟩

end Settings

end Spreadsheet

------------------------------------------------------------
-- Names In Documents
------------------------------------------------------------

namespace Spreadsheet

/- Of the entries of a map that is read each has its own name. -/
def DocumentReader.HasDistinctNames
    (read : DocumentReader) :
    Prop :=
  ∀ text (entries : Entries Key),
    read text = .ok (.map entries) → entries.names.Nodup

namespace Yaml

/- A scalar never stands for a map. -/
theorem ofForm_ne_map
    (text : List Char)
    (form : Form)
    (entries : Entries Key) :
    ofForm text form ≠ .ok (.map entries) := by
  intro hOk
  cases form with
  | null => cases hOk
  | truth =>
      rw [ofForm] at hOk
      split at hOk
      · cases hOk
      · cases hOk
  | whole => obtain ⟨_, _, ⟨⟩⟩ := map_eq_ok_iff.mp hOk
  | float => obtain ⟨_, _, ⟨⟩⟩ := map_eq_ok_iff.mp hOk
  | stamp =>
      rw [ofForm] at hOk
      split at hOk
      · obtain ⟨_, _, ⟨⟩⟩ := map_eq_ok_iff.mp hOk
      · cases hOk
  | merge => cases hOk
  | default => cases hOk
  | binary => obtain ⟨_, _, ⟨⟩⟩ := map_eq_ok_iff.mp hOk
  | text => cases hOk

/- The map of a node has each name once. -/
theorem Node.nodup_names
    {node : Node}
    {depth : Nat}
    {entries : Entries Key}
    (hMap : node.toDocument depth = .ok (.map entries)) :
    entries.names.Nodup := by
  cases node with
  | scalar tag text plain =>
      rw [toDocument] at hMap
      split at hMap
      case h_1 form _ =>
        exact absurd (mapError_eq_ok_iff.mp hMap)
          (ofForm_ne_map text form entries)
      case h_2 => cases hMap
      case h_3 => cases hMap
  | sequence tag items =>
      rw [toDocument] at hMap
      split at hMap
      case h_1 => obtain ⟨_, _, ⟨⟩⟩ := map_eq_ok_iff.mp hMap
      case h_2 => obtain ⟨_, _, ⟨⟩⟩ := map_eq_ok_iff.mp hMap
      case h_3 => cases hMap
      case h_4 => cases hMap
      case h_5 => cases hMap
  | mapping tag written =>
      simp only [toDocument] at hMap
      split at hMap
      case h_1 =>
        rcases map_eq_ok_iff.mp hMap with ⟨pairs, _, hPairs⟩
        cases hPairs
        exact Entries.nodup_names_ofList _
      case h_2 => obtain ⟨_, _, ⟨⟩⟩ := map_eq_ok_iff.mp hMap
      case h_3 form _ =>
        rcases bind_eq_ok_iff.mp
          (mapError_eq_ok_iff.mp hMap) with ⟨text, _, hForm⟩
        exact absurd hForm (ofForm_ne_map text form entries)
      case h_4 => cases hMap
      case h_5 => cases hMap

end Yaml

/- What is read as YAML has each name once. -/
theorem Document.hasDistinctNames_ofYaml :
    DocumentReader.HasDistinctNames Document.ofYaml := by
  intro text entries hMap
  rcases bind_eq_ok_iff.mp hMap with ⟨node?, _, hNode⟩
  cases node? with
  | none => cases hNode
  | some node =>
      exact Yaml.Node.nodup_names
        (mapError_eq_ok_iff.mp hNode)

end Spreadsheet

------------------------------------------------------------
-- What A Document Gives
------------------------------------------------------------

namespace Spreadsheet

namespace Document

/-
  A document with nothing in it: null, no, zero, and a text, a
  list, a map, a set or bytes that are empty.
-/
def IsVoid :
    Document Key → Prop
  | null => True
  | truth b => b = false
  | whole n => n = 0
  | float x => (x == 0.0) = true
  | text s => s = ""
  | list items => items = []
  | map entries => entries = []
  | other shown => shown ∈ hollowWords

theorem isNothing_iff
    {document : Document Key} :
    document.isNothing ↔ document.IsVoid := by
  cases document with
  | null => simp [isNothing, IsVoid]
  | truth b => simp [isNothing, IsVoid]
  | whole n => simp [isNothing, IsVoid]
  | float x => exact Iff.rfl
  | text s => simp [isNothing, IsVoid]
  | list items => simp [isNothing, IsVoid]
  | map entries => simp [isNothing, IsVoid]
  | other shown => simp [isNothing, IsVoid]

/- The entries of a map; a void document gives none. -/
def Gives
    (document : Document Key)
    (entries : Entries Key) :
    Prop :=
  document = .map entries ∨
    document.IsVoid ∧ entries = []

theorem Gives.unique
    {document : Document Key}
    {entries others : Entries Key}
    (hEntries : document.Gives entries)
    (hOthers : document.Gives others) :
    entries = others := by
  rcases hEntries with rfl | ⟨hVoid, rfl⟩
  · rcases hOthers with hSame | ⟨hVoid, rfl⟩
    · exact map.inj hSame
    · exact hVoid
  · rcases hOthers with rfl | ⟨_, rfl⟩
    · exact Eq.symm hVoid
    · rfl

end Document

namespace Configuration

theorem checked_of_isValid
    {configuration : Configuration}
    (hValid : configuration.IsValid) :
    checked configuration = .ok configuration := by
  rcases (Settings.ofConfiguration_isOk_iff _).mpr hValid with
    ⟨settings, hSettings⟩
  rw [checked, hSettings]

theorem checked_of_not_isValid
    {configuration : Configuration}
    (hWrong : ¬ configuration.IsValid) :
    ∃ fault, checked configuration = .error (.wrong fault) := by
  cases hSettings : Settings.ofConfiguration configuration with
  | ok settings =>
      exact absurd
        ((Settings.ofConfiguration_isOk_iff _).mp
          ⟨settings, hSettings⟩) hWrong
  | error fault =>
      refine ⟨fault, ?_⟩
      rw [checked, hSettings]

theorem ofDocument_of_gives
    {document : Document Key}
    {entries : Entries Key}
    (hGives : document.Gives entries)
    (place : String) :
    ofDocument place document =
      checked (ofEntries entries) := by
  unfold ofDocument
  by_cases hNothing : document.isNothing = true
  · rw [if_pos hNothing]
    rcases hGives with rfl | ⟨_, rfl⟩
    · rw [Document.isNothing_iff, Document.IsVoid] at hNothing
      rw [hNothing]
      rfl
    · rfl
  · rw [if_neg hNothing]
    rcases hGives with rfl | ⟨hVoid, _⟩
    · rfl
    · exact absurd (Document.isNothing_iff.mpr hVoid) hNothing

/-
  A document is accepted if the defaults with its entries are
  valid; then that is the configuration.  A map that is not
  accepted has a wrong setting.
-/
theorem ofDocument_cases
    (place : String)
    (document : Document Key) :
    (∃ entries, document.Gives entries ∧
      (ofEntries entries).IsValid ∧
        ofDocument place document = .ok (ofEntries entries)) ∨
    (∃ entries fault, document.Gives entries ∧
      ¬ (ofEntries entries).IsValid ∧
        ofDocument place document = .error (.wrong fault)) ∨
    (∀ entries, ¬ document.Gives entries) ∧
      ofDocument place document = .error (.noMapping place) := by
  by_cases hGives : ∃ entries, document.Gives entries
  · rcases hGives with ⟨entries, hEntries⟩
    rw [ofDocument_of_gives hEntries]
    by_cases hValid : (ofEntries entries).IsValid
    · exact Or.inl
        ⟨entries, hEntries, hValid, checked_of_isValid hValid⟩
    · rcases checked_of_not_isValid hValid with ⟨fault, hFault⟩
      exact Or.inr (Or.inl
        ⟨entries, fault, hEntries, hValid, hFault⟩)
  · rw [not_exists] at hGives
    refine Or.inr (Or.inr ⟨hGives, ?_⟩)
    unfold ofDocument
    rw [if_neg]
    · split
      case h_1 entries => exact absurd (Or.inl rfl) (hGives entries)
      case h_2 => rfl
    · intro hNothing
      exact hGives []
        (Or.inr ⟨Document.isNothing_iff.mp hNothing, rfl⟩)

end Configuration

end Spreadsheet

------------------------------------------------------------
-- Files
------------------------------------------------------------

namespace Spreadsheet

namespace Configuration

/-
  A path leads to the file at a place with a text: the place
  is the path itself or, for a directory, a file inside.
-/
def IsAt
    (files : Files)
    (path place : String)
    (text : List Char) :
    Prop :=
  files place = .file text ∧
    (place = plainPath path ∨
      files (plainPath path) = .directory ∧
        place = pathInside (plainPath path) fileName)

section Reading

variable {read : DocumentReader}

theorem loadBy_of_isAt
    {files : Files}
    {path place : String}
    {text : List Char}
    (hFile : IsAt files path place text) :
    loadBy read files (some path) = ofText read place text := by
  rcases hFile with ⟨hText, rfl | ⟨hDirectory, rfl⟩⟩
  · simp only [loadBy, hText, ofPlace]
  · simp only [loadBy, hDirectory, hText, ofPlace]

/- The names of what a text gives are all different. -/
theorem nodup_names_of_gives
    (hNames : read.HasDistinctNames)
    {text : List Char}
    {document : Document Key}
    (hRead : read text = .ok document)
    {entries : Entries Key}
    (hGives : document.Gives entries) :
    entries.names.Nodup := by
  rcases hGives with rfl | ⟨_, rfl⟩
  · exact hNames text entries hRead
  · exact List.nodup_nil

/- What a text gives is valid and has each name once. -/
theorem isValid_of_ofText
    {place : String}
    {text : List Char}
    {configuration : Configuration}
    (hText : ofText read place text = .ok configuration) :
    configuration.IsValid ∧ configuration.names.Nodup := by
  rcases bind_eq_ok_iff.mp hText with ⟨document, _, hDocument⟩
  rcases ofDocument_cases place document with
    ⟨entries, _, hValid, hFound⟩ | ⟨_, _, _, _, hFault⟩ |
      ⟨_, hFault⟩
  · rw [hFound] at hDocument
    cases hDocument
    exact ⟨hValid, Entries.nodup_names_merge
      nodup_names_defaults entries⟩
  · rw [hFault] at hDocument
    cases hDocument
  · rw [hFault] at hDocument
    cases hDocument

theorem isValid_of_ofPlace
    {path : String}
    {place : Place}
    {configuration : Configuration}
    (hPlace : ofPlace read path place = .ok configuration) :
    configuration.IsValid ∧ configuration.names.Nodup := by
  cases place with
  | missing => cases hPlace
  | directory => cases hPlace
  | file text => exact isValid_of_ofText hPlace
  | undecodable fault => cases hPlace

/- Whatever is loaded is valid and has each name once. -/
theorem isValid_of_loadBy
    {files : Files}
    {path : Option String}
    {configuration : Configuration}
    (hLoad : loadBy read files path = .ok configuration) :
    configuration.IsValid ∧ configuration.names.Nodup := by
  have hDefaults
      (hOk : loadBy read files none = .ok configuration) :
      configuration.IsValid ∧ configuration.names.Nodup := by
    cases hOk
    exact ⟨isValid_defaults, nodup_names_defaults⟩
  cases path with
  | none => exact hDefaults hLoad
  | some path =>
      simp only [loadBy] at hLoad
      split at hLoad
      case h_1 =>
        split at hLoad
        case h_1 => exact hDefaults hLoad
        case h_2 => exact isValid_of_ofPlace hLoad
      case h_2 => exact isValid_of_ofPlace hLoad

/- Settings can be read off what is loaded, put over defaults. -/
theorem exists_settings_of_loadBy
    {files : Files}
    {path : Option String}
    {configuration : Configuration}
    (hLoad : loadBy read files path = .ok configuration) :
    ∃ settings,
      Settings.ofConfiguration (ofEntries configuration) =
        .ok settings := by
  rcases isValid_of_loadBy hLoad with ⟨hValid, hNodup⟩
  rw [Settings.ofConfiguration_isOk_iff]
  apply hValid.congr
  intro setting
  rcases hValid.exists_get? setting with ⟨document, hGet⟩
  rw [ofEntries, Entries.get?_merge hNodup, hGet,
    Option.some_or]

/- A document is refused for what it is, not for its text. -/
theorem ofDocument_ne_unreadable
    (place : String)
    (document : Document Key)
    (fault : YamlFault) :
    ofDocument place document ≠ .error (.unreadable fault) := by
  rcases ofDocument_cases place document with
    ⟨_, _, _, hFound⟩ | ⟨_, _, _, _, hFault⟩ | ⟨_, hFault⟩
  · rw [hFound]
    rintro ⟨⟩
  · rw [hFault]
    rintro ⟨⟩
  · rw [hFault]
    rintro ⟨⟩

theorem ofText_eq_unreadable_iff
    {place : String}
    {text : List Char}
    {fault : YamlFault} :
    ofText read place text = .error (.unreadable fault) ↔
      read (withLineFeeds text) = .error fault := by
  rw [ofText]
  cases read (withLineFeeds text) with
  | ok document =>
      constructor
      · intro hFault
        exact absurd hFault
          (ofDocument_ne_unreadable place document fault)
      · rintro ⟨⟩
  | error other =>
      constructor
      · rintro ⟨⟩
        rfl
      · rintro ⟨⟩
        rfl

theorem ofPlace_eq_unreadable_iff
    {path : String}
    {place : Place}
    {fault : YamlFault} :
    ofPlace read path place = .error (.unreadable fault) ↔
      ∃ text, place = .file text ∧
        read (withLineFeeds text) = .error fault := by
  cases place with
  | missing => simp [ofPlace]
  | directory => simp [ofPlace]
  | undecodable other => simp [ofPlace]
  | file text =>
      constructor
      · intro hText
        exact ⟨text, rfl, ofText_eq_unreadable_iff.mp hText⟩
      · rintro ⟨_, ⟨⟩, hText⟩
        exact ofText_eq_unreadable_iff.mpr hText

/-
  The text of a configuration is at fault if the path leads to
  a file whose text is no document.
-/
theorem loadBy_eq_unreadable_iff
    {files : Files}
    {path : Option String}
    {fault : YamlFault} :
    loadBy read files path = .error (.unreadable fault) ↔
      ∃ given place text, path = some given ∧
        IsAt files given place text ∧
        read (withLineFeeds text) = .error fault := by
  constructor
  · intro hLoad
    cases path with
    | none => cases hLoad
    | some given =>
        simp only [loadBy] at hLoad
        split at hLoad
        case h_1 hDirectory =>
          split at hLoad
          case h_1 => cases hLoad
          case h_2 hPlace =>
            rcases ofPlace_eq_unreadable_iff.mp hLoad with
              ⟨text, hFile, hText⟩
            exact ⟨given, _, text, rfl,
              ⟨hFile, Or.inr ⟨hDirectory, rfl⟩⟩, hText⟩
        case h_2 =>
          rcases ofPlace_eq_unreadable_iff.mp hLoad with
            ⟨text, hFile, hText⟩
          exact ⟨given, _, text, rfl,
            ⟨hFile, Or.inl rfl⟩, hText⟩
  · rintro ⟨given, place, text, rfl, hFile, hText⟩
    rw [loadBy_of_isAt hFile]
    exact ofText_eq_unreadable_iff.mpr hText

/-
  A file is accepted if its document is void or a map and the
  defaults with the entries of the map in their place are
  valid.  They are then what is loaded: their names are those
  of the defaults and the new ones, and under each name stands
  what the map has there, or else the default.  Every other
  document is refused, as no map or for a wrong setting, and
  so is a text that is no document.  Settings can be read off
  whatever is loaded from any path.
-/
theorem load_accepts_iff
    (hNames : read.HasDistinctNames)
    {files : Files}
    {path place : String}
    {text : List Char}
    (hFile : IsAt files path place text) :
    (∀ document, read (withLineFeeds text) = .ok document →
      ((∃ configuration,
          loadBy read files (some path) = .ok configuration) ↔
        ∃ entries, document.Gives entries ∧
          (ofEntries entries).IsValid) ∧
      (∀ configuration,
        loadBy read files (some path) = .ok configuration →
          ∃ entries : Entries Key, document.Gives entries ∧
            configuration.names =
              defaults.names ++
                entries.names.filter (· ∉ defaults.names) ∧
            ∀ name, configuration.get? name =
              (entries.get? name).or (defaults.get? name)) ∧
      ((∀ configuration,
          loadBy read files (some path) ≠
            .ok configuration) →
        loadBy read files (some path) =
            .error (.noMapping place) ∨
          ∃ fault,
            loadBy read files (some path) =
              .error (.wrong fault))) ∧
      (∀ fault,
        read (withLineFeeds text) = .error fault →
          loadBy read files (some path) =
            .error (.unreadable fault)) ∧
      ∀ path configuration,
        loadBy read files path = .ok configuration →
          ∃ settings,
            Settings.ofConfiguration (ofEntries configuration) =
              .ok settings := by
  rw [loadBy_of_isAt hFile]
  refine ⟨fun document hRead => ?_, fun fault hRead => ?_,
    fun _ _ => exists_settings_of_loadBy⟩
  · have hText :
        ofText read place text = ofDocument place document := by
      rw [ofText, hRead]
      rfl
    rw [hText]
    rcases ofDocument_cases place document with
      ⟨entries, hGives, hValid, hFound⟩ |
        ⟨entries, fault, hGives, hWrong, hFault⟩ |
        ⟨hNone, hFault⟩
    · rw [hFound]
      have hNodup := nodup_names_of_gives hNames hRead hGives
      refine ⟨iff_of_true ⟨_, rfl⟩ ⟨entries, hGives, hValid⟩,
        ?_, fun hNever => absurd rfl (hNever _)⟩
      rintro configuration ⟨⟩
      exact ⟨entries, hGives,
        Entries.names_merge hNodup defaults,
        Entries.get?_merge hNodup defaults⟩
    · rw [hFault]
      refine ⟨iff_of_false (by rintro ⟨_, ⟨⟩⟩) ?_,
        by rintro _ ⟨⟩, fun _ => Or.inr ⟨fault, rfl⟩⟩
      rintro ⟨others, hOthers, hValid⟩
      exact hWrong (hGives.unique hOthers ▸ hValid)
    · rw [hFault]
      refine ⟨iff_of_false (by rintro ⟨_, ⟨⟩⟩) ?_,
        by rintro _ ⟨⟩, fun _ => Or.inl rfl⟩
      rintro ⟨entries, hGives, _⟩
      exact hNone entries hGives
  · rw [ofText, hRead]
    rfl

end Reading

/- Files of which each has the same text. -/
def everywhere
    (text : String) :
    Files :=
  fun _ => .file text.toList

/- A setting, and a number and a text that look alike. -/
def mixedText : String :=
  "max_depth: 10\n1: a\n\"1\": b\n"

/- Their entries. -/
def mixed : Entries Key :=
  [
    (.text "max_depth", .whole 10),
    (.other "1" 0, .text "a"),
    (.text "1", .text "b")
  ]

/- They are what is read. -/
def isMixed :
    Except YamlFault (Document Key) → Bool
  | .ok (.map [
      (.text "max_depth", .whole 10),
      (.other "1" 0, .text "a"),
      (.text "1", .text "b")
    ]) => true
  | _ => false

theorem ofYaml_mixedText :
    Document.ofYaml (withLineFeeds mixedText.toList) =
      .ok (.map mixed) := by
  have hMixed :
      isMixed (Document.ofYaml
        (withLineFeeds mixedText.toList)) = true := by
    decide +kernel
  unfold isMixed at hMixed
  split at hMixed
  case h_1 hRead => exact hRead
  case h_2 => cases hMixed

/- Both names are kept beside the settings. -/
theorem load_accepts_iff_mixed :
    IsAt (everywhere mixedText) fileName fileName
        mixedText.toList ∧
      DocumentReader.HasDistinctNames Document.ofYaml ∧
      Document.ofYaml (withLineFeeds mixedText.toList) =
        .ok (.map mixed) ∧
      ∃ configuration,
        load (everywhere mixedText) (some fileName) =
            .ok configuration ∧
          configuration.get? "max_depth" =
            some (.whole 10) ∧
          configuration.get? "memoize" =
            some (.truth false) ∧
          configuration.get? (.other "1" 0) =
            some (.text "a") ∧
          configuration.get? "1" = some (.text "b") := by
  have hFile :
      IsAt (everywhere mixedText) fileName fileName
        mixedText.toList :=
    ⟨rfl, Or.inl (by decide)⟩
  have hRead := ofYaml_mixedText
  have hValid : (ofEntries mixed).IsValid :=
    {
      maxDepth := ⟨10, by decide, rfl⟩
      tailBytes := ⟨defaultTailBytes, by decide, rfl⟩
      memoize := ⟨false, rfl⟩
      fsync := ⟨false, rfl⟩
      decimals := ⟨10, by decide, rfl⟩
    }
  have hNames := Document.hasDistinctNames_ofYaml
  rcases (load_accepts_iff hNames hFile).1 _ hRead with
    ⟨hAccepts, hMerged, _⟩
  rcases hAccepts.mpr ⟨_, Or.inl rfl, hValid⟩ with
    ⟨configuration, hLoad⟩
  rcases hMerged configuration hLoad with
    ⟨entries, hGives, _, hGet⟩
  cases hGives.unique (Or.inl rfl)
  exact ⟨hFile, hNames, hRead, configuration, hLoad,
    hGet "max_depth", hGet "memoize", hGet (.other "1" 0),
    hGet "1"⟩

/- What is read is the truth that is none. -/
def isFalsehood :
    Except YamlFault (Document Key) → Bool
  | .ok (.truth false) => true
  | _ => false

/- A document that is neither null nor a map is accepted. -/
theorem load_accepts_false :
    Document.ofYaml (withLineFeeds "false\n".toList) =
        .ok (.truth false) ∧
      load (everywhere "false\n") (some fileName) =
        .ok defaults := by
  have hFile :
      IsAt (everywhere "false\n") fileName fileName
        "false\n".toList :=
    ⟨rfl, Or.inl (by decide)⟩
  have hRead :
      Document.ofYaml (withLineFeeds "false\n".toList) =
        .ok (.truth false) := by
    have hFalse :
        isFalsehood (Document.ofYaml
          (withLineFeeds "false\n".toList)) = true := by
      decide +kernel
    unfold isFalsehood at hFalse
    split at hFalse
    case h_1 hRead => exact hRead
    case h_2 => cases hFalse
  refine ⟨hRead, ?_⟩
  rw [load, loadBy_of_isAt hFile, ofText, hRead]
  rfl

end Configuration

end Spreadsheet
