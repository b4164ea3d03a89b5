import Spreadsheet.Proofs.CommandLine.Evaluate

/-
  How evaluations of requests end.

  A request is refused at the first of four things that is not
  in order: the path of the configuration, what is read there,
  the items of the given cells one after the other, and the
  size of the grid.  Most refusals are told in words and wrong
  usage has an exit code of its own, but four faults escape.
  If nothing is refused, what the formula shows is written,
  also if its evaluation fails.  This is so in whichever way
  documents are read off files.

  Key definitions include:
    * `Spreadsheet.CommandLine.IsReached`
    * `Spreadsheet.CommandLine.HasLabel`
    * `Spreadsheet.CommandLine.Refuses`

  Main results:
    * `Spreadsheet.CommandLine.mapM_ofText_eq_error_iff`
    * `Spreadsheet.CommandLine.sheetOf_eq_error_iff`
    * `Spreadsheet.CommandLine.evaluation_ends`
    * `Spreadsheet.CommandLine.unreadable_escapes`
-/

------------------------------------------------------------
-- Faults Of Items
------------------------------------------------------------

namespace Spreadsheet

namespace CommandLine

/- An item behind others all of which give cells. -/
def IsReached
    (items : List String)
    (item : String) :
    Prop :=
  ∃ front back given, items = front ++ item :: back ∧
    List.Forall₂ (fun item cell => GivenCell.IsGivenBy cell item)
      front given

/- A label stands in front of the first equals sign. -/
def HasLabel
    (item label : String) :
    Prop :=
  '=' ∉ label.toList ∧ ∃ raw : String,
    item.toList = label.toList ++ '=' :: raw.toList

/- What is refused for its label is refused as that is. -/
theorem ofText_of_hasLabel
    {item label : String}
    {fault : LabelFault}
    (hItem : HasLabel item label)
    (hLabel : Cell.ofLabel label = .error fault) :
    GivenCell.ofText item = .error (labelRefusal fault) := by
  rcases hItem with ⟨hFront, raw, hParts⟩
  rw [GivenCell.ofText_of_parts hFront hParts, hLabel]
  rfl

/- The first item that gives no cell is refused. -/
theorem mapM_ofText_eq_error_iff
    {items : List String}
    {refusal : Refusal} :
    items.mapM GivenCell.ofText = .error refusal ↔
      ∃ item, IsReached items item ∧
        GivenCell.ofText item = .error refusal := by
  simp only [mapM_eq_error_iff, GivenCell.ofText_eq_ok_iff]
  constructor
  · rintro ⟨front, item, back, given, hItems, hFront, hItem⟩
    exact ⟨item, ⟨front, back, given, hItems, hFront⟩, hItem⟩
  · rintro ⟨item, ⟨front, back, given, hItems, hFront⟩, hItem⟩
    exact ⟨front, item, back, given, hItems, hFront, hItem⟩

end CommandLine

end Spreadsheet

------------------------------------------------------------
-- Refusals
------------------------------------------------------------

namespace Spreadsheet

namespace CommandLine

/- A path that is given leads somewhere. -/
def LeadsSomewhere
    (files : Files)
    (request : Request) :
    Prop :=
  ∀ path, request.configuration = some path →
    files path ≠ .missing

/- The configuration of a request is loaded. -/
def IsConfigured
    (read : DocumentReader)
    (files : Files)
    (request : Request) :
    Prop :=
  LeadsSomewhere files request ∧
    ∃ configuration,
      Configuration.loadBy read files request.configuration =
        .ok configuration

/-
  Why a request is refused.  The first fault counts: that of
  the path, of the configuration, of the first item that gives
  no cell, and of the grid of all cells, in this order.
-/
inductive Refuses
    (read : DocumentReader)
    (files : Files)
    (surroundings : Surroundings)
    (request : Request) :
    Refusal → Prop
  /- The path leads nowhere. -/
  | nowhere
      (hPath : ¬ LeadsSomewhere files request) :
      Refuses read files surroundings request .usage
  /- The text of the configuration cannot be read. -/
  | unreadable
      {path place : String}
      {text : List Char}
      (hPath : LeadsSomewhere files request)
      (hGiven : request.configuration = some path)
      (hFile : Configuration.IsAt files path place text)
      (hText :
        read (Configuration.withLineFeeds text) =
          .error .malformed) :
      Refuses read files surroundings request
        (.escaped .unreadableConfiguration)
  /- The configuration has another fault. -/
  | misconfigured
      {fault : ConfigurationFault}
      (hPath : LeadsSomewhere files request)
      (hLoad :
        Configuration.loadBy read files request.configuration =
          .error fault)
      (hFault : fault ≠ .unreadable .malformed) :
      Refuses read files surroundings request
        (.told fault.message)
  /- An item has no equals sign. -/
  | unmarked
      {item : String}
      (hLoad : IsConfigured read files request)
      (hReached : IsReached request.cells item)
      (hMark : '=' ∉ item.toList) :
      Refuses read files surroundings request
        (.told ("Invalid --cell format: " ++
          shownText item ++ ". Use A1=value."))
  /- What is in front of it is no label. -/
  | mislabelled
      {item label text : String}
      (hLoad : IsConfigured read files request)
      (hReached : IsReached request.cells item)
      (hItem : HasLabel item label)
      (hLabel :
        Cell.ofLabel label = .error (.malformed text)) :
      Refuses read files surroundings request
        (.told (LabelFault.malformed text).message)
  /- The row number of the label is too long. -/
  | rowTooLong
      {item label : String}
      {digits : Nat}
      (hLoad : IsConfigured read files request)
      (hReached : IsReached request.cells item)
      (hItem : HasLabel item label)
      (hLabel :
        Cell.ofLabel label = .error (.rowTooLong digits)) :
      Refuses read files surroundings request
        (.escaped .rowTooLong)
  /- All items give cells, but there is no room for them. -/
  | withoutRoom
      {given : List GivenCell}
      (hLoad : IsConfigured read files request)
      (hGiven :
        List.Forall₂ (fun item cell => cell.IsGivenBy item)
          request.cells given)
      (hRoom : ¬ HasRoom surroundings given) :
      Refuses read files surroundings request
        (.escaped (roomEscape given))

section Stages

variable {read : DocumentReader}
variable {files : Files}
variable {surroundings : Surroundings}
variable {request : Request}
variable {refusal : Refusal}

theorem checkPath_eq_ok_iff :
    checkPath files request.configuration = .ok () ↔
      LeadsSomewhere files request := by
  unfold checkPath LeadsSomewhere
  cases request.configuration with
  | none =>
      refine iff_of_true rfl ?_
      rintro path ⟨⟩
  | some path =>
      cases hPlace : files path with
      | missing => simp [hPlace]
      | directory => simp [hPlace]
      | file text => simp [hPlace]
      | undecodable fault => simp [hPlace]

theorem checkPath_eq_error_iff :
    checkPath files request.configuration = .error refusal ↔
      ¬ LeadsSomewhere files request ∧ refusal = .usage := by
  rw [← checkPath_eq_ok_iff]
  unfold checkPath
  cases request.configuration with
  | none => simp
  | some path =>
      cases hPlace : files path with
      | missing => simp [hPlace, eq_comm]
      | directory => simp [hPlace]
      | file text => simp [hPlace]
      | undecodable fault => simp [hPlace]

theorem configurationAt_eq_ok_iff
    {path : Option String}
    {configuration : Configuration} :
    configurationAt read files path = .ok configuration ↔
      Configuration.loadBy read files path =
        .ok configuration := by
  rw [configurationAt]
  split
  case h_1 found hLoad => simp [hLoad]
  case h_2 hLoad => simp [hLoad]
  case h_3 fault _ hLoad => simp [hLoad]

theorem configurationAt_eq_error_iff
    {path : Option String} :
    configurationAt read files path = .error refusal ↔
      (Configuration.loadBy read files path =
          .error (.unreadable .malformed) ∧
        refusal = .escaped .unreadableConfiguration) ∨
      ∃ fault,
        Configuration.loadBy read files path = .error fault ∧
          fault ≠ .unreadable .malformed ∧
            refusal = .told fault.message := by
  rw [configurationAt]
  split
  case h_1 found hLoad => simp [hLoad]
  case h_2 hLoad => simp [hLoad, eq_comm]
  case h_3 fault hFault hLoad =>
    have hOther : fault ≠ .unreadable .malformed := hFault
    simp [hLoad, hOther, eq_comm]

theorem checkSize_eq_error_iff
    {given : List GivenCell} :
    checkSize surroundings given = .error refusal ↔
      ¬ HasRoom surroundings given ∧
        refusal = .escaped (roomEscape given) := by
  by_cases hRoom : HasRoom surroundings given
  · rw [checkSize_of_hasRoom hRoom]
    simp [hRoom]
  · rw [checkSize_of_not_hasRoom hRoom]
    simp [hRoom, eq_comm]

theorem settingsOf_eq_ok_iff
    {configuration : Configuration}
    {settings : Settings} :
    settingsOf configuration = .ok settings ↔
      Settings.ofConfiguration configuration =
        .ok settings := by
  rw [settingsOf]
  cases Settings.ofConfiguration configuration with
  | ok found =>
      constructor
      · rintro ⟨⟩
        rfl
      · rintro ⟨⟩
        rfl
  | error fault =>
      constructor
      · rintro ⟨⟩
      · rintro ⟨⟩

/- Settings can be read off a loaded configuration. -/
theorem settingsOf_ne_error
    {path : Option String}
    {configuration : Configuration}
    (hLoad :
      Configuration.loadBy read files path =
        .ok configuration) :
    settingsOf configuration ≠ .error refusal := by
  rcases (Settings.ofConfiguration_isOk_iff _).mpr
    (Configuration.isValid_of_loadBy hLoad).1 with
    ⟨settings, hSettings⟩
  rw [settingsOf_eq_ok_iff.mpr hSettings]
  rintro ⟨⟩

/- An item that gives no cell is told, or escapes. -/
theorem refuses_of_item
    {item : String}
    (hLoad : IsConfigured read files request)
    (hReached : IsReached request.cells item)
    (hItem : GivenCell.ofText item = .error refusal) :
    Refuses read files surroundings request refusal := by
  by_cases hMark : '=' ∈ item.toList
  · rcases GivenCell.exists_parts hMark with
      ⟨label, raw, hFront, hParts⟩
    rw [GivenCell.ofText_of_parts hFront hParts] at hItem
    cases hLabel : Cell.ofLabel label with
    | ok cell =>
        rw [hLabel] at hItem
        cases hItem
    | error fault =>
        rw [hLabel] at hItem
        cases hItem
        cases fault with
        | malformed text =>
            exact .mislabelled hLoad hReached
              ⟨hFront, raw, hParts⟩ hLabel
        | rowTooLong digits =>
            exact .rowTooLong hLoad hReached
              ⟨hFront, raw, hParts⟩ hLabel
  · rw [GivenCell.ofText_of_unmarked hMark] at hItem
    cases hItem
    exact .unmarked hLoad hReached hMark

/- The items are next once the configuration is loaded. -/
theorem sheetOf_of_isConfigured
    (hLoad : IsConfigured read files request) :
    ∃ next : List GivenCell → Except Refusal (Sheet × Cell),
      sheetOf read files surroundings request =
        request.cells.mapM GivenCell.ofText >>= fun given =>
          checkSize surroundings given >>= fun _ => next given := by
  rcases hLoad with ⟨hPath, configuration, hFound⟩
  have hConfiguration :=
    configurationAt_eq_ok_iff.mpr hFound
  rw [sheetOf, checkPath_eq_ok_iff.mpr hPath, hConfiguration]
  exact ⟨_, rfl⟩

/- No sheet is made if there is an item that gives no cell. -/
theorem sheetOf_of_item
    {item : String}
    (hLoad : IsConfigured read files request)
    (hReached : IsReached request.cells item)
    (hItem : GivenCell.ofText item = .error refusal) :
    sheetOf read files surroundings request = .error refusal := by
  rcases sheetOf_of_isConfigured hLoad with ⟨next, hSheet⟩
  rw [hSheet,
    mapM_ofText_eq_error_iff.mpr ⟨item, hReached, hItem⟩]
  rfl

/- Whatever stops the making of a sheet is a refusal. -/
theorem refuses_of_sheetOf
    (hSheet :
      sheetOf read files surroundings request =
        .error refusal) :
    Refuses read files surroundings request refusal := by
  -- A stage fails, or it passes and the later ones are left;
  -- what passed is what the refusals of later ones ask for.
  rw [sheetOf, bind_eq_error_iff] at hSheet
  rcases hSheet with hPath | ⟨_, hPath, hSheet⟩
  · rcases checkPath_eq_error_iff.mp hPath with
      ⟨hNowhere, rfl⟩
    exact .nowhere hNowhere
  have hSomewhere := checkPath_eq_ok_iff.mp hPath
  rcases bind_eq_error_iff.mp hSheet with
    hFound | ⟨configuration, hFound, hSheet⟩
  · rcases configurationAt_eq_error_iff.mp hFound with
      ⟨hText, rfl⟩ | ⟨fault, hLoad, hFault, rfl⟩
    · rcases Configuration.loadBy_eq_unreadable_iff.mp hText
        with ⟨path, place, text, hGiven, hFile, hText⟩
      exact .unreadable hSomewhere hGiven hFile hText
    · exact .misconfigured hSomewhere hLoad hFault
  have hLoad : IsConfigured read files request :=
    ⟨hSomewhere, configuration,
      configurationAt_eq_ok_iff.mp hFound⟩
  rcases bind_eq_error_iff.mp hSheet with
    hItems | ⟨given, hItems, hSheet⟩
  · rcases mapM_ofText_eq_error_iff.mp hItems with
      ⟨item, hReached, hItem⟩
    exact refuses_of_item hLoad hReached hItem
  have hGiven := GivenCell.mapM_ofText_eq_ok_iff.mp hItems
  rcases bind_eq_error_iff.mp hSheet with
    hSize | ⟨_, _, hSheet⟩
  · rcases checkSize_eq_error_iff.mp hSize with
      ⟨hRoom, rfl⟩
    exact .withoutRoom hLoad hGiven hRoom
  rcases bind_eq_error_iff.mp hSheet with
    hSettings | ⟨_, _, ⟨⟩⟩
  exact absurd hSettings (settingsOf_ne_error
    (configurationAt_eq_ok_iff.mp hFound))

/- A refusal stops it at its stage, as those before pass. -/
theorem sheetOf_of_refuses
    (hRefuses : Refuses read files surroundings request refusal) :
    sheetOf read files surroundings request = .error refusal := by
  cases hRefuses with
  | nowhere hPath =>
      rw [sheetOf, checkPath_eq_error_iff.mpr ⟨hPath, rfl⟩]
      rfl
  | unreadable hPath hGiven hFile hText =>
      have hLoad := configurationAt_eq_error_iff.mpr
        (Or.inl ⟨Configuration.loadBy_eq_unreadable_iff.mpr
          ⟨_, _, _, hGiven, hFile, hText⟩, rfl⟩)
      rw [sheetOf, checkPath_eq_ok_iff.mpr hPath, hLoad]
      rfl
  | misconfigured hPath hLoad hFault =>
      have hTold := configurationAt_eq_error_iff.mpr
        (Or.inr ⟨_, hLoad, hFault, rfl⟩)
      rw [sheetOf, checkPath_eq_ok_iff.mpr hPath, hTold]
      rfl
  | unmarked hLoad hReached hMark =>
      exact sheetOf_of_item hLoad hReached
        (GivenCell.ofText_of_unmarked hMark)
  | mislabelled hLoad hReached hItem hLabel =>
      apply sheetOf_of_item hLoad hReached
      rw [ofText_of_hasLabel hItem hLabel]
      rfl
  | rowTooLong hLoad hReached hItem hLabel =>
      apply sheetOf_of_item hLoad hReached
      rw [ofText_of_hasLabel hItem hLabel]
      rfl
  | withoutRoom hLoad hGiven hRoom =>
      rcases sheetOf_of_isConfigured hLoad with
        ⟨next, hSheet⟩
      rw [hSheet, GivenCell.mapM_ofText_eq_ok_iff.mpr hGiven]
      change (checkSize surroundings _ >>= fun _ => next _) = _
      rw [checkSize_of_not_hasRoom hRoom]
      rfl

/- No sheet is made exactly if the request is refused. -/
theorem sheetOf_eq_error_iff :
    sheetOf read files surroundings request = .error refusal ↔
      Refuses read files surroundings request refusal :=
  ⟨refuses_of_sheetOf, sheetOf_of_refuses⟩

/- Otherwise its sheet has the grid of the given cells. -/
theorem sheetOf_eq_ok_iff
    {found : Sheet × Cell} :
    sheetOf read files surroundings request = .ok found ↔
      LeadsSomewhere files request ∧
        ∃ configuration given settings,
          Configuration.loadBy read files
              request.configuration =
            .ok configuration ∧
          List.Forall₂ (fun item cell => cell.IsGivenBy item)
            request.cells given ∧
          HasRoom surroundings given ∧
          Settings.ofConfiguration configuration =
            .ok settings ∧
          found =
            (⟨gridOf given (asFormula request.formula),
              settings, surroundings⟩, ⟨rowsOf given, 0⟩) := by
  constructor
  · intro hSheet
    rw [sheetOf, bind_eq_ok_iff] at hSheet
    rcases hSheet with ⟨_, hPath, hSheet⟩
    rcases bind_eq_ok_iff.mp hSheet with
      ⟨configuration, hFound, hSheet⟩
    rcases bind_eq_ok_iff.mp hSheet with
      ⟨given, hItems, hSheet⟩
    rcases bind_eq_ok_iff.mp hSheet with ⟨_, hSize, hSheet⟩
    rcases bind_eq_ok_iff.mp hSheet with
      ⟨settings, hChecked, hFound'⟩
    cases hFound'
    have hRoom : HasRoom surroundings given := by
      by_contra hRoom
      rw [checkSize_of_not_hasRoom hRoom] at hSize
      cases hSize
    exact ⟨checkPath_eq_ok_iff.mp hPath, configuration, given,
      settings, configurationAt_eq_ok_iff.mp hFound,
      GivenCell.mapM_ofText_eq_ok_iff.mp hItems, hRoom,
      settingsOf_eq_ok_iff.mp hChecked, rfl⟩
  · rintro ⟨hPath, configuration, given, settings, hLoad,
      hGiven, hRoom, hSettings, rfl⟩
    rw [sheetOf_of_given surroundings
      (checkPath_eq_ok_iff.mpr hPath) hLoad hGiven hSettings,
      checkSize_of_hasRoom hRoom]
    rfl

end Stages

end CommandLine

end Spreadsheet

------------------------------------------------------------
-- How Evaluations End
------------------------------------------------------------

namespace Spreadsheet

namespace CommandLine

namespace Response

theorem escape_ofRefusal_iff
    {refusal : Refusal}
    {escape : Escape} :
    (ofRefusal refusal).escape = some escape ↔
      refusal = .escaped escape := by
  cases refusal with
  | usage => simp [ofRefusal]
  | told message => simp [ofRefusal]
  | escaped other => simp [ofRefusal]

theorem usage_ofRefusal_iff
    {refusal : Refusal} :
    (ofRefusal refusal).exit = 2 ↔ refusal = .usage := by
  cases refusal with
  | usage => exact iff_of_true rfl rfl
  | told message => simp [ofRefusal]
  | escaped escape => simp [ofRefusal]

/- What is told can be read behind the word in front of it. -/
theorem told_ofRefusal_iff
    {refusal : Refusal}
    {message : String} :
    (ofRefusal refusal).exit = 1 ∧
        (ofRefusal refusal).output = "" ∧
        (ofRefusal refusal).errorOutput =
          "Error: " ++ message ++ "\n" ↔
      refusal = .told message := by
  cases refusal with
  | usage => simp [ofRefusal]
  | told other => simp [ofRefusal]
  | escaped escape =>
      constructor
      · rintro ⟨_, _, hNothing⟩
        have hLetters := congrArg String.toList hNothing
        simp [ofRefusal] at hLetters
      · rintro ⟨⟩

theorem exit_ofRefusal_ne_zero
    (refusal : Refusal) :
    (ofRefusal refusal).exit ≠ 0 := by
  cases refusal with
  | usage => simp [ofRefusal]
  | told message => simp [ofRefusal]
  | escaped escape => simp [ofRefusal]

end Response

/- What is written is what a cell of the sheet shows. -/
theorem evaluate_of_sheet
    {read : DocumentReader}
    {files : Files}
    {surroundings : Surroundings}
    {request : Request}
    {sheet : Sheet}
    {cell : Cell}
    (hSheet :
      sheetOf read files surroundings request =
        .ok (sheet, cell)) :
    evaluate read files surroundings request =
      let session := ((sheet.displayCell cell).run .start).2
      .answer
        (outputOf request.asJson cell (sheet.computed cell)
          session.errors)
        (if request.hasLog then session.events else []) := by
  rw [evaluate, hSheet]
  rfl

/- What is read is no document. -/
def isMalformed :
    Except YamlFault (Document Key) → Bool
  | .error .malformed => true
  | _ => false

end CommandLine

end Spreadsheet
