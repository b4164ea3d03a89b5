import Spreadsheet.Proofs.Session.History
import Spreadsheet.Proofs.Session.Memory
import Spreadsheet.Proofs.Sheet.Nested

/-
  What kept values are worth.

  A value that is kept is the value of its cell only if no
  cell was given up for want of room behind it.  Such a
  failure depends on where the cell was reached first, and a
  formula can catch it and make a value of it.  Where that
  does not happen, every value that a session comes to is the
  one that its cell has on its own.

  Key definitions include:
    * `Spreadsheet.Sheet.catching`

  Main results:
    * `Spreadsheet.Sheet.found_of_mem_visitsOf`
    * `Spreadsheet.Sheet.calm_visitsOf_of_room`
    * `Spreadsheet.Sheet.kept_value_of_candid`
    * `Spreadsheet.Sheet.kept_value_without_room`
-/

------------------------------------------------------------
-- Sound Sessions
------------------------------------------------------------

namespace Spreadsheet

namespace Sheet

open Session (Request)

variable {sheet : Sheet}
variable {session : Session}

/- A candid evaluation leaves values sound. -/
theorem sound_of_candid
    (hSteady : sheet.Steady)
    {visit : Visit}
    (hCandid : sheet.Candid (sheet.visits visit))
    (hSound : sheet.Sound visit.progress) :
    sheet.Sound ((sheet.evaluateCell visit.cell).outcome
      visit.progress).2 :=
  (sound_and_found hSteady.clock_eq
    (fun other _ => hSteady.not_random other) hCandid
    hSound).1

/- Values are sound wherever a request asks for a cell. -/
theorem sound_of_mem_askedBy
    (hSteady : sheet.Steady)
    {request : Request}
    (hCandid : ∀ asked ∈ sheet.askedBy session request,
      sheet.Candid (sheet.visits asked))
    (hSound : sheet.Sound session.progress)
    {asked : Visit}
    (hAsked : asked ∈ sheet.askedBy session request) :
    sheet.Sound asked.progress :=
  askedBy_preserves sheet.sound_isPreserved
    (fun visit hVisit =>
      sound_of_candid hSteady (hCandid visit hVisit))
    hSound hAsked

/- Values are sound after a request. -/
theorem sound_respond
    (hSteady : sheet.Steady)
    {request : Request}
    (hCandid : ∀ asked ∈ sheet.askedBy session request,
      sheet.Candid (sheet.visits asked))
    (hSound : sheet.Sound session.progress) :
    sheet.Sound
      ((sheet.respond request).run session).2.progress :=
  respond_preserves sheet.Sound
    (fun _ hSound => hSound)
    (fun visit hVisit =>
      sound_of_candid hSteady (hCandid visit hVisit))
    (fun _ _ => .of_unknown rfl) hSound

/-
  Each value that a candid session comes to is found without a
  guard, at whatever visit.
-/
theorem found_of_mem_visitsOf
    (hSteady : sheet.Steady)
    {requests : List Request}
    (hCandid :
      sheet.Candid (sheet.visitsOf requests session))
    (hSound : sheet.Sound session.progress)
    {visit : Visit}
    (hVisit : visit ∈ sheet.visitsOf requests session)
    {value : Value}
    (hValue : sheet.result visit = .ok value) :
    sheet.Found visit := by
  induction requests generalizing session with
  | nil => simp [visitsOf] at hVisit
  | cons request rest ih =>
      have hFirst :
          ∀ asked ∈ sheet.askedBy session request,
            sheet.Candid (sheet.visits asked) :=
        fun asked hAsked =>
          hCandid.subset (visits_subset_visitsOf hAsked rest)
      have hCalm := hCandid visit hVisit value hValue
      rcases mem_visitsOf_cons_iff.mp hVisit with
        ⟨asked, hAsked, hVisit⟩ | hVisit
      · exact found_of_mem_visits hSteady.clock_eq
          (fun other _ => hSteady.not_random other)
          (hFirst asked hAsked)
          (sound_of_mem_askedBy hSteady hFirst hSound hAsked)
          hVisit
          fun _ hOther =>
            unstopped_of_calm hValue hCalm hOther
      · exact ih
          (hCandid.subset
            (visitsOf_subset_visitsOf sheet request rest
              session))
          (sound_respond hSteady hFirst hSound) hVisit

end Sheet

end Spreadsheet

------------------------------------------------------------
-- Sessions With Room
------------------------------------------------------------

namespace Spreadsheet

namespace Sheet

open Session (Request)

variable {sheet : Sheet}
variable {session : Session}

/- A visit of a session is on the way from an idle one. -/
theorem exists_idle_of_mem_visitsOf
    {requests : List Request}
    (hIdle : session.progress.Idle)
    {visit : Visit}
    (hVisit : visit ∈ sheet.visitsOf requests session) :
    ∃ asked, asked.progress.Idle ∧
      visit ∈ sheet.visits asked ∧
      sheet.visits asked ⊆
        sheet.visitsOf requests session := by
  induction requests generalizing session with
  | nil => simp [visitsOf] at hVisit
  | cons request rest ih =>
      rcases mem_visitsOf_cons_iff.mp hVisit with
        ⟨asked, hAsked, hVisit⟩ | hVisit
      · have hSame :=
          askedBy_keeps sameGuard_isKept
            sheet.evaluateCell_keeps_guard hAsked
        exact ⟨asked, hIdle.of_sameGuard hSame, hVisit,
          visits_subset_visitsOf hAsked rest⟩
      · rcases ih (idle_respond request hIdle) hVisit with
          ⟨asked, hAsked, hVisit, hSubset⟩
        exact ⟨asked, hAsked, hVisit,
          List.Subset.trans hSubset
            (visitsOf_subset_visitsOf sheet request rest
              session)⟩

/-
  With room for more cells than there are formulas, a session
  never gives up a cell for want of room.
-/
theorem calm_visitsOf_of_room
    (hRoom : sheet.grid.formulaCells.length <
      sheet.settings.maxDepth)
    (hIdle : session.progress.Idle)
    (requests : List Request) :
    sheet.Calm (sheet.visitsOf requests session) := by
  intro visit hVisit
  rcases exists_idle_of_mem_visitsOf hIdle hVisit with
    ⟨asked, hAsked, hVisit, -⟩
  exact calm_of_room hRoom hAsked visit hVisit

/- Such a session is candid, too. -/
theorem candid_visitsOf_of_room
    (hRoom : sheet.grid.formulaCells.length <
      sheet.settings.maxDepth)
    (hIdle : session.progress.Idle)
    (requests : List Request) :
    sheet.Candid (sheet.visitsOf requests session) := by
  refine candid_of_calm ?_
    (calm_visitsOf_of_room hRoom hIdle requests)
  intro visit hVisit
  rcases exists_idle_of_mem_visitsOf hIdle hVisit with
    ⟨asked, -, hVisit, hSubset⟩
  exact fun other hOther =>
    hSubset (visits_subset hVisit hOther)

end Sheet

end Spreadsheet

------------------------------------------------------------
-- Values That Are Served
------------------------------------------------------------

namespace Spreadsheet

namespace Sheet

open Session (Request)

/-
  Let no formula be random and the clock stand still, and let
  no cell be given up for want of room behind a value in a
  session with a sheet that keeps values.  Then each cell that
  comes to a value in it, kept or not, has this value on its
  own, unless there a cell is given up for want of room.
-/
theorem kept_value_of_candid
    (sheet : Sheet)
    (hRandom : ∀ cell, ¬sheet.grid.IsRandomAt cell)
    (hClock : ∀ index,
      sheet.surroundings.clock index =
        sheet.surroundings.clock 0)
    (requests : List Request)
    (hCandid : (sheet.memoizing true).Candid
      ((sheet.memoizing true).visitsOf requests .start))
    {visit : Visit}
    (hVisit : visit ∈
      (sheet.memoizing true).visitsOf requests .start)
    {value : Value}
    (hValue :
      (sheet.memoizing true).result visit = .ok value)
    (hCalm : (sheet.memoizing false).Calm
      ((sheet.memoizing false).visits
        ⟨visit.cell, .start⟩)) :
    (sheet.memoizing false).result ⟨visit.cell, .start⟩ =
      .ok value := by
  have hKeeping : (sheet.memoizing true).Steady :=
    ⟨hRandom, hClock⟩
  have hForgetting : (sheet.memoizing false).Steady :=
    ⟨hRandom, hClock⟩
  have hSound :
      (sheet.memoizing true).Sound
        Session.start.progress :=
    .of_unknown rfl
  rcases found_of_mem_visitsOf hKeeping hCandid hSound
    hVisit hValue with ⟨depth, hDepth⟩
  have hGrid :
      (sheet.memoizing true).grid =
        (sheet.memoizing false).grid := rfl
  rw [unguarded_congr hGrid rfl rfl, hValue] at hDepth
  exact result_of_calm hForgetting rfl hCalm hDepth

/-
  A sheet with some room whose second cell catches what
  happens on the way to the third, and whose first cell refers
  to the second.
-/
def catching
    (maxDepth : Nat) :
    Sheet where
  grid :=
    [[some "=B1", some "=IFERROR(C1,\"x\")", some "y"]]
  settings := ⟨maxDepth, 10, false, false, 1⟩
  surroundings := .still

theorem not_isRandomAt_catching
    (maxDepth : Nat)
    (cell : Cell) :
    ¬(catching maxDepth).grid.IsRandomAt cell := by
  have hCells :
      ∀ cell ∈ (catching 0).grid.formulaCells,
        ¬(catching 0).grid.CallsAt .rand cell ∧
          ¬(catching 0).grid.CallsAt .randBetween cell := by
    decide +kernel
  exact Grid.not_isRandomAt hCells cell

/-
  With room for all three cells, each value that is kept is
  the one that its cell has on its own.
-/
theorem kept_value_with_room :
    let sheet := catching 3
    let requests : List Request :=
      [.evaluate ⟨0, 0⟩, .evaluate ⟨0, 1⟩]
    (∀ cell, ¬sheet.grid.IsRandomAt cell) ∧
    (sheet.memoizing true).Candid
      ((sheet.memoizing true).visitsOf requests .start) ∧
    ∀ visit ∈ (sheet.memoizing true).visitsOf requests .start,
      ∀ value,
        (sheet.memoizing true).result visit = .ok value →
          (sheet.memoizing false).result
              ⟨visit.cell, .start⟩ =
            .ok value := by
  intro sheet requests
  have hRandom : ∀ cell, ¬sheet.grid.IsRandomAt cell :=
    not_isRandomAt_catching 3
  have hRoom : sheet.grid.formulaCells.length < 3 := by
    decide +kernel
  have hKeepingRoom :
      (sheet.memoizing true).grid.formulaCells.length <
        (sheet.memoizing true).settings.maxDepth := hRoom
  have hForgettingRoom :
      (sheet.memoizing false).grid.formulaCells.length <
        (sheet.memoizing false).settings.maxDepth := hRoom
  have hIdle : Session.start.progress.Idle := ⟨rfl, rfl⟩
  have hCandid :
      (sheet.memoizing true).Candid
        ((sheet.memoizing true).visitsOf requests .start) :=
    candid_visitsOf_of_room hKeepingRoom hIdle requests
  refine ⟨hRandom, hCandid, ?_⟩
  intro visit hVisit value hValue
  exact kept_value_of_candid sheet hRandom (fun _ => rfl)
    requests hCandid hVisit hValue
    (calm_of_room hForgettingRoom ⟨rfl, rfl⟩)

/- The value of a cell is what its visit comes to. -/
theorem respond_evaluate
    (sheet : Sheet)
    (cell : Cell)
    (session : Session) :
    ((sheet.respond (.evaluate cell)).run session).1 =
      .value (sheet.result ⟨cell, session.progress⟩) :=
  rfl

/-
  With room for two cells only, the second cell is first
  reached where the third one is out of room.  The value that
  is made of this failure is kept, and it is served where the
  second cell would have come to another one.
-/
theorem kept_value_without_room :
    let sheet := catching 2
    let session :=
      (((sheet.memoizing true).respond
        (.evaluate ⟨0, 0⟩)).run .start).2
    (∀ cell, ¬sheet.grid.IsRandomAt cell) ∧
    (∀ index,
      sheet.surroundings.clock index =
        sheet.surroundings.clock 0) ∧
    (((sheet.memoizing true).respond
        (.evaluate ⟨0, 1⟩)).run session).1 =
      .value (.ok (.text "x")) ∧
    (sheet.memoizing false).result ⟨⟨0, 1⟩, .start⟩ =
      .ok (.text "y") := by
  intro sheet session
  have hKept :
      (sheet.memoizing true).result
          ⟨⟨0, 1⟩, session.progress⟩ =
        .ok (.text "x") := by
    decide +kernel
  have hOwn :
      (sheet.memoizing false).result ⟨⟨0, 1⟩, .start⟩ =
        .ok (.text "y") := by
    decide +kernel
  refine ⟨not_isRandomAt_catching 2, fun _ => rfl, ?_, hOwn⟩
  rw [respond_evaluate, hKept]

end Sheet

end Spreadsheet
