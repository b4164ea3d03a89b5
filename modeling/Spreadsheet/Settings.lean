import Spreadsheet.Json.Written

/-
  Settings.

  A configuration is a map with an entry for each setting and
  possibly others.  It is valid if each setting has a value of
  its kind; the settings are then read off it.

  Key definitions include:
    * `Spreadsheet.Settings`
    * `Spreadsheet.SettingFault`
    * `Spreadsheet.Configuration.defaults`
    * `Spreadsheet.Configuration.ofEntries`
    * `Spreadsheet.Settings.ofConfiguration`
-/

------------------------------------------------------------
-- Settings
------------------------------------------------------------

namespace Spreadsheet

/-
  The settings of a sheet and of its log: how deep a chain of
  references may be, how many decimal places are shown,
  whether values of cells are kept, whether the log is forced
  to disk and how much of its end is read.
-/
structure Settings where
  maxDepth : Nat
  displayDecimals : Nat
  memoize : Bool
  loggingFsync : Bool
  loggingTailBytes : Nat
deriving DecidableEq, Repr

/- The names of the settings. -/
inductive Setting where
  | maxDepth
  | displayDecimals
  | memoize
  | loggingFsync
  | loggingTailBytes
deriving DecidableEq, Repr

/- A setting with a value that is not of its kind. -/
structure SettingFault where
  setting : Setting
  given : Document Key
deriving Repr

end Spreadsheet

------------------------------------------------------------
-- Names And Messages
------------------------------------------------------------

namespace Spreadsheet

namespace Setting

/- The name of a setting in a configuration. -/
def name :
    Setting → String
  | maxDepth => "max_depth"
  | displayDecimals => "display_decimals"
  | memoize => "memoize"
  | loggingFsync => "logging_fsync"
  | loggingTailBytes => "logging_tail_bytes"

/- The values that a setting may have, in words. -/
def requirement :
    Setting → String
  | maxDepth => "a positive integer"
  | displayDecimals => "an integer in 0..15"
  | memoize => "true or false"
  | loggingFsync => "true or false"
  | loggingTailBytes => "a positive integer"

end Setting

namespace SettingFault

/-
  The message of a setting with a wrong value, unless that
  holds a whole number that is not written.
-/
def message
    (fault : SettingFault) :
    String :=
  if fault.given.isWritable then
    fault.setting.name ++ " must be " ++
      fault.setting.requirement ++ ", got " ++
      String.ofList fault.given.shown
  else
    Text.unwritableMessage

end SettingFault

end Spreadsheet

------------------------------------------------------------
-- Configurations
------------------------------------------------------------

namespace Spreadsheet

/- A map with settings and possibly other entries. -/
abbrev Configuration := Entries Key

namespace Configuration

/- How much of the end of a log is read by default. -/
def defaultTailBytes : Nat := 2097152

/- The configuration where nothing is given. -/
def defaults : Configuration :=
  [
    (Setting.maxDepth.name, .whole 2000),
    (Setting.displayDecimals.name, .whole 10),
    (Setting.memoize.name, .truth false),
    (Setting.loggingFsync.name, .truth false),
    (Setting.loggingTailBytes.name, .whole defaultTailBytes)
  ]

/- Given entries with the defaults where none is given. -/
def ofEntries
    (given : Entries Key) :
    Configuration :=
  defaults.merge given

end Configuration

end Spreadsheet

------------------------------------------------------------
-- Valid Settings
------------------------------------------------------------

namespace Spreadsheet

namespace Setting

/- The most decimal places that can be shown. -/
def mostDecimals : Nat := 15

/- The value of a setting in a configuration. -/
def given
    (setting : Setting)
    (configuration : Configuration) :
    Document Key :=
  (configuration.get? setting.name).getD .null

/- The value of a setting that is a positive number. -/
def positive
    (setting : Setting)
    (configuration : Configuration) :
    Except SettingFault Nat :=
  match setting.given configuration with
  | .whole (.ofNat (n + 1)) => .ok (n + 1)
  | document => .error ⟨setting, document⟩

/- The value of a setting that is a truth value. -/
def truth
    (setting : Setting)
    (configuration : Configuration) :
    Except SettingFault Bool :=
  match setting.given configuration with
  | .truth b => .ok b
  | document => .error ⟨setting, document⟩

/- The value of a setting that is a number of places. -/
def places
    (setting : Setting)
    (configuration : Configuration) :
    Except SettingFault Nat :=
  match setting.given configuration with
  | .whole (.ofNat n) =>
      if n ≤ mostDecimals then
        .ok n
      else
        .error ⟨setting, .whole (.ofNat n)⟩
  | document => .error ⟨setting, document⟩

end Setting

namespace Settings

/-
  The settings of a configuration.  Of several wrong values
  the first in the order of the checks is the fault.
-/
def ofConfiguration
    (configuration : Configuration) :
    Except SettingFault Settings := do
  let maxDepth ← Setting.maxDepth.positive configuration
  let loggingTailBytes ←
    Setting.loggingTailBytes.positive configuration
  let memoize ← Setting.memoize.truth configuration
  let loggingFsync ← Setting.loggingFsync.truth configuration
  let displayDecimals ←
    Setting.displayDecimals.places configuration
  return {
    maxDepth
    displayDecimals
    memoize
    loggingFsync
    loggingTailBytes
  }

end Settings

end Spreadsheet
