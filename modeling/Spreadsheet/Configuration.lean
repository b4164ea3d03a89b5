import Spreadsheet.Settings
import Spreadsheet.Yaml.Reading

/-
  Configuration files.

  A configuration is named by the path of a file or of the
  directory that holds it.  It is read with the defaults for
  what it does not give, and an empty one gives nothing.  How
  the document is read off the text of a file is left open.

  Key definitions include:
    * `Spreadsheet.Place`
    * `Spreadsheet.Place.ofBytes`
    * `Spreadsheet.ConfigurationFault`
    * `Spreadsheet.DocumentReader`
    * `Spreadsheet.Configuration.ofDocument`
    * `Spreadsheet.Configuration.ofText`
    * `Spreadsheet.Configuration.loadBy`
-/

------------------------------------------------------------
-- Faults
------------------------------------------------------------

namespace Spreadsheet

/- Why there is no configuration. -/
inductive ConfigurationFault where
  | notFound (path : String)
  | isDirectory (path : String)
  | undecodable (fault : Text.DecodingFault)
  | noMapping (path : String)
  | unreadable (fault : YamlFault)
  | wrong (fault : SettingFault)
deriving Repr

namespace YamlFault

/- The message of a fault; there may be nothing to tell. -/
def message :
    YamlFault → String
  | malformed => ""
  | tooManyDigits digits => Text.overlongMessage digits
  | invalid message => message

end YamlFault

namespace ConfigurationFault

/- The message of a fault. -/
def message :
    ConfigurationFault → String
  | notFound path => "Config file not found: " ++ path
  | isDirectory path =>
      "[Errno 21] Is a directory: " ++
        String.ofList (Text.quoted path.toList)
  | undecodable fault => fault.message
  | noMapping path =>
      path ++ ": expected a mapping at the top level"
  | unreadable fault => fault.message
  | wrong fault => fault.message

end ConfigurationFault

end Spreadsheet

------------------------------------------------------------
-- Reading Configurations
------------------------------------------------------------

namespace Spreadsheet

/- The document that is read off a text, or why there is none. -/
abbrev DocumentReader :=
  List Char → Except YamlFault (Document Key)

namespace Configuration

/- A configuration that has the settings it needs. -/
def checked
    (configuration : Configuration) :
    Except ConfigurationFault Configuration :=
  match Settings.ofConfiguration configuration with
  | .ok _ => .ok configuration
  | .error fault => .error (.wrong fault)

/- The configuration that a document gives. -/
def ofDocument
    (path : String)
    (document : Document Key) :
    Except ConfigurationFault Configuration :=
  if document.isNothing then
    checked defaults
  else
    match document with
    | .map entries => checked (ofEntries entries)
    | _ => .error (.noMapping path)

/- A text whose lines all end with a line feed. -/
def withLineFeeds :
    List Char → List Char
  | [] => []
  | '\r' :: '\n' :: rest => '\n' :: withLineFeeds rest
  | c :: rest =>
      (if c = '\r' then '\n' else c) :: withLineFeeds rest

/- The configuration that the text of a file gives. -/
def ofText
    (read : DocumentReader)
    (path : String)
    (text : List Char) :
    Except ConfigurationFault Configuration := do
  let document ←
    (read (withLineFeeds text)).mapError
      ConfigurationFault.unreadable
  ofDocument path document

end Configuration

end Spreadsheet

------------------------------------------------------------
-- Paths
------------------------------------------------------------

namespace Spreadsheet

/- What a path leads to; a file may hold no text. -/
inductive Place where
  | missing
  | directory
  | file (text : List Char)
  | undecodable (fault : Text.DecodingFault)
deriving Repr

/- A file that holds bytes. -/
def Place.ofBytes
    (bytes : List UInt8) :
    Place :=
  match Text.ofBytes bytes with
  | .ok text => .file text
  | .error fault => .undecodable fault

/- What each path leads to. -/
abbrev Files := String → Place

namespace Configuration

/- The name of a configuration file in its directory. -/
def fileName : String := "gridcalc.yaml"

/- The parts of a path between slashes. -/
def slashParts :
    List Char → List (List Char)
  | [] => [[]]
  | '/' :: rest => [] :: slashParts rest
  | c :: rest =>
      match slashParts rest with
      | [] => [[c]]
      | part :: parts => (c :: part) :: parts

/- What stands in front of the first part of a path. -/
def pathRoot :
    List Char → String
  | '/' :: '/' :: '/' :: _ => "/"
  | '/' :: '/' :: _ => "//"
  | '/' :: _ => "/"
  | _ => ""

/- A path without the parts that lead nowhere else. -/
def plainPath
    (path : String) :
    String :=
  let parts := (slashParts path.toList).filter fun part =>
    !part.isEmpty && part ≠ ['.']
  let shown :=
    pathRoot path.toList ++
      "/".intercalate (parts.map String.ofList)
  if shown.isEmpty then "." else shown

/- The path of a file in a directory. -/
def pathInside
    (directory name : String) :
    String :=
  if directory = "." then
    name
  else if directory.toList.getLast? = some '/' then
    directory ++ name
  else
    directory ++ "/" ++ name

/- The configuration in a file at a path. -/
def ofPlace
    (read : DocumentReader)
    (path : String) :
    Place → Except ConfigurationFault Configuration
  | .missing => .error (.notFound path)
  | .directory => .error (.isDirectory path)
  | .file text => ofText read path text
  | .undecodable fault => .error (.undecodable fault)

/-
  The configuration at a path.  Without a path, and in a
  directory without a file, it is that of the defaults.
-/
def loadBy
    (read : DocumentReader)
    (files : Files)
    (path : Option String) :
    Except ConfigurationFault Configuration :=
  match path with
  | none => .ok defaults
  | some path =>
      let path := plainPath path
      match files path with
      | .directory =>
          let inside := pathInside path fileName
          match files inside with
          | .missing => .ok defaults
          | place => ofPlace read inside place
      | place => ofPlace read path place

/- The configuration at a path, read as YAML. -/
def load
    (files : Files)
    (path : Option String) :
    Except ConfigurationFault Configuration :=
  loadBy Document.ofYaml files path

end Configuration

end Spreadsheet
