/-
# Settings from a document or a file

A document is read whole before its values are looked at, so that a text that is no document is
told apart from a document that does not fit.  A word in the shape of a number that stands for none
does no harm as long as nobody asks for its value; but a text with such a word counts as no
document if it makes no settings, whatever else is wrong with it.  A file is a document if it is
there and holds text.
Where the settings of a file are wanted at any price, a file that yields none yields the defaults,
and nothing of what it says is taken over.
-/
import HttpMock.Settings.Table
import HttpMock.Toml.Document

namespace HttpMock

/-- Why a document or a file yields no settings. -/
inductive SettingsError
  /-- There is no file at a path. -/
  | fileMissing (path : String)
  /-- The file at a path holds no text. -/
  | fileNotText (path : String)
  /-- The text is no document. -/
  | notADocument
  /-- The document does not fit. -/
  | misfit (m : Misfit)

namespace SettingsError

/-- The wording of the error; what is wrong with a text that is no document is not told. -/
def message : SettingsError → String
  | fileMissing path => "failed to read " ++ path ++ ": No such file or directory (os error 2)"
  | fileNotText path => "failed to read " ++ path ++ ": stream did not contain valid UTF-8"
  | notADocument => "failed to deserialize config: not a TOML document"
  | misfit m => "failed to deserialize config: " ++ m.message

end SettingsError

namespace Settings

/-- The settings that a document makes. -/
def ofDocument (text : String) : Except SettingsError Settings :=
  match Toml.read? text with
  | none => .error .notADocument
  | some table =>
    match ofTable table with
    | .ok s => .ok s
    | .error m =>
      .error (if Toml.hasReadableEntries table then .misfit m else .notADocument)

/-- The settings in the file at a path, which holds some bytes if it is there. -/
def ofFile (path : String) (content : Option ByteArray) : Except SettingsError Settings :=
  match content with
  | none => .error (.fileMissing path)
  | some bytes =>
    match String.fromUTF8? bytes with
    | none => .error (.fileNotText path)
    | some text => ofDocument text

/-- The settings in a file, or the defaults where it yields none. -/
def ofFileOrDefault (path : String) (content : Option ByteArray) : Settings :=
  match ofFile path content with
  | .ok s => s
  | .error _ => default

end Settings
end HttpMock
