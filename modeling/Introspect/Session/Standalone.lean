import Introspect.Session.Literal
import Introspect.Storage.ChainText
import Introspect.Vocabulary

/-!
# Questions that need no session

* `VersionReport`       what a version means for the storage of variants;
* `vocabularyAnswer`    the member of a vocabulary that a value means;
* `finalAnswers`        whether annotations declare constants;
* `settingsAnswer`      settings, and which of some names are internal under them;
* `logLines`            what a console shows of some entries.
-/

namespace Introspect

/-- how values are shown outside of a session -/
def standaloneView : Surroundings := ({} : Session).view

structure VersionReport where
  layout : Except Fault Layout
  /-- the reader of the version itself -/
  reader : Except Fault Layout
  /-- the reader of an inspection under the version, which may be left open -/
  inspection : Except Fault Layout

/-- what a version means for the storage of variants -/
def VersionReport.of (version : Value) : VersionReport where
  layout := Layout.ofVersion .base version
  reader := Layout.ofVersion .base version
  inspection := Layout.ofVersionOrCurrent .base version

def memberName (word : String) : String := word.toUpper

/-- the name of the member of a vocabulary that a value means -/
def memberAnswer {α : Type} (vocabulary : Vocabulary α) (v : Value) : Except Fault Answer :=
  (vocabulary.read standaloneView v).map fun _ => .text (memberName ((v.str?).getD ""))

def vocabularyAnswer (vocabulary : String) (v : Value) : Except Fault Answer :=
  match vocabulary with
  | "constness" => memberAnswer Constness.vocabulary v
  | "mutability" => memberAnswer Mutability.vocabulary v
  | "layout" => memberAnswer Layout.vocabulary v
  | other => .error (.noKey (Text.quoted other))

def finalAnswers (ls : List Literal) : Except Fault Answer :=
  match (Literal.values ls).run {} with
  | (.error e, _) => .error e
  | (.ok vs, _) => (vs.mapM (Value.isFinal .base)).map fun bs => .list (bs.map Answer.bool)

/-- the names that a source text declares final, in order -/
def finalNamesAnswer (source : String) : Except Fault Answer :=
  (Source.finalNames Interpreter.standard.characters source).map fun names =>
    Answer.texts (Source.sortedNames names)

def settingsAnswer (s : Settings) (names : List String) : Answer :=
  .record [(Setting.internalPrefix.key, .text s.internalPrefix),
    (Setting.includeFoundational.key, .bool s.includeFoundational),
    (Setting.includeImported.key, .bool s.includeImported),
    (Setting.foundationalModules.key, Answer.texts s.foundationalModules),
    ("internal", .list (names.map fun n => .bool (s.isInternal n)))]

/-- settings that are loaded for an inspection below a place of a directory tree -/
def loadedSettings (d : Directory) (place : List String) (given : GivenSettings) :
    Except Fault Settings :=
  Settings.loadFrom .standard .base d (Path.resolved? place) given

def logLines (entries : List Console.Entry) : Except Fault Answer :=
  (Console.Output.writeEntries {} entries).map fun o => Answer.texts o.lines

end Introspect
