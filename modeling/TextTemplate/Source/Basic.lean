import TextTemplate.Codec.Encoding
import TextTemplate.Log
import TextTemplate.Source.FileSystem
import TextTemplate.Value.Basic
/-!
# Sources of templates

Template texts come from memory or from files. A source is asked for the text at a path; it
remembers the paths it was asked for, in order, and otherwise only changes when it is written to.

In memory a path may be broken: asking for it fails with a given reason, whatever text it has, until
it is written again. Files are read in one encoding, which is known by its name only: whether there
is such an encoding matters first when a file has been opened. The bytes are decoded as they are, so
line ends and marks are part of the text.
-/

namespace TextTemplate

/-- Why nothing is rendered: a template fails, what was asked for makes no sense to the files, or a
value of the data is not shown. -/
inductive RenderFailure where
  | template (failure : TemplateFailure)
  /-- The path holds the null character, which no file name can. -/
  | nullInPath
  /-- The path holds a character that cannot be written in file names. -/
  | unwritablePath
  /-- The name of the encoding holds the null character, which no name of one can. -/
  | nullInEncoding
  /-- Nothing decodes bytes in the encoding. -/
  | noDecoder (reason : Text)
  /-- The decoder fails in a way of its own, which says nothing of the bytes. -/
  | decoderFailed (reason : Text)
  /-- The encoding was given as something else than a text. -/
  | encodingNotText
  | value (failure : ShowFailure)
  deriving DecidableEq, Repr

namespace RenderFailure

/-- The failure in words, if it has any of its own. -/
def message? : RenderFailure → Option Text
  | .template failure => some failure.message
  | .nullInPath => some "embedded null byte".toList
  | .nullInEncoding => some "embedded null character".toList
  | .noDecoder reason | .decoderFailed reason => some reason
  | .unwritablePath | .encodingNotText => none
  | .value failure => some failure.message

end RenderFailure

structure Memory where
  texts : Table Text
  /-- The reasons why paths are broken. -/
  broken : Table Text

namespace Memory

def ofTexts (texts : Table Text) : Memory := ⟨texts, .empty⟩

def read (memory : Memory) (path : Text) : Except RenderFailure Text :=
  match memory.broken.find? path with
  | some reason => .error (.template (.unreadable path reason))
  | none =>
    match memory.texts.find? path with
    | some text => .ok text
    | none => .error (.template (.notFound path))

/-- Memory with a text at a path, which is no longer broken. -/
def write (memory : Memory) (path text : Text) : Memory :=
  ⟨memory.texts.put path text, memory.broken.erase path⟩

def remove (memory : Memory) (path : Text) : Memory :=
  { memory with texts := memory.texts.erase path }

def breakPath (memory : Memory) (path reason : Text) : Memory :=
  { memory with broken := memory.broken.put path reason }

end Memory

structure Files where
  system : FileSystem
  /-- The encodings that are known besides those described here. -/
  codecs : Codecs
  /-- The name of the encoding, unless it was given as something else than a text. -/
  encoding : Option Text

namespace Files

/-- The text of bytes in the encoding of a name. -/
def decode (codecs : Codecs) (path name : Text) (bytes : List UInt8) : Except RenderFailure Text :=
  match Encoding.decoder codecs name with
  | .error reason => .error (.noDecoder reason)
  | .ok decoder =>
    match decoder bytes with
    | .text text => .ok text
    | .invalid => .error (.template (.unreadable path ("not valid ".toList ++ name)))
    | .failed reason => .error (.decoderFailed reason)

/-- What comes of a path at which no file was opened. -/
def refuse (path opened : Text) (failure : OpenFailure) : Logged (Except RenderFailure Text) :=
  if failure.isAbsence then .quiet (.error (.template (.notFound path)))
  else
    ⟨[.unopened path (failure.account opened)],
      .error (.template (.unreadable path (failure.reason opened)))⟩

/-- The text of the file at a path. -/
def read (files : Files) (path : Text) : Logged (Except RenderFailure Text) :=
  match files.encoding with
  | none => .quiet (.error .encodingNotText)
  | some name =>
    if name.contains '\x00' then .quiet (.error .nullInEncoding)
    else if !files.system.canWrite path then .quiet (.error .unwritablePath)
    else if path.contains '\x00' then .quiet (.error .nullInPath)
    else
      let location := Location.ofText path
      match files.system.open? location with
      | .ok bytes => .quiet (decode files.codecs path name bytes)
      | .error failure => refuse path location.text failure

end Files

/-- Where texts are kept. -/
inductive Store where
  | memory (memory : Memory)
  | files (files : Files)

namespace Store

def read : Store → Text → Logged (Except RenderFailure Text)
  | .memory kept, path => .quiet (kept.read path)
  | .files kept, path => kept.read path

inductive Change where
  | write (path text : Text)
  | writeBytes (path : Text) (content : List UInt8)
  | remove (path : Text)
  /-- The path is broken from now on, for a reason. -/
  | breakPath (path reason : Text)

/-- Memory after a change; it holds no bytes. -/
def changeMemory (kept : Memory) : Change → Memory
  | .write path text => kept.write path text
  | .writeBytes _ _ => kept
  | .remove path => kept.remove path
  | .breakPath path reason => kept.breakPath path reason

/-- The files after a change. A text is written in UTF-8, and no file can be broken. -/
def changeSystem (system : FileSystem) : Change → FileSystem
  | .write path text => system.write (.ofText path) (Utf8.encode text)
  | .writeBytes path content => system.write (.ofText path) content
  | .remove path => system.remove (.ofText path)
  | .breakPath _ _ => system

def change (change : Change) : Store → Store
  | .memory kept => .memory (changeMemory kept change)
  | .files kept => .files { kept with system := changeSystem kept.system change }

end Store

/-- A store that is asked for texts. -/
structure Source where
  store : Store
  /-- The paths it was asked for, the latest first. -/
  asked : List Text

namespace Source

def ofStore (store : Store) : Source := ⟨store, []⟩

/-- Asks for the text at a path. -/
def read (source : Source) (path : Text) : Source × Logged (Except RenderFailure Text) :=
  ({ source with asked := path :: source.asked }, source.store.read path)

/-- The paths it was asked for, in order. -/
def requests (source : Source) : List Text := source.asked.reverse

/-- The source after a change of what is kept. -/
def change (source : Source) (change : Store.Change) : Source :=
  { source with store := source.store.change change }

end Source

end TextTemplate
