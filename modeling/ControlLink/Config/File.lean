/-
# ControlLink.Config.File — configuration files

A file holds one document, in YAML if its name ends in `.yaml` or `.yml` and in JSON otherwise. The
document of a configuration is a mapping.
-/
import ControlLink.Files
import ControlLink.Yaml.Document
import ControlLink.Yaml.Writer

namespace ControlLink.Config

set_option autoImplicit false

/-- The last part of a path, if it is a name. -/
def fileName? (path : String) : Option (List Char) :=
  let parts := (Text.fields '/' path.toList).filter fun part => !part.isEmpty && part != ['.']
  parts.getLast?.filter (· != ['.', '.'])

/-- What stands behind the last full stop of a name that does not start with it. -/
def extension? (name : List Char) : Option (List Char) :=
  let ending := name.reverse.takeWhile (· != '.')
  if ending.length + 1 < name.length then some ending.reverse else none

def isYaml (path : String) : Bool :=
  match (fileName? path).bind extension? with
  | some ending => ending == "yaml".toList || ending == "yml".toList
  | none => false

/-- The document in a file. -/
def parseFile (path : String) (content : Bytes) : Except FileFault Json :=
  match Text.Utf8.decode? content with
  | none => .error .notText
  | some text =>
    if isYaml path then (Yaml.parse text).mapError .yaml else (Json.parse content).mapError .json

/-- The configuration in a file. -/
def loadFile (path : String) (content : Bytes) : Except FileFault Json :=
  match parseFile path content with
  | .error fault => .error fault
  | .ok (.object members) => .ok (.object members)
  | .ok _ => .error .notMapping

/-- The configuration in a file of a directory. Whatever is wrong is told with the path. -/
def load (files : Files) (path : String) : Except RequestError Json :=
  (files.read path >>= loadFile path).mapError (.file path)

/-- The text of a configuration for a file or, without a path, for a terminal. -/
def renderFile (path : Option String) (document : Json) : List Char :=
  if path.any isYaml then Yaml.render document else document.pretty ++ ['\n']

end ControlLink.Config
