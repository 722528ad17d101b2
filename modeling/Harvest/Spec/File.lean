import Harvest.Spec.Text
import Harvest.Spec.Yaml
import Harvest.Text.Utf8
/-!
# Spec files

A file holds a spec as JSON or as YAML, as the extension of its name says.
-/
namespace Harvest.Spec

/-- What is behind the last dot of a file's name, unless the dot starts the name. -/
def extension? (name : String) : Option String :=
  let behind := name.toList.reverse.takeWhile (· != '.')
  if behind.length + 1 < name.length then some (String.ofList behind.reverse) else none

/-- The spec of a file of a name in a folder; `content` is missing where the file cannot be read.  A file that cannot
be read as a text is the first thing to complain about. -/
def load (folder name : String) (content : Option (List UInt8)) : Except ExtractError Spec :=
  match content.bind Text.Utf8.toString? with
  | none => .error (.unreadable (folder ++ "/" ++ name))
  | some text =>
    match extension? name with
    | some "json" => parse text
    | some "yaml" | some "yml" => ofYaml text
    | other => .error (.decode (.fileExtension (other.getD "") (folder ++ "/" ++ name)))

end Harvest.Spec
