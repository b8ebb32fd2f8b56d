import CHeaders.Json.Reader
import CHeaders.Json.Writer
import CHeaders.Plan.Document
import CHeaders.Text.Encoding
import CHeaders.Yaml.Reader
import CHeaders.Yaml.Writer

/-!
# Stored plans

Plans are stored as documents in JSON or in YAML. A file whose name ends in `.json` holds JSON, any
other file holds YAML. Whatever is no document is refused with the name of the operation.

## Main definitions

* `CHeaders.Plan.toJson`, `CHeaders.Plan.ofJson`: plans in JSON.
* `CHeaders.Plan.toYaml`, `CHeaders.Plan.ofYaml`: plans in YAML.
* `CHeaders.Plan.ofFile`: the plan in a file.
-/

namespace CHeaders.Plan

/-- The plan as a document in JSON. -/
def toJson (p : Plan) : Except Fault String := do
  Json.write (← p.toDocument)

/-- The plan as a document in YAML. -/
def toYaml (p : Plan) : Except Fault String := do
  Yaml.write (← p.toDocument)

/-- The plan in what has been read of the JSON text `t`. -/
def ofJsonResult (t : Text) (r : Except Json.Fault Value) : Except Fault Plan :=
  match r with
  | .ok d => ofDocument d
  | .error (.malformed defect remaining) =>
    .error (.refused .plan "plan_from_json" "a JSON document" (.text (defect.message remaining t)))
  | .error (.tooManyDigits count) => .error (.tooManyDigits (some count))

/-- The plan in a JSON text. -/
def ofJsonText (t : Text) : Except Fault Plan :=
  ofJsonResult t (Json.parse t)

/-- The plan in a value that has to be a JSON text or its bytes. -/
def ofJson (v : Value) : Except Fault Plan :=
  match v with
  | .text t | .fragment t => ofJsonText t
  | .bytes bytes =>
    match Json.decode bytes with
    | .ok t => ofJsonResult t (Json.parseDecoded t)
    | .error f => .error (.notDecodable f)
  | _ => .error (.notJsonText v.kind)

/-- The refusal of what is no document in YAML. -/
def notYamlDocument (what : String) : Fault :=
  .refused .plan "plan_from_yaml" "a YAML document" (.text what)

/-- The plan in a YAML text. -/
def ofYamlText (t : Text) : Except Fault Plan :=
  match Yaml.parse t with
  | .ok d => ofDocument d
  | .error (.malformed what) => .error (notYamlDocument what)
  | .error (.value f) => .error f

/-- The plan in a value that has to be a YAML text or its bytes. -/
def ofYaml (v : Value) : Except Fault Plan :=
  match v with
  | .text t | .fragment t => ofYamlText t
  | .bytes bytes =>
    match Yaml.decode bytes with
    | .ok t => ofYamlText t
    | .error f => .error (notYamlDocument f.message)
  | _ => .error (.noAttribute v.kind "read")

/-- The plan in a file with the given name and bytes. -/
def ofFile (name : String) (bytes : List UInt8) : Except Fault Plan :=
  match Text.Utf8.decode false bytes with
  | .error f => .error (.notDecodable f)
  | .ok t =>
    let text := Text.unifyLineEnds t
    if ".json".toList.isSuffixOf name.toList then ofJsonText text else ofYamlText text

end CHeaders.Plan
