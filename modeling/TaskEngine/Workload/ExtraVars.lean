import TaskEngine.Cluster.Pod
import TaskEngine.Json.Printer
import TaskEngine.Json.Reader
import TaskEngine.Text.Blank

/-!
# Input of workloads

The input of a launch reaches the main container as one environment variable that holds JSON text.
Definitions of scheduled jobs and deployments hold their input as an object, which is written on the
way to the container and read back from there. No input, blank input and the empty object leave the
variable out.
-/

namespace TaskEngine.ExtraVars

/-- The variable that holds the input. -/
def variableName : String := "EXTRA_VARS"

/-- The JSON text of the input of a definition. -/
def encode (vars : Option (Dict Json)) : Option String :=
  match vars with
  | some vars => if vars.isEmpty then none else some (Json.ofDict vars).compact
  | none => none

/-- The input that a JSON text holds, if that is an object. -/
def decode (text : String) : Option (Dict Json) := (Json.read? text).bind Json.dict?

/-- The environment that hands an input to a container. -/
def environment (vars : Option String) : Option (List Cluster.EnvVar) :=
  match vars with
  | some text => if Text.isBlank text then none else some [{ name := variableName, value := text }]
  | none => none

/-- The text of the input that a template hands to its containers. -/
def ofTemplate (template : Cluster.PodTemplate) : Option String :=
  let containers := (template.spec.getD {}).containers
  let entries := containers.flatMap fun c => c.env.getD []
  (entries.find? fun v => v.name = variableName).bind (·.value)

end TaskEngine.ExtraVars
