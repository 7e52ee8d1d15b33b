import TaskEndpoints.Container.Basic
import TaskEndpoints.Value.Elements

/-!
# Metadata

The objects that describe a container and a task. What the engine does not tell is filled in: the
status is always that of a running container, and the start is the creation. Lists and maps without
elements are left out. Fields of one's own replace generated ones in place, and new ones follow them.
-/

namespace TaskEndpoints

/-- Why there is no metadata. -/
inductive MetadataError where
  | calendar (e : CalendarError)
  /-- The tags of the task are no mapping. -/
  | tags (e : EntriesError)
deriving DecidableEq, Repr

/-- The wording of each cause. -/
def MetadataError.message : MetadataError → String
  | .calendar e => e.message
  | .tags e => e.message

namespace Metadata

/-- The status of everything that is described. -/
def running : Value := .text "RUNNING"

/-- A field with a name. -/
def item (name : String) (v : Value) : Value × Value := (.text name, v)

/-- A field that is left out if its value counts as false. -/
def optional (name : String) (v : Value) : Fields := if v.isTruthy then [item name v] else []

end Metadata

open Metadata

/-- The object for a port. -/
def Port.metadata (p : Port) : Value :=
  .map ([item "ContainerPort" (.int p.inner), item "Protocol" p.protocol]
    ++ optional "HostPort" (.int p.outer))

/-- A field for an address, as a list with one element. -/
def Metadata.addressField (name : String) (address : Value) : Fields :=
  if address.isTruthy then [item name (.list [address])] else []

/-- The object for an attachment to a network. -/
def Attachment.metadata (network : String) (a : Attachment) : Value :=
  .map (item "NetworkMode" (.text network)
    :: (addressField "IPv4Addresses" (.text a.address) ++ addressField "IPv6Addresses" a.address6))

/-- The object for a mounted volume. -/
def Mount.metadata (m : Mount) : Value :=
  .map [item "DockerName" m.name, item "Source" m.source, item "Destination" m.destination]

namespace Container

/-- The generated fields that every container has, for a published creation time. -/
def fixedFields (c : Container) (created : String) : Fields := [
  item "DockerId" (.text c.id), item "Name" (.text c.displayName),
  item "DockerName" (.text c.displayName), item "Image" c.image, item "ImageID" c.imageId,
  item "DesiredStatus" running, item "KnownStatus" running, item "CreatedAt" (.text created),
  item "StartedAt" (.text created), item "Type" (.text "NORMAL")]

/-- The generated fields that a container may lack. -/
def optionalFields (c : Container) : Fields :=
  optional "Ports" (.list (c.ports.map Port.metadata))
    ++ optional "Labels" (.map c.labels)
    ++ optional "Networks" (.list (c.attachments.map fun (name, a) => a.metadata name))
    ++ optional "Volumes" (.list (c.mounts.map Mount.metadata))

/-- The metadata of a container. -/
def metadata (overrides : Fields) (c : Container) : Except MetadataError Value :=
  match unixTimeText c.created with
  | .error e => .error (.calendar e)
  | .ok created => .ok (.map (Assoc.insertAll (c.fixedFields created ++ c.optionalFields) overrides))

end Container

namespace LocalTask

/-- A tag mapping among the settings of the task, as a field that is left out if there are no tags. -/
def tagField (settings : Fields) (name key : String) : Except MetadataError Fields :=
  let tags := Value.fieldOf settings key
  if tags.isTruthy then match tags.toEntries with
    | .ok entries => .ok [item name (.map entries)]
    | .error e => .error (.tags e)
  else .ok []

/-- The value of a setting of the task; a missing one is the empty text. -/
def describe (settings : Fields) (key : String) : Value :=
  (Assoc.get? settings (.text key)).getD (.text "")

/-- The generated fields of a task. -/
def fields (settings : Fields) (containerOverrides : Fields) (containers : List Container) :
    Except MetadataError Fields := do
  let described ← containers.mapM (·.metadata containerOverrides)
  let taskTags ← tagField settings "TaskTags" "task_tags"
  let instanceTags ← tagField settings "ContainerInstanceTags" "container_instance_tags"
  return [item "Cluster" (describe settings "cluster"), item "TaskARN" (describe settings "task_arn"),
    item "Family" (describe settings "family"), item "Revision" (describe settings "revision"),
    item "DesiredStatus" running, item "KnownStatus" running, item "Containers" (.list described)]
    ++ taskTags ++ instanceTags

/-- The metadata of a task. -/
def metadata (settings overrides containerOverrides : Fields) (containers : List Container) :
    Except MetadataError Value :=
  (fields settings containerOverrides containers).map fun generated =>
    .map (Assoc.insertAll generated overrides)

end LocalTask

end TaskEndpoints
