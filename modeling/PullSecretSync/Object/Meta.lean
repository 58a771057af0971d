import PullSecretSync.Json.Record

/-!
# Object metadata

What the cluster keeps about every object: its name, namespace, version, labels, annotations and
the traces of those who manage it. Absent fields are not written, and times are written to the
whole second.
-/

namespace PullSecretSync

/-- The object that an object belongs to. -/
structure OwnerReference where
  apiVersion : String
  blockOwnerDeletion : Option Bool
  controller : Option Bool
  kind : String
  name : String
  uid : String

/-- A manager of some fields of an object. -/
structure ManagedFields where
  apiVersion : Option String
  fieldsType : Option String
  fieldsV1 : Option Json
  manager : Option String
  operation : Option String
  subresource : Option String
  time : Option Instant

/-- The metadata of an object. -/
structure ObjectMeta where
  annotations : Option (List (String × String)) := none
  creationTimestamp : Option Instant := none
  deletionGracePeriodSeconds : Option Int := none
  deletionTimestamp : Option Instant := none
  finalizers : Option (List String) := none
  generateName : Option String := none
  generation : Option Int := none
  labels : Option (List (String × String)) := none
  managedFields : Option (List ManagedFields) := none
  name : Option String := none
  space : Option String := none
  ownerReferences : Option (List OwnerReference) := none
  resourceVersion : Option String := none
  selfLink : Option String := none
  uid : Option String := none

namespace Json

/-- An array of encoded values. -/
def ofList {α : Type} (encode : α → Json) (values : List α) : Json := .arr (values.map encode)

/-- An object of encoded values. -/
def ofMap {α : Type} (encode : α → Json) (values : List (String × α)) : Json :=
  .obj (values.map fun (name, value) => (name, encode value))

/-- The text of an instant to the whole second. -/
def ofSeconds (time : Instant) : Json := .str (Rfc3339.formatSeconds time)

end Json

namespace OwnerReference

/-- The document of an owner. -/
def encode (owner : OwnerReference) : Json :=
  .obj ([("apiVersion", .str owner.apiVersion)] ++
    Json.optional "blockOwnerDeletion" (owner.blockOwnerDeletion.map .bool) ++
    Json.optional "controller" (owner.controller.map .bool) ++
    [("kind", .str owner.kind), ("name", .str owner.name), ("uid", .str owner.uid)])

/-- The fields of an owner. -/
def fields : Fields OwnerReference :=
  OwnerReference.mk <$>
    .orElse "apiVersion" .text "" <*>
    .optional "blockOwnerDeletion" .bool <*>
    .optional "controller" .bool <*>
    .orElse "kind" .text "" <*>
    .orElse "name" .text "" <*>
    .orElse "uid" .text ""

/-- The owner of a document. -/
def decoder : Decoder OwnerReference := .object "OwnerReference" fields

end OwnerReference

namespace ManagedFields

/-- The document of an entry. -/
def encode (entry : ManagedFields) : Json :=
  .obj (Json.optional "apiVersion" (entry.apiVersion.map .str) ++
    Json.optional "fieldsType" (entry.fieldsType.map .str) ++
    Json.optional "fieldsV1" entry.fieldsV1 ++
    Json.optional "manager" (entry.manager.map .str) ++
    Json.optional "operation" (entry.operation.map .str) ++
    Json.optional "subresource" (entry.subresource.map .str) ++
    Json.optional "time" (entry.time.map Json.ofSeconds))

/-- The fields of an entry. -/
def fields : Fields ManagedFields :=
  ManagedFields.mk <$>
    .optional "apiVersion" .text <*>
    .optional "fieldsType" .text <*>
    .optional "fieldsV1" .any <*>
    .optional "manager" .text <*>
    .optional "operation" .text <*>
    .optional "subresource" .text <*>
    .optional "time" .time

/-- The entry of a document. -/
def decoder : Decoder ManagedFields := .object "ManagedFieldsEntry" fields

end ManagedFields

namespace ObjectMeta

/-- The name that an object goes by: its own, else the one to be completed, else none. -/
def displayName (metadata : ObjectMeta) : String :=
  (metadata.name <|> metadata.generateName).getD ""

/-- The namespace of an object, empty when it has none. -/
def displaySpace (metadata : ObjectMeta) : String := metadata.space.getD ""

/-- The document of metadata. -/
def encode (metadata : ObjectMeta) : Json :=
  .obj (Json.optional "annotations" (metadata.annotations.map (Json.ofMap .str)) ++
    Json.optional "creationTimestamp" (metadata.creationTimestamp.map Json.ofSeconds) ++
    Json.optional "deletionGracePeriodSeconds" (metadata.deletionGracePeriodSeconds.map .int) ++
    Json.optional "deletionTimestamp" (metadata.deletionTimestamp.map Json.ofSeconds) ++
    Json.optional "finalizers" (metadata.finalizers.map (Json.ofList .str)) ++
    Json.optional "generateName" (metadata.generateName.map .str) ++
    Json.optional "generation" (metadata.generation.map .int) ++
    Json.optional "labels" (metadata.labels.map (Json.ofMap .str)) ++
    Json.optional "managedFields" (metadata.managedFields.map (Json.ofList ManagedFields.encode)) ++
    Json.optional "name" (metadata.name.map .str) ++
    Json.optional "namespace" (metadata.space.map .str) ++
    Json.optional "ownerReferences"
      (metadata.ownerReferences.map (Json.ofList OwnerReference.encode)) ++
    Json.optional "resourceVersion" (metadata.resourceVersion.map .str) ++
    Json.optional "selfLink" (metadata.selfLink.map .str) ++
    Json.optional "uid" (metadata.uid.map .str))

/-- The fields of metadata. -/
def fields : Fields ObjectMeta :=
  ObjectMeta.mk <$>
    .optional "annotations" (.map .text) <*>
    .optional "creationTimestamp" .time <*>
    .optional "deletionGracePeriodSeconds" .int64 <*>
    .optional "deletionTimestamp" .time <*>
    .optional "finalizers" (.list .text) <*>
    .optional "generateName" .text <*>
    .optional "generation" .int64 <*>
    .optional "labels" (.map .text) <*>
    .optional "managedFields" (.list ManagedFields.decoder) <*>
    .optional "name" .text <*>
    .optional "namespace" .text <*>
    .optional "ownerReferences" (.list OwnerReference.decoder) <*>
    .optional "resourceVersion" .text <*>
    .optional "selfLink" .text <*>
    .optional "uid" .text

/-- The metadata of a document. -/
def decoder : Decoder ObjectMeta := .object "ObjectMeta" fields

end ObjectMeta

end PullSecretSync
