import PullSecretSync.Object.Meta

/-!
# Secrets

A secret holds named bytes. Its document always carries its kind; the other fields are written
when they are there.
-/

namespace PullSecretSync

/-- A secret of the cluster. -/
structure Secret where
  metadata : ObjectMeta := {}
  data : Option (List (String × List UInt8)) := none
  immutable : Option Bool := none
  stringData : Option (List (String × String)) := none
  type : Option String := none

namespace Secret

/-- The name that a secret goes by. -/
def displayName (secret : Secret) : String := secret.metadata.displayName

/-- The namespace of a secret, empty when it has none. -/
def displaySpace (secret : Secret) : String := secret.metadata.displaySpace

/-- How logs name a secret. -/
def path (secret : Secret) : String := secret.displaySpace ++ "/" ++ secret.displayName

/-- The document of a secret. -/
def encode (secret : Secret) : Json :=
  .obj ([("apiVersion", .str "v1")] ++
    Json.optional "data" (secret.data.map (Json.ofMap fun bytes => .str (Base64.text bytes))) ++
    Json.optional "immutable" (secret.immutable.map .bool) ++
    [("kind", .str "Secret"), ("metadata", secret.metadata.encode)] ++
    Json.optional "stringData" (secret.stringData.map (Json.ofMap .str)) ++
    Json.optional "type" (secret.type.map .str))

/-- The fields of a secret. -/
def fields : Fields Secret :=
  .constant "apiVersion" "v1" *>
  .constant "kind" "Secret" *>
  (Secret.mk <$>
    .orElse "metadata" ObjectMeta.decoder {} <*>
    .optional "data" (.map .bytes) <*>
    .optional "immutable" .bool <*>
    .optional "stringData" (.map .text) <*>
    .optional "type" .text)

/-- The secret of a document. -/
def decoder : Decoder Secret := .object "Secret" fields

end Secret

end PullSecretSync
