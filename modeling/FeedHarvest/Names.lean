import FeedHarvest.Text.Lower

/-!
# Names of search resources

Each version of an interface has a pipeline and an index of its own in the search engine. Their
names join the environment, the namespace, the kind of resource, the interface and the version; an
index name is in lower case and uses another separator, since the engine allows neither capitals nor
colons there.
-/

namespace FeedHarvest

/-- What all names begin with. -/
structure Naming where
  environment : String
  /-- The namespace within the environment. -/
  space : String
deriving DecidableEq, Repr, Inhabited

namespace Naming

def parts (n : Naming) (kind api : String) (version : Nat) : List String :=
  [n.environment, n.space, kind, api, "v" ++ toString version]

def pipelineId (n : Naming) (api : String) (version : Nat) : String :=
  ":".intercalate (n.parts "pipelines" api version)

def indexName (n : Naming) (api : String) (version : Nat) : String :=
  Text.lower ("-".intercalate (n.parts "api_models" api version))

end Naming

end FeedHarvest
