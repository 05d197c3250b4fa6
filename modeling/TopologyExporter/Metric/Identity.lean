import TopologyExporter.Text.Labels

/-!
# The director's identity

Which director an exporter reports on. Every metric carries it as constant labels.
-/

namespace TopologyExporter

/-- The environment, name and identifier of a director. -/
structure DirectorIdentity where
  environment : String
  name : String
  uuid : String
deriving Repr, DecidableEq, Inhabited

/-- The identity as labels. -/
def DirectorIdentity.constLabels (d : DirectorIdentity) : Labels :=
  .ofList [("environment", d.environment), ("bosh_name", d.name), ("bosh_uuid", d.uuid)]

end TopologyExporter
