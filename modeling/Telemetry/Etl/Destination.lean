/-!
# Etl — destinations

Where a task sends its data, as far as its kind and its sub-kind tell.
Tasks of kind `Queue` are told apart by their broker.
-/

namespace Telemetry

namespace Etl

/-- The destination of a task. -/
inductive Destination where
  | raven
  | sql
  | olap
  | elasticSearch
  | kafka
  | rabbitMq
  | azureQueueStorage
  | amazonSqs
  | snowflake
  | other (label : String)
  deriving DecidableEq, Repr

namespace Destination

/-- The destination of a queue, by its broker. -/
def ofBroker : String → Destination
  | "Kafka" => .kafka
  | "RabbitMq" => .rabbitMq
  | "AzureQueueStorage" => .azureQueueStorage
  | "AmazonSqs" => .amazonSqs
  | broker => .other broker

/-- The destination of a kind of task. -/
def derive (kind : String) (subKind : Option String) : Destination :=
  match kind with
  | "Raven" => .raven
  | "Sql" => .sql
  | "Olap" => .olap
  | "ElasticSearch" => .elasticSearch
  | "Snowflake" => .snowflake
  | "Queue" => match subKind with
    | some broker => ofBroker broker
    | none => .other kind
  | kind => .other kind

/-- The name of the case. -/
def name : Destination → String
  | .raven => "Raven"
  | .sql => "Sql"
  | .olap => "Olap"
  | .elasticSearch => "ElasticSearch"
  | .kafka => "Kafka"
  | .rabbitMq => "RabbitMq"
  | .azureQueueStorage => "AzureQueueStorage"
  | .amazonSqs => "AmazonSqs"
  | .snowflake => "Snowflake"
  | .other _ => "Other"

/-- The label shown to people. -/
def label : Destination → String
  | .rabbitMq => "RabbitMQ"
  | .other label => label
  | d => d.name

end Destination

end Etl

end Telemetry
