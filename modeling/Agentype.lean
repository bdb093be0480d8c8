import Agentype.Contract.Results
import Agentype.Contract.Dependencies
import Agentype.Physical.Evidence
import Agentype.Agent.Matching
import Agentype.Catalog.AppendOnly
import Agentype.Frontier.Replay
import Agentype.Contract.Outbox
import Agentype.Contract.Escalations
import Agentype.Contract.Dispatch
import Agentype.Frontier.Fingerprints
import Agentype.Contract.Partitions
