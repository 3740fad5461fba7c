import Mainstay.Models
import Mainstay.Attestation.Service
import Mainstay.Attestation.Steps
import Mainstay.Attestation.Run
import Mainstay.Attestation.Invariants
import Mainstay.Attestation.Failures
import Mainstay.Attestation.Signers
import Mainstay.Attestation.Graph
import Mainstay.Attestation.Schedule
import Mainstay.Attestation.Reset
import Mainstay.Server.Upsert
import Mainstay.Server.DbMongo
import Mainstay.Server.Commitments
import Mainstay.System
import Mainstay.Signing
import Mainstay.Durability
import Mainstay.Deployment
