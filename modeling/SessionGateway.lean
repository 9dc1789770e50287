import SessionGateway.Main
import SessionGateway.Proofs.Gateway.Replying
import SessionGateway.Proofs.Gateway.Moves
import SessionGateway.Proofs.Gateway.Registry
import SessionGateway.Proofs.Gateway.Passing
import SessionGateway.Proofs.Gateway.Rollback
import SessionGateway.Proofs.Gateway.Correlation
import SessionGateway.Proofs.Gateway.Gate
import SessionGateway.Proofs.Wire.Streams
import SessionGateway.Proofs.Gateway.HeartbeatRoom
import SessionGateway.Proofs.Liveness.LivingPeer
import SessionGateway.Proofs.Gateway.Affinity
import SessionGateway.Proofs.Wire.Chunks
import SessionGateway.Proofs.Gateway.Service
import SessionGateway.Proofs.Gateway.Deliveries
import SessionGateway.Proofs.Gateway.Outstanding
import SessionGateway.Proofs.Gateway.Hearing
import SessionGateway.Proofs.Gateway.Transparency
import SessionGateway.Proofs.Gateway.Endings
import SessionGateway.Proofs.Selection.Resolution
import SessionGateway.Proofs.Gateway.StickyRouting
import SessionGateway.Proofs.Gateway.Isolation
import SessionGateway.Proofs.Gateway.LinkLedger
import SessionGateway.Proofs.Gateway.HeartbeatContainment
import SessionGateway.Proofs.Liveness.Vigil
import SessionGateway.Proofs.Gateway.Turns
import SessionGateway.Proofs.Liveness.Silence
import SessionGateway.Proofs.Wire.Grammar
import SessionGateway.Proofs.Wire.LengthField
import SessionGateway.Proofs.Gateway.Housing
import SessionGateway.Proofs.Gateway.Shutdown
import SessionGateway.Proofs.Gateway.Lifecycle
import SessionGateway.Proofs.Gateway.Allowance
import SessionGateway.Proofs.Gateway.Drops
import SessionGateway.Proofs.Gateway.LastClient
import SessionGateway.Proofs.Gateway.Abreast
import SessionGateway.Proofs.Gateway.Overlong
import SessionGateway.Proofs.Text.Distinct
import SessionGateway.Proofs.Selection.Rotation
import SessionGateway.Proofs.Liveness.Timeline
import SessionGateway.Proofs.Wire.Registration
import SessionGateway.Proofs.Wire.HeartbeatExchange
import SessionGateway.Proofs.Admission.Clock
import SessionGateway.Proofs.Admission.Reckoning
import SessionGateway.Proofs.Admission.Accuracy
import SessionGateway.Proofs.Admission.Rejections
import SessionGateway.Proofs.Configuration.Validity
import SessionGateway.Proofs.Configuration.Conversion
import SessionGateway.Proofs.Text.Addresses
import SessionGateway.Proofs.Selection.Addresses
import SessionGateway.Proofs.Gateway.NodeAddresses
import SessionGateway.Proofs.Since
import SessionGateway.Proofs.Selection.Listing
import SessionGateway.Proofs.Selection.Positions
import SessionGateway.Proofs.Gateway.Waiting
import SessionGateway.Proofs.Gateway.Listening
