import TwoWay.Frame.Operation
import TwoWay.Reflector.Session
import TwoWay.Responder
import TwoWay.Settings.Draft
import TwoWay.Proofs.Blocks
import TwoWay.Proofs.Checks
import TwoWay.Proofs.Rewriting
import TwoWay.Proofs.Handling
import TwoWay.Proofs.Datagrams
import TwoWay.Proofs.Records
import TwoWay.Proofs.Replies
import TwoWay.Proofs.Rounds
import TwoWay.Proofs.Padding
import TwoWay.Proofs.Readings
import TwoWay.Proofs.Sessions
import TwoWay.Proofs.Sockets
import TwoWay.Proofs.Responders
import TwoWay.Proofs.Payloads
import TwoWay.Proofs.Codecs
import TwoWay.Proofs.Measurements
import TwoWay.Proofs.Confinement
import TwoWay.Proofs.Fractions
import TwoWay.Proofs.Recoding
import TwoWay.Proofs.Order
import TwoWay.Proofs.Relays
import TwoWay.Proofs.Answers
import TwoWay.Proofs.Refusals
import TwoWay.Proofs.Ports
import TwoWay.Proofs.Differences
import TwoWay.Proofs.Clamping
import TwoWay.Proofs.Exchanges
import TwoWay.Proofs.Formats
import TwoWay.Proofs.Accesses
import TwoWay.Proofs.Estimates
import TwoWay.Proofs.Sending
import TwoWay.Proofs.Choices
import TwoWay.Proofs.Corrections
