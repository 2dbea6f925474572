import QuorumRescue.Digest.Sha256
import QuorumRescue.Failure
import QuorumRescue.IdMap
import QuorumRescue.Member
import QuorumRescue.Tree
import QuorumRescue.Main
import QuorumRescue.Proofs.ExitCode
import QuorumRescue.Proofs.Interruption
import QuorumRescue.Yaml.Lexer.Lines
import QuorumRescue.Yaml.Token
import QuorumRescue.Proofs.Forcing
import QuorumRescue.Proofs.Choice
import QuorumRescue.Proofs.OnFile
import QuorumRescue.Proofs.Operation
import QuorumRescue.Proofs.Run
import QuorumRescue.Proofs.DryRun
import QuorumRescue.Proofs.Exclusion
import QuorumRescue.Proofs.Independence
import QuorumRescue.Proofs.Layout
import QuorumRescue.Proofs.Records
import QuorumRescue.Proofs.Registry
import QuorumRescue.Proofs.Agreement
import QuorumRescue.Proofs.Codec
import QuorumRescue.Proofs.Tampering
import QuorumRescue.Proofs.Trust
import QuorumRescue.Proofs.Standing
import QuorumRescue.Proofs.Inconsistency
import QuorumRescue.Proofs.Address
import QuorumRescue.Proofs.Resolution
import QuorumRescue.Proofs.Deadline
import QuorumRescue.Proofs.Pattern
import QuorumRescue.Proofs.Tag
import QuorumRescue.Proofs.Header
import QuorumRescue.Proofs.Config
import QuorumRescue.Proofs.Evidence
import QuorumRescue.Proofs.Occupancy
import QuorumRescue.Proofs.Consent
