import GtpControl.CommandLine.FileTree
import GtpControl.Element.Reading
import GtpControl.Endpoint.Isolated
import GtpControl.Main
import GtpControl.Proofs.AcceptedCreation
import GtpControl.Proofs.AnswerMemory
import GtpControl.Proofs.ConcurrentCreation
import GtpControl.Proofs.FailedCreation
import GtpControl.Proofs.FinalClosing
import GtpControl.Proofs.ForeignDatagrams
import GtpControl.Proofs.Modification
import GtpControl.Proofs.NumberReuse
import GtpControl.Proofs.PeerBoundary
import GtpControl.Proofs.RequestAnswers
import GtpControl.Proofs.RequestCorrelation
import GtpControl.Proofs.SessionCreation
import GtpControl.Proofs.SessionDeletion
import GtpControl.Proofs.SessionRequests
import GtpControl.Proofs.ElementGrammar
import GtpControl.Proofs.GroupedPayloads
import GtpControl.Proofs.ProvokedAnswers
import GtpControl.Proofs.LenientReading
import GtpControl.Proofs.HeaderEdits
import GtpControl.Proofs.Renumbering
import GtpControl.Proofs.BufferedWriting
import GtpControl.Proofs.Positions
import GtpControl.Proofs.SpareBits
import GtpControl.Proofs.FairAllocation
import GtpControl.Proofs.DecodingBounds
import GtpControl.Proofs.GroupedReading
import GtpControl.Proofs.TypedReading
import GtpControl.Proofs.SessionLife
import GtpControl.Proofs.RequestedBearers
import GtpControl.Proofs.ContextEffects
import GtpControl.Proofs.DeletionOutcome
import GtpControl.Proofs.DataRecords
import GtpControl.Proofs.BearerValues
import GtpControl.Proofs.NameSpellings
import GtpControl.Proofs.NetworkIdentities
import GtpControl.Proofs.SubscriberIdentities
import GtpControl.Proofs.TypedOctets
import GtpControl.Proofs.BindingHistory
import GtpControl.Proofs.CallUpkeep
