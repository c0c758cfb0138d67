import Interception.Config.Format
import Interception.Proofs.CachedObjects
import Interception.Proofs.CallJournal
import Interception.Proofs.CallSettlement
import Interception.Proofs.IntroductionConflicts
import Interception.Proofs.ObservedCalls
import Interception.Proofs.Publication
import Interception.Proofs.RefusedRegistrations
import Interception.Proofs.ScopeDiscipline
import Interception.Proofs.SignaturePointcut
import Interception.Session
import Interception.Proofs.MeterFamilies
import Interception.Proofs.ManagerSetup
import Interception.Proofs.SharedMeters
import Interception.Proofs.AlikePrograms
import Interception.Proofs.AttendedCalls
import Interception.Proofs.InsertedObservers
import Interception.Proofs.DialledCalls
import Interception.Proofs.MeteredNest
import Interception.Proofs.CountedCalls
import Interception.Proofs.ArgumentFit
import Interception.Proofs.TargetEntry
import Interception.Proofs.CallPhases
import Interception.Proofs.CapabilityAccess
import Interception.Proofs.MethodTables
import Interception.Proofs.ProxyHistories
import Interception.Proofs.MethodIdentifiers
import Interception.Proofs.CapabilityInstances
import Interception.Proofs.PointcutMeaning
import Interception.Proofs.ResolutionOrder
import Interception.Proofs.ProceedVerdicts
import Interception.Proofs.ContainedPrograms
import Interception.Proofs.Transcripts
import Interception.Proofs.RecordedRuns
import Interception.Proofs.RecordedCalls
import Interception.Proofs.IndependentCalls
import Interception.Proofs.ScopeHistories
import Interception.Proofs.ScopeOwnership
import Interception.Proofs.TypePatternRoundTrip
import Interception.Proofs.ExposedMethods
import Interception.Proofs.InterfaceTables
import Interception.Proofs.ProxyContents
import Interception.Proofs.GlobScan
import Interception.Proofs.BracketKinds
import Interception.Proofs.BracketWidth
import Interception.Proofs.CallInvariants
import Interception.Proofs.PastTarget
import Interception.Proofs.TargetFlag
