import SiteProbe.Main
import SiteProbe.Script
import SiteProbe.Session
import SiteProbe.Proofs.Calls
import SiteProbe.Proofs.Fetching
import SiteProbe.Proofs.LeastClosure
import SiteProbe.Proofs.Augmentation
import SiteProbe.Proofs.SharedRequests
import SiteProbe.Proofs.Compiling
import SiteProbe.Proofs.Classification
import SiteProbe.Proofs.Independence
import SiteProbe.Proofs.RepeatedRequests
import SiteProbe.Proofs.Segments
import SiteProbe.Proofs.Reading
import SiteProbe.Proofs.ProbeAddresses
import SiteProbe.Proofs.Changes
import SiteProbe.Proofs.Surveys
import SiteProbe.Proofs.Scans
import SiteProbe.Proofs.Sessions
import SiteProbe.Proofs.Restructuring
import SiteProbe.Proofs.VersionSources
import SiteProbe.Proofs.Polarity
import SiteProbe.Proofs.EarlyClosure
import SiteProbe.Proofs.OfferedHeaders
import SiteProbe.Proofs.OperandKinds
import SiteProbe.Proofs.RetryCourse
import SiteProbe.Proofs.Merging
import SiteProbe.Proofs.GrowingPages
import SiteProbe.Proofs.VersionRules
import SiteProbe.Proofs.ReferredHeaders
import SiteProbe.Proofs.RuleFolders
import SiteProbe.Proofs.ReplacedRules
import SiteProbe.Proofs.ReportLines
import SiteProbe.Proofs.Pauses
import SiteProbe.Proofs.Targets
import SiteProbe.Proofs.ImpliedNames
import SiteProbe.Proofs.QueryDepth
