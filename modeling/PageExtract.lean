import PageExtract.Boundary
import PageExtract.Http
import PageExtract.Proofs.Entries
import PageExtract.Proofs.Runs
import PageExtract.Proofs.Evaluations
import PageExtract.Proofs.Selections
import PageExtract.Proofs.Isolation
import PageExtract.Proofs.Progress
import PageExtract.Proofs.Assembly
import PageExtract.Proofs.Calls
import PageExtract.Proofs.Hops
import PageExtract.Proofs.Causes
import PageExtract.Proofs.Severity
import PageExtract.Proofs.Mappings
import PageExtract.Proofs.FilteredLists
import PageExtract.Proofs.Values
import PageExtract.Proofs.Containment
import PageExtract.Proofs.Shapes
import PageExtract.Proofs.Defaults
import PageExtract.Proofs.FollowedErrors
import PageExtract.Proofs.PageRequests
import PageExtract.Proofs.BoundedFollows
import PageExtract.Proofs.GatedFollows
import PageExtract.Proofs.SingleForms
import PageExtract.Proofs.Histories
import PageExtract.Proofs.Authentications
import PageExtract.Proofs.ConcurrentLogins
import PageExtract.Proofs.Operations
import PageExtract.Proofs.WithdrawnJars
import PageExtract.Proofs.LoginDiscipline
import PageExtract.Proofs.SeparateSessions
import PageExtract.Proofs.Pieces
import PageExtract.Proofs.Placeholders
import PageExtract.Proofs.TokenReplacement
import PageExtract.Proofs.ParameterForms
import PageExtract.Proofs.Grammar
import PageExtract.Proofs.MissingElements
import PageExtract.Proofs.TagMarkup
import PageExtract.Proofs.BlankDirectives
import PageExtract.Proofs.Work
import PageExtract.Proofs.SiblingOrder
import PageExtract.Proofs.Misses
import PageExtract.Proofs.Confinement
import PageExtract.Proofs.Utf8
import PageExtract.Proofs.SuppliedPages
import PageExtract.Proofs.Replies
import PageExtract.Proofs.KeptFields
import PageExtract.Proofs.Cuts
import PageExtract.Proofs.PercentEncoding
import PageExtract.Proofs.Punycode
import PageExtract.Proofs.Domains
import PageExtract.Proofs.Addresses
import PageExtract.Proofs.Hosts
import PageExtract.Proofs.PathSegments
import PageExtract.Proofs.WrittenUrls
import PageExtract.Proofs.ReadAuthorities
import PageExtract.Proofs.ReadUrls
import PageExtract.Proofs.ResolvedLinks
import PageExtract.Proofs.BuiltSpecs
import PageExtract.Proofs.JsonForms
import PageExtract.Proofs.Words
import PageExtract.Proofs.TextNodes
