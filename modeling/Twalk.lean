import Twalk.Library.Json
import Twalk.Library.Sha256
import Twalk.Library.Text
import Twalk.Library.Ledger
import Twalk.Library.System
import Twalk.Library.Stream
import Twalk.Library.Mirror
import Twalk.Library.Replay
import Twalk.Library.Choice
import Twalk.Connections
import Twalk.ConnectionsConfig
import Twalk.Consent
import Twalk.ConsentStore
import Twalk.ConsentState
import Twalk.ConsentScreen
import Twalk.ConsentShown
import Twalk.ConsentCache
import Twalk.SensorConsent
import Twalk.ConsentWire
import Twalk.Grant
import Twalk.Envelope
import Twalk.Perimeters
import Twalk.Normalize
import Twalk.OwnerDevice
import Twalk.ReplyRuns
import Twalk.DeviceRuns
import Twalk.LastDecision
import Twalk.ConsentJournal
import Twalk.Outbox
import Twalk.Handoff
import Twalk.Activation
import Twalk.ActivationStart
import Twalk.ActivationKinds
import Twalk.Agreement
import Twalk.Exclusion
import Twalk.MailRules
import Twalk.Proposals
import Twalk.ProposalRuns
import Twalk.ApprovalRequest
import Twalk.Approval
import Twalk.ApprovalChecks
import Twalk.Disclosed
import Twalk.Allowed
import Twalk.ApprovalRuns
import Twalk.Reached
import Twalk.PersonaProcess
import Twalk.PersonaGate
import Twalk.BridgeStatus
import Twalk.BridgeRuns
import Twalk.Portals
import Twalk.PortalRuns
import Twalk.BridgeLogin
import Twalk.BridgeLoginRuns
import Twalk.Sessions
import Twalk.SessionRuns
import Twalk.CollectorOwner
import Twalk.ConsentFollower
import Twalk.Ical
import Twalk.Caldav
import Twalk.Calendars
import Twalk.CalendarRuns
import Twalk.CalendarWords
import Twalk.Jmap
import Twalk.Triage
import Twalk.Filing
import Twalk.FilingRounds
import Twalk.CollectorStatus
import Twalk.CollectorRounds
import Twalk.Relay
import Twalk.Reference
import Twalk.Suggestions
import Twalk.SuggestionRuns
import Twalk.Decisions
import Twalk.TabLock
import Twalk.TabRuns
import Twalk.Thread
import Twalk.SessionFile
import Twalk.GatewaySession
import Twalk.GatewayRuns
import Twalk.Ticks
import Twalk.TickState
import Twalk.TickRuns
import Twalk.Library.Talk
import Twalk.Homeserver
import Twalk.HandoverRoom
import Twalk.Credential
import Twalk.HandoverRuns
import Twalk.CredentialRuns
import Twalk.ConnectionStatuses
import Twalk.StatusRuns
import Twalk.CollectorGrant
import Twalk.GrantRuns
import Twalk.Library.Tail
import Twalk.Listings
import Twalk.ListingReads
import Twalk.ReadsAgree
import Twalk.Library.Rfc3339
import Twalk.Handlers
import Twalk.Library.CodePoints
import Twalk.PersonaSuggestion
import Twalk.SuggestionReads
import Twalk.HermesAnswer
import Twalk.HermesAnswers
import Twalk.HermesAnswered
import Twalk.TellingApart
import Twalk.DecisionKeys
import Twalk.PendingRuns
import Twalk.MailMoves
import Twalk.GraceRuns
import Twalk.ReplacedRooms
import Twalk.QuotedReplies
import Twalk.CheckedTimes
import Twalk.SessionKeeper
import Twalk.KeeperRuns
import Twalk.Library.Schema
import Twalk.Contracts
import Twalk.CollectorContract
import Twalk.FreeBusy
import Twalk.FreeBusyMerge
import Twalk.FreeGaps
import Twalk.Library.Intervals
import Twalk.WorkingHours
import Twalk.OwnersWeekday
import Twalk.InstantTexts
import Twalk.Library.SortedMap
import Twalk.WorkingDays
import Twalk.WorkingDayJournal
import Twalk.Library.Radix
import Twalk.RecoveryKey
import Twalk.Library.Chronology
import Twalk.FoundReferences
import Twalk.Contacts
import Twalk.Sightings
import Twalk.DraftPath
import Twalk.Standings
import Twalk.Library.Cuts
import Twalk.PostReads
import Twalk.SweepRounds
import Twalk.Originals
import Twalk.LocationSwitch
import Twalk.StepAnswers
import Twalk.FormCoding
import Twalk.StaticFiles
import Twalk.LanguageTags
import Twalk.ShellReload
import Twalk.Communities
import Twalk.ActivityFeed
import Twalk.WorkingDayForm
import Twalk.HtmlText
import Twalk.ProposalJournal
import Twalk.Restarts
import Twalk.ApprovalGesture
import Twalk.ContentLines
import Twalk.MailReplies
