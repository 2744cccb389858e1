import SupportCrm.Admission
import SupportCrm.AnalyticsSchedule
import SupportCrm.Announcements
import SupportCrm.AssignmentChain
import SupportCrm.Broadcasts
import SupportCrm.Bursts
import SupportCrm.ClosedThreads
import SupportCrm.ClosingData
import SupportCrm.Conversations
import SupportCrm.DedupWindow
import SupportCrm.DefaultAssignee
import SupportCrm.Directory
import SupportCrm.Exclusion
import SupportCrm.FailedReplies
import SupportCrm.FirstResponse
import SupportCrm.Grouping
import SupportCrm.HandOver
import SupportCrm.Handshake
import SupportCrm.IdleWindow
import SupportCrm.Intake
import SupportCrm.LastGiven
import SupportCrm.LastMessage
import SupportCrm.LeastBusy
import SupportCrm.Listing
import SupportCrm.LiveEvents
import SupportCrm.LoginWidget
import SupportCrm.Mentions
import SupportCrm.Normalizer
import SupportCrm.NotificationCentre
import SupportCrm.Outbox
import SupportCrm.Overview
import SupportCrm.PatchResults
import SupportCrm.PersonalViews
import SupportCrm.Profiles
import SupportCrm.Resolution
import SupportCrm.Retry
import SupportCrm.SavedFilters
import SupportCrm.Typing
