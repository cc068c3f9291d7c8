import Voicx.State.Speaking
import Voicx.State.Subscriptions
import Voicx.Channels.CleanupTimers
import Voicx.Channels.CleanupRaces
import Voicx.Channels.Transactions
import Voicx.Channels.Subtrees
import Voicx.Permissions.MergeAlgebra
import Voicx.Permissions.Inheritance
import Voicx.Server.Escalation
import Voicx.Server.FailedWrites
import Voicx.Server.Audience
import Voicx.Auth.LimiterBounds
import Voicx.Auth.LimiterLock
import Voicx.Server.LoginBans
import Voicx.Server.GuestNames
import Voicx.Server.TimedRestrictions
import Voicx.Server.SelfEntry
import Voicx.Server.RulesGate
import Voicx.Server.Occupancy
import Voicx.Server.Invisible
import Voicx.Server.KeyRotation
import Voicx.Server.KeyDelivery
import Voicx.Server.ChatScopes
import Voicx.Server.ChannelContext
import Voicx.E2EE.Session
import Voicx.Server.KeyRefinement
import Voicx.Store.Redemptions
import Voicx.Server.PreKeyBundles
import Voicx.Chat.ReactionCounts
import Voicx.Chat.Retries
import Voicx.Server.SpoolDelivery
import Voicx.Client.Attachments
import Voicx.Client.Downloads
import Voicx.Client.Hotkeys
import Voicx.Client.VerifiedFlag
import Voicx.Client.PinFile
import Voicx.Client.TabReplay
import Voicx.GrpcServer.Shutdown
import Voicx.FileTransfer.UploadQuotas
import Voicx.WebRTC.Simulcast
