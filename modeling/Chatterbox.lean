import Chatterbox.Auth.Credentials
import Chatterbox.Auth.History
import Chatterbox.Auth.Revocation
import Chatterbox.Auth.Sessions
import Chatterbox.Auth.Signup
import Chatterbox.Auth.SingleUse
import Chatterbox.Auth.TokenHash
import Chatterbox.Auth.WsGuard
import Chatterbox.Chat.Audience
import Chatterbox.Chat.BlankTexts
import Chatterbox.Chat.BlockShield
import Chatterbox.Chat.Conflicts
import Chatterbox.Chat.Deletions
import Chatterbox.Chat.Failures
import Chatterbox.Chat.Idempotency
import Chatterbox.Chat.LastMessage
import Chatterbox.Chat.Listening
import Chatterbox.Chat.Listings
import Chatterbox.Chat.MessageLog
import Chatterbox.Chat.MessagePages
import Chatterbox.Chat.NotSeen
import Chatterbox.Chat.Openings
import Chatterbox.Chat.Pagination
import Chatterbox.Chat.Pointers
import Chatterbox.Chat.Privacy
import Chatterbox.Chat.Reloading
import Chatterbox.Chat.Resends
import Chatterbox.Chat.Rollback
import Chatterbox.Chat.Secrecy
import Chatterbox.Chat.SeenMessages
import Chatterbox.Chat.StaleEdits
import Chatterbox.Chat.Tombstones
import Chatterbox.Chat.Unread
import Chatterbox.Chat.UnreadViews
import Chatterbox.Chat.WsHandlers
import Chatterbox.Concurrency.Announcements
import Chatterbox.Socket.Alone
import Chatterbox.Socket.Answers
import Chatterbox.Socket.Delivery
import Chatterbox.User.BlockEvents
import Chatterbox.User.BlockHistory
