import Watermill.Message
import Watermill.Cqrs.EventGroupProcessor
import Watermill.Cqrs.GroupHandlerFunc
import Watermill.Cqrs.AddHandlersToRouter
import Watermill.Cqrs.GroupRouting
import Watermill.Cqrs.PubSubRequestReply
import Watermill.Cqrs.ReplyWorker
import Watermill.Cqrs.ListenTimeout
import Watermill.Cqrs.SharedReplyTopic
import Watermill.Cqrs.ReplyTopics
import Watermill.RequestReply.SendWithReply
import Watermill.RequestReply.CommandHandler
