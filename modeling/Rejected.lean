import Rejected.Data
import Rejected.Consumer.State
import Rejected.Consumer.Republish
import Rejected.Consumer.Execute
import Rejected.Consumer.Lifecycle
import Rejected.Consumer.Retry
import Rejected.Consumer.Stats
import Rejected.Consumer.Setup
import Rejected.Smart.Library
import Rejected.Smart.Codec
import Rejected.Smart.Body
import Rejected.Smart.Publish
import Rejected.Consumer.Reply
import Rejected.Smart.Table
import Rejected.Common
